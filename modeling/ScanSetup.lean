import ScanSetup.Configuration.Reading
import ScanSetup.Disk
import ScanSetup.Listing.Help
import ScanSetup.Main
import ScanSetup.Proofs.Clamp.Boundary
import ScanSetup.Proofs.Lint.InPlace
import ScanSetup.Proofs.Lint.Separator
import ScanSetup.Proofs.Path.StandardInput
import ScanSetup.Proofs.Run.Announced
import ScanSetup.Proofs.Run.Clock
import ScanSetup.Proofs.Run.Command
import ScanSetup.Proofs.Run.Exchange
import ScanSetup.Proofs.Run.Gathering
import ScanSetup.Proofs.Run.LastWriter
import ScanSetup.Proofs.Run.Merging
import ScanSetup.Proofs.Run.Notation
import ScanSetup.Proofs.Run.Paranoia
import ScanSetup.Proofs.Run.PathNotices
import ScanSetup.Proofs.Run.Recoverable
import ScanSetup.Proofs.Run.Repetition
import ScanSetup.Proofs.Run.Reports
import ScanSetup.Proofs.Run.SinkConfig
import ScanSetup.Proofs.Run.Verdict
import ScanSetup.Proofs.Size.Order
import ScanSetup.Proofs.Terminal.Traces
import ScanSetup.Proofs.Time.Civil
