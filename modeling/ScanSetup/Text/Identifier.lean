import ScanSetup.Text.Character
import ScanSetup.Text.Letter
import ScanSetup.Text.Mark

set_option autoImplicit false

namespace ScanSetup.Text

/-- Code points that are not letters and may start an identifier. -/
def startRanges : CodeRanges := [
  (0x5f, 0x5f), (0x16ee, 0x16f0), (0x1885, 0x1886), (0x2118, 0x2118), (0x212e, 0x212e),
  (0x2160, 0x2182), (0x2185, 0x2188), (0x3007, 0x3007), (0x3021, 0x3029), (0x3038, 0x303a),
  (0xa6e6, 0xa6ef), (0x10140, 0x10174), (0x10341, 0x10341), (0x1034a, 0x1034a),
  (0x103d1, 0x103d5), (0x12400, 0x1246e)]

/-- Letters that may not start an identifier, most of them because their compatibility forms may
not. -/
def excludedRanges : CodeRanges := [
  (0x37a, 0x37a), (0xe33, 0xe33), (0xeb3, 0xeb3), (0x2e2f, 0x2e2f), (0xfc5e, 0xfc63),
  (0xfdfa, 0xfdfb), (0xfe70, 0xfe70), (0xfe72, 0xfe72), (0xfe74, 0xfe74), (0xfe76, 0xfe76),
  (0xfe78, 0xfe78), (0xfe7a, 0xfe7a), (0xfe7c, 0xfe7c), (0xfe7e, 0xfe7e), (0xff9e, 0xff9f)]

/-- Code points that are neither marks nor digits and may stand in an identifier only behind its
start. -/
def linkRanges : CodeRanges := [
  (0xb7, 0xb7), (0x387, 0x387), (0xe33, 0xe33), (0xeb3, 0xeb3), (0x1369, 0x1371),
  (0x19da, 0x19da), (0x203f, 0x2040), (0x2054, 0x2054), (0xfe33, 0xfe34), (0xfe4d, 0xfe4f),
  (0xff3f, 0xff3f), (0xff9e, 0xff9f)]

def startsIdentifier (c : Char) : Bool :=
  (isLetter c && !excludedRanges.contains c.toNat) || startRanges.contains c.toNat

def continuesIdentifier (c : Char) : Bool :=
  startsIdentifier c || isMark c || isDigit c || linkRanges.contains c.toNat

def isIdentifier (s : String) : Bool :=
  match s.toList with
  | [] => false
  | c :: rest => startsIdentifier c && rest.all continuesIdentifier

end ScanSetup.Text
