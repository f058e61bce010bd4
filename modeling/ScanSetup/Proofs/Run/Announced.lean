import ScanSetup.CommandLine
import ScanSetup.Proofs.Clamp.Boundary
import ScanSetup.Proofs.Configuration.Rendering
import ScanSetup.Proofs.Disk.Names
import ScanSetup.Proofs.Run.Outputs
import ScanSetup.Proofs.Size.Range
import ScanSetup.Proofs.Time.Instant
import ScanSetup.Proofs.Time.Stamp

set_option autoImplicit false

namespace ScanSetup

open Options Text Number

/-- A result, or a failure that a user can expect. -/
def Announced {α : Type} (outcome : Except Failure α) : Prop :=
  ∀ failure, outcome = .error failure → ∃ error, failure = .config error

/-- The clock shows a time of the years 1970 to 9999, and names without a NUL character are not
rejected for one. -/
structure Environment.Regular (env : Environment) : Prop where
  clock : Time.InCalendar env.now
  names : ∀ path, nul ∉ path.toList → env.lookup path ≠ .error .embeddedNul

theorem Disk.regular {env : Environment} (disk : Disk) (here : Place)
    (files : env.lookup = disk.lookup here) (clock : Time.InCalendar env.now) : env.Regular where
  clock := clock
  names path clean := by
    rw [files]
    exact disk.lookup_ne_embeddedNul here clean

theorem Environment.stampFiles_regular : Environment.stampFiles.Regular where
  clock := ⟨false, 0, rfl, Nat.dvd_zero _, by decide, by decide +kernel⟩
  names path clean := by
    simp only [Environment.stampFiles]
    split
    · simp
    · split <;> simp

/-- An option does not meet a limit that it fails to announce: plain seconds, given as they are or
in a stamp file, can be read as a whole number; the system says whether there is a cache; and the
product of no size is too large. -/
def Occurrence.Heeded (env : Environment) : Occurrence → Prop
  | ⟨.newerThan, spec⟩ => Time.Legible spec
  | ⟨.newerThanStamp, path⟩ => ∀ text, Time.StampText env path text → Time.Legible text
  | ⟨.cache, path⟩ =>
    ∀ fault, env.lookup (tidyPath path) = .error (.system fault) → fault.isAbsence = true
  | ⟨.sizeLimits, spec⟩ =>
    ∀ left right, Size.Sides spec left right →
      ¬Size.TooLarge left ∧ ((∃ least, Size.bound 0 left = .ok least) → ¬Size.TooLarge right)
  | ⟨.paranoidMem, spec⟩ => ¬Size.TooLarge spec
  | ⟨.clampLow, spec⟩ => Clamp.Fractional spec ∨ ¬Size.TooLarge spec
  | ⟨.clampTop, spec⟩ => Clamp.Fractional spec ∨ ¬Size.TooLarge spec
  | _ => True

/-- An option is reached if all options in front of it can be applied. -/
def Reaches (env : Environment) (arguments : List String) (o : Occurrence) : Prop :=
  ∃ front back middle, history arguments = front ++ o :: back ∧
    (Draft.initial arguments env.now env.workingDirectory).applyHistory env front = .ok middle

section

variable {α β : Type} {env : Environment} {d : Draft}

theorem announced_ok (a : α) : Announced (.ok a) := fun _ same => by cases same

theorem announced_config (error : ConfigError) :
    Announced (.error (.config error) : Except Failure α) := by
  intro failure same
  cases same
  exact ⟨error, rfl⟩

theorem announced_error_iff {failure : Failure} :
    Announced (.error failure : Except Failure α) ↔ ∃ error, failure = .config error := by
  constructor
  · intro announced
    exact announced failure rfl
  · rintro ⟨error, rfl⟩
    exact announced_config error

theorem not_announced_fault (fault : Fault) :
    ¬ Announced (.error (.fault fault) : Except Failure α) := by
  intro announced
  obtain ⟨error, same⟩ := announced _ rfl
  cases same

/-- A text that an option rejects is announced, but not a product that is too large. -/
theorem announced_unread_iff {ε : Type} {announce : ε → ConfigError} {reason : Unread ε} :
    Announced (.error (unread announce reason) : Except Failure α) ↔ reason ≠ .overflow := by
  cases reason with
  | rejected error => exact iff_of_true (announced_config _) (by simp)
  | overflow => exact iff_of_false (not_announced_fault _) (by simp)

theorem announced_map_iff {outcome : Except Failure α} {f : α → β} :
    Announced (outcome.map f) ↔ Announced outcome := by
  cases outcome with
  | ok a => exact iff_of_true (announced_ok _) (announced_ok _)
  | error failure => rw [Except.map, announced_error_iff, announced_error_iff]

namespace Draft

/-- A filter is set, or announced not to be, exactly if its point in time is legible. -/
theorem filterNewer_announced_iff {option spec : String}
    (clock : Time.InCalendar d.referenceTime) :
    Announced (d.filterNewer option spec) ↔ Time.Legible spec := by
  obtain ⟨now, written⟩ := Time.instantText_eq_ok clock
  rw [Time.legible_iff_parseStamp d.referenceTime]
  unfold filterNewer
  cases Time.parseStamp d.referenceTime spec with
  | error fault =>
    cases fault with
    | unparsable spec => exact iff_of_true (announced_config _) (by simp)
    | plain fault => exact iff_of_false (not_announced_fault _) (by simp)
  | ok stamp =>
    refine iff_of_true ?_ (by simp)
    simp only [written]
    split
    · exact announced_ok _
    · exact announced_ok _

theorem filterNewerThanFile_announced_iff {path : String} (regular : env.Regular)
    (clean : nul ∉ path.toList) (clock : Time.InCalendar d.referenceTime) :
    Announced (d.filterNewerThanFile env path) ↔
      ∀ text, Time.StampText env path text → Time.Legible text := by
  have named : Time.readStampFile env path ≠ .error .embeddedNul := by
    rw [Ne, Time.readStampFile_eq_embeddedNul_iff]
    exact regular.names _ (nul_not_mem_tidyPath clean)
  simp only [← Time.readStampFile_eq_ok_iff]
  unfold filterNewerThanFile
  cases read : Time.readStampFile env path with
  | error fault =>
    refine iff_of_true ?_ (by simp)
    cases fault with
    | embeddedNul => exact absurd read named
    | _ => exact announced_ok _
  | ok text =>
    simp only [Except.ok.injEq, forall_eq']
    generalize cleared : d.update (fun s => { s with timeFilter := .off }) = started
    have same : Time.InCalendar started.referenceTime := by
      rw [← cleared]
      exact clock
    have filter : Announced (started.filterNewer "--newer-than-stamp" text) ↔ Time.Legible text :=
      filterNewer_announced_iff same
    rw [← filter]
    cases started.filterNewer "--newer-than-stamp" text with
    | error failure => exact Iff.rfl
    | ok filtered => exact iff_of_true (announced_ok _) (announced_ok _)

theorem addCache_announced_iff {path : String} :
    Announced (d.addCache env path) ↔
      ∀ fault, env.lookup (tidyPath path) = .error (.system fault) → fault.isAbsence = true := by
  unfold addCache Environment.isFile
  cases env.lookup (tidyPath path) with
  | ok entry =>
    refine iff_of_true ?_ (by simp)
    dsimp only
    cases entry.content with
    | directory => exact announced_config _
    | file bytes failure? => exact announced_ok _
  | error fault =>
    cases fault with
    | embeddedNul => exact iff_of_true (announced_config _) (by simp)
    | system fault =>
      simp only [Except.error.injEq, LookupFault.system.injEq, forall_eq']
      by_cases absent : fault.isAbsence = true
      · rw [if_pos absent]
        exact iff_of_true (announced_config _) absent
      · rw [if_neg absent]
        exact iff_of_false (not_announced_fault _) absent

end Draft

theorem integerValue_announced (option value : String) :
    Announced (integerValue option value) := by
  unfold integerValue
  split
  · exact announced_ok _
  · exact announced_config _

theorem clampValue_announced_iff {value : String} :
    Announced (clampValue value) ↔ Clamp.Fractional value ∨ ¬Size.TooLarge value := by
  have read : Announced (clampValue value) ↔ ¬Clamp.parse value = .error .overflow := by
    unfold clampValue
    cases Clamp.parse value with
    | ok clamp => exact iff_of_true (announced_ok _) (by simp)
    | error reason => exact announced_unread_iff.trans (by simp)
  rw [read, Clamp.parse_overflow_iff, not_and_or, not_not]

/-- An option succeeds or announces its failure exactly if it meets no limit that it overlooks. -/
theorem Occurrence.apply_announced_iff {o : Occurrence} (regular : env.Regular)
    (clean : nul ∉ o.value.toList) (clock : Time.InCalendar d.referenceTime) :
    Announced (o.apply env d) ↔ o.Heeded env := by
  obtain ⟨effect, value⟩ := o
  unfold Occurrence.apply
  cases effect with
  | newerThanStamp => exact Draft.filterNewerThanFile_announced_iff regular clean clock
  | newerThan => exact Draft.filterNewer_announced_iff clock
  | cache => exact Draft.addCache_announced_iff
  | threads => exact iff_of_true (announced_map_iff.mpr (integerValue_announced _ _)) trivial
  | maxDepth => exact iff_of_true (announced_map_iff.mpr (integerValue_announced _ _)) trivial
  | clampLow => exact announced_map_iff.trans clampValue_announced_iff
  | clampTop => exact announced_map_iff.trans clampValue_announced_iff
  | sizeLimits =>
    refine Iff.trans ?_ Size.parseRange_ne_overflow_iff
    simp only [Effect.apply]
    cases Size.parseRange value with
    | error reason => simp [announced_unread_iff]
    | ok sizes => exact iff_of_true (announced_ok _) (by simp)
  | algorithm =>
    simp only [Effect.apply]
    cases Checksum.parse? value with
    | none => exact iff_of_true (announced_config _) trivial
    | some checksum => exact iff_of_true (announced_ok _) trivial
  | paranoidMem =>
    refine Iff.trans ?_ (not_congr (Size.parse_eq_overflow_iff value))
    simp only [Effect.apply]
    cases Size.parse value with
    | error reason => simp [announced_unread_iff]
    | ok size => exact iff_of_true (announced_ok _) (by simp)
  | paranoia delta =>
    simp only [Effect.apply, Draft.stepParanoia]
    cases paranoiaEffect? (d.settings.paranoia + delta) with
    | none => exact iff_of_true (announced_config _) trivial
    | some choice => cases choice <;> exact iff_of_true (announced_ok _) trivial
  | _ => exact iff_of_true (announced_ok _) trivial

theorem Draft.applyHistory_referenceTime {last : Draft} {occurrences : List Occurrence}
    (success : d.applyHistory env occurrences = .ok last) :
    last.referenceTime = d.referenceTime :=
  applyHistory_constant (fun d => d.referenceTime)
    (fun _ _ _ applied => (change_of_apply applied).referenceTime_eq) success

/-- Options succeed or announce their failure exactly if none of those that are reached meets a
limit that it overlooks. -/
theorem Draft.applyHistory_announced_iff {occurrences : List Occurrence} (regular : env.Regular)
    (clean : ∀ o ∈ occurrences, nul ∉ o.value.toList) (clock : Time.InCalendar d.referenceTime) :
    Announced (d.applyHistory env occurrences) ↔
      ∀ front o back middle, occurrences = front ++ o :: back →
        d.applyHistory env front = .ok middle → o.Heeded env := by
  have step : ∀ front o back middle, occurrences = front ++ o :: back →
      d.applyHistory env front = .ok middle →
        (Announced (o.apply env middle) ↔ o.Heeded env) := by
    intro front o back middle same reached
    have value : nul ∉ o.value.toList := clean o (by simp [same])
    have time : Time.InCalendar middle.referenceTime := by
      rw [applyHistory_referenceTime reached]
      exact clock
    exact Occurrence.apply_announced_iff regular value time
  constructor
  · intro announced front o back middle same reached
    rw [← step front o back middle same reached]
    intro failure failed
    exact announced failure
      (applyHistory_eq_error_iff.mpr ⟨front, o, back, middle, same, reached, failed⟩)
  · intro heeded failure failed
    obtain ⟨front, o, back, middle, same, reached, here⟩ := applyHistory_eq_error_iff.mp failed
    have announced := (step front o back middle same reached).mpr
      (heeded front o back middle same reached)
    exact announced failure here

variable {interactive : Bool} {arguments : List String} {draft : Draft}

/-- The closing checks announce their objections; a configuration that passed breaks no rule. -/
theorem Draft.close_announced
    (applied : ((Draft.initial arguments env.now env.workingDirectory).applyArguments
      env arguments).outcome = .ok draft) : Announced (draft.close env interactive) := by
  unfold Draft.close
  split
  · exact announced_config _
  · rename_i calm
    split
    · exact announced_config _
    · rename_i list found
      split
      · exact announced_config _
      · rename_i sinks settled
        have prepared : Prepared env arguments draft list sinks := ⟨applied, calm, found, settled⟩
        rw [(prepared.config_sound interactive).checked_eq]
        exact announced_ok _

theorem build_of_failed {failure : Failure}
    (failed : (Draft.initial arguments env.now env.workingDirectory).applyHistory env
      (history arguments) = .error failure) :
    (build env interactive arguments).outcome = .error failure := by
  simp only [build, Draft.applyArguments_of_failed failed]

/-- What a run does not announce is a fault of one of its options. -/
theorem build_announced_iff :
    Announced (build env interactive arguments).outcome ↔
      Announced ((Draft.initial arguments env.now env.workingDirectory).applyHistory env
        (history arguments)) := by
  unfold build
  dsimp only
  split
  · rename_i failure failed
    rcases Draft.applyArguments_eq_error failed with run | ⟨error, rfl⟩
    · rw [run, announced_error_iff, announced_error_iff]
    -- What stops the reading of arguments is announced; options in front of it may have failed
    -- before, but then that failure is the one at hand.
    · refine iff_of_true (announced_config _) ?_
      intro other run
      rw [Draft.applyArguments_of_failed run] at failed
      cases failed
      exact ⟨_, rfl⟩
  · rename_i draft applied
    obtain ⟨last, run, -⟩ := Draft.applyArguments_eq_ok applied
    rw [run]
    refine iff_of_true ?_ (announced_ok _)
    have announced : Announced (draft.close env interactive) := Draft.close_announced applied
    cases closed : draft.close env interactive with
    | ok result => exact announced_ok _
    | error failure =>
      obtain ⟨error, rfl⟩ := announced failure closed
      exact announced_config _

theorem build_minMtime_printable {config : Configuration}
    (success : (build env interactive arguments).outcome = .ok config) :
    Printable config.settings.timeFilter.minMtime := by
  obtain ⟨draft, list, sinks, prepared, rfl⟩ := build_eq_ok success
  obtain ⟨last, applied, rfl⟩ := Draft.applyArguments_eq_ok prepared.applied
  have initial : Printable TimeFilter.off.minMtime := .of_small (by decide)
  show Printable last.settings.timeFilter.minMtime
  refine Draft.applyHistory_invariant (fun d => Printable d.settings.timeFilter.minMtime) ?_
    applied initial
  intro o d next success before
  rcases (Draft.change_of_apply success).timeFilter_cases with
    same | off | ⟨spec, stamp, parsed, set⟩
  · rw [same]
    exact before
  · rw [off]
    exact initial
  · rw [set]
    exact Time.parseStamp_lt parsed

theorem resolveArguments_outcome (env : Environment) (arguments : List String) :
    (resolveArguments env arguments).outcome =
      match (build env env.isInteractive arguments).outcome with
      | .ok config => config.render
      | .error failure => .error failure := by
  unfold resolveArguments
  cases made : (build env env.isInteractive arguments).outcome with
  | ok config => simp only [made]
  | error failure => cases failure <;> simp only [made]

/-- A resolution announces its failure exactly if the run does, and if the configuration at its end
has a text. -/
theorem resolveArguments_announced_iff :
    Announced (resolveArguments env arguments).outcome ↔
      Announced (build env env.isInteractive arguments).outcome ∧
        ∀ config, (build env env.isInteractive arguments).outcome = .ok config →
          config.settings.Printable := by
  rw [resolveArguments_outcome]
  cases made : (build env env.isInteractive arguments).outcome with
  | error failure => simp [announced_error_iff]
  | ok config =>
    have sound : config.Sound env.isInteractive := by
      obtain ⟨draft, list, sinks, prepared, rfl⟩ := build_eq_ok made
      exact prepared.config_sound _
    have rendered := sound.render_iff (build_minMtime_printable made)
    simp only [Except.ok.injEq, forall_eq', announced_ok, true_and]
    rw [← rendered]
    constructor
    · intro announced
      by_contra failed
      rw [Configuration.render_eq_error failed] at announced
      exact not_announced_fault _ announced
    · rintro ⟨text, written⟩
      rw [written]
      exact announced_ok _

theorem heeded_iff (regular : env.Regular)
    (clean : ∀ argument ∈ arguments, nul ∉ argument.toList) :
    Announced (build env interactive arguments).outcome ↔
      ∀ o, Reaches env arguments o → o.Heeded env := by
  have values : ∀ o ∈ history arguments, nul ∉ o.value.toList := by
    intro o member held
    have apart : ∀ argument ∈ arguments, ∀ c ∈ argument.toList, c ≠ nul := by
      intro argument own c inside same
      exact clean argument own (same ▸ inside)
    exact history_value apart o member nul held rfl
  rw [build_announced_iff, Draft.applyHistory_announced_iff regular values regular.clock]
  constructor
  · rintro heeded o ⟨front, back, middle, same, reached⟩
    exact heeded front o back middle same reached
  · intro heeded front o back middle same reached
    exact heeded o ⟨front, back, middle, same, reached⟩

end

/-- In a regular world, and without NUL characters in its arguments, a run ends with a
configuration or an announced failure exactly if no option that it reaches meets a limit that it
fails to announce. A resolution then ends with a text or an announced failure exactly if, besides,
the sizes and offsets of the configuration have texts. -/
theorem resolve_announced {env : Environment} {arguments : List String} (regular : env.Regular)
    (clean : ∀ argument ∈ arguments, nul ∉ argument.toList) :
    (∀ interactive, Announced (build env interactive arguments).outcome ↔
      ∀ o, Reaches env arguments o → o.Heeded env) ∧
    (Announced (resolveArguments env arguments).outcome ↔
      (∀ o, Reaches env arguments o → o.Heeded env) ∧
        ∀ config, (build env env.isInteractive arguments).outcome = .ok config →
          config.settings.Printable) := by
  refine ⟨fun interactive => heeded_iff regular clean, ?_⟩
  rw [resolveArguments_announced_iff, heeded_iff regular clean]

def datedArguments : List String :=
  ["-N", " +1700000000 tail", "-n", "/plain.stamp", "-C", "/plain.stamp/", "-s", "1K-2E",
    "-q", "12"]

theorem datedArguments_heeded :
    ∀ o ∈ history datedArguments, o.Heeded .stampFiles := by
  have options : history datedArguments =
      [⟨.newerThan, " +1700000000 tail"⟩, ⟨.newerThanStamp, "/plain.stamp"⟩,
        ⟨.cache, "/plain.stamp/"⟩, ⟨.sizeLimits, "1K-2E"⟩, ⟨.clampLow, "12"⟩] := by
    decide +kernel
  have written : Time.Legible " +1700000000 tail" :=
    (Time.legible_iff (by decide +kernel)).mpr ⟨1700000000, by decide +kernel⟩
  have stored : ∀ text, Time.StampText .stampFiles "/plain.stamp" text → Time.Legible text := by
    have read : Time.readStampFile .stampFiles "/plain.stamp" = .ok "1700000000" := by
      decide +kernel
    intro text written
    rw [← Time.readStampFile_eq_ok_iff, read] at written
    cases written
    exact (Time.legible_iff (by decide +kernel)).mpr ⟨1700000000, by decide +kernel⟩
  have named : ∀ fault, Environment.stampFiles.lookup (tidyPath "/plain.stamp/") =
      .error (.system fault) → fault.isAbsence = true := by
    have found : (Environment.stampFiles.lookup (tidyPath "/plain.stamp/")).isOk = true := by
      decide +kernel
    intro fault missing
    rw [missing] at found
    cases found
  have limited : ∀ left right, Size.Sides "1K-2E" left right →
      ¬Size.TooLarge left ∧
        ((∃ least, Size.bound 0 left = .ok least) → ¬Size.TooLarge right) :=
    Size.parseRange_ne_overflow_iff.mp (by decide +kernel)
  have skipped : Clamp.Fractional "12" ∨ ¬Size.TooLarge "12" :=
    .inr (mt (Size.parse_eq_overflow_iff "12").mpr (by decide +kernel))
  rw [options]
  simp only [List.forall_mem_cons]
  exact ⟨written, stored, named, limited, skipped, by simp⟩

theorem resolve_announced_datedArguments :
    Environment.stampFiles.Regular ∧
      (∀ argument ∈ datedArguments, nul ∉ argument.toList) ∧
      Announced (build .stampFiles true datedArguments).outcome ∧
      Announced (resolveArguments .stampFiles datedArguments).outcome := by
  have clean : ∀ argument ∈ datedArguments, nul ∉ argument.toList := by decide +kernel
  obtain ⟨run, resolution⟩ := resolve_announced Environment.stampFiles_regular clean
  have heeded : ∀ o, Reaches .stampFiles datedArguments o → o.Heeded .stampFiles := by
    rintro o ⟨front, back, middle, same, -⟩
    exact datedArguments_heeded o (by simp [same])
  refine ⟨Environment.stampFiles_regular, clean, (run true).mpr heeded,
    resolution.mpr ⟨heeded, ?_⟩⟩
  have printable : ((build .stampFiles Environment.stampFiles.isInteractive
      datedArguments).outcome.toOption.all fun config => decide config.settings.Printable) =
        true := by
    decide +kernel
  intro config made
  simpa [made, Except.toOption] using printable

theorem build_ones (env : Environment) (interactive : Bool) {count : Nat}
    (long : maxIntegerDigits < count) :
    (build env interactive ["-N", Time.ones count]).outcome =
      .error (.fault (.plain (.tooManyDigits count))) := by
  have options : history ["-N", Time.ones count] = [⟨.newerThan, Time.ones count⟩] := rfl
  refine build_of_failed ?_
  rw [options]
  simp only [Draft.applyHistory, Occurrence.apply, Effect.apply, Draft.filterNewer,
    Time.parseStamp, Time.isPlain_ones, Time.parsePlain_ones long, ↓reduceIte]

def overlongArguments : List String := ["-N", Time.ones 4301]

theorem overlongArguments_unannounced :
    Environment.stampFiles.Regular ∧
      (∀ argument ∈ overlongArguments, nul ∉ argument.toList) ∧
      (build .stampFiles false overlongArguments).outcome =
        .error (.fault (.plain (.tooManyDigits 4301))) ∧
      ¬ Announced (build .stampFiles false overlongArguments).outcome ∧
      ¬ Announced (resolveArguments .stampFiles overlongArguments).outcome := by
  have clean : ∀ count, ∀ argument ∈ ["-N", Time.ones count], nul ∉ argument.toList := by
    intro count
    simp [Time.ones, nul]
  have run : ∀ interactive, (build .stampFiles interactive overlongArguments).outcome =
      .error (.fault (.plain (.tooManyDigits 4301))) :=
    fun interactive => build_ones .stampFiles interactive (by decide)
  have resolution : (resolveArguments .stampFiles overlongArguments).outcome =
      .error (.fault (.plain (.tooManyDigits 4301))) := by
    rw [resolveArguments_outcome, run]
  refine ⟨Environment.stampFiles_regular, clean 4301, run false, ?_, ?_⟩
  · rw [run]
    exact not_announced_fault _
  · rw [resolution]
    exact not_announced_fault _

end ScanSetup
