import ScanSetup.Proofs.Draft.Fields
import ScanSetup.Proofs.Lint.InPlace
import ScanSetup.Proofs.Run.Outputs
import ScanSetup.Proofs.Text.Split

set_option autoImplicit false

namespace ScanSetup

open Text Options

/-- A text that writes no override: there is no colon, or no key behind the first one. -/
def Override.Malformed (pair : String) : Prop :=
  ':' ∉ pair.toList ∨
    ∃ formatter rest, pair.toList = formatter ++ ':' :: rest ∧ ':' ∉ formatter ∧
      (rest = [] ∨ ∃ value, rest = '=' :: value)

theorem Override.malformed_iff (pair : String) :
    Override.Malformed pair ↔ ∃ fault, Override.parse pair = .error fault := by
  constructor
  · rintro (absent | ⟨formatter, rest, spelled, absent, keyless⟩)
    · exact ⟨.noFormatter, by rw [Override.parse, cut_of_not_mem absent]⟩
    · refine ⟨.noKey, ?_⟩
      rw [Override.parse, spelled, cut_append absent]
      rcases keyless with rfl | ⟨value, rfl⟩
      · rfl
      · rfl
  · rintro ⟨fault, unread⟩
    have joined := join_cut ':' pair.toList
    have absent := not_mem_cut ':' pair.toList
    unfold Override.parse at unread
    split at unread
    · rename_i formatter parts
      rw [parts] at joined absent
      refine Or.inl ?_
      rw [← joined]
      simpa using absent
    · rename_i formatter rest parts
      rw [parts] at joined absent
      refine Or.inr ⟨formatter, rest, joined.symm, absent, ?_⟩
      split at unread
      · rename_i value? key
        have back := join_cut '=' rest
        rw [key] at back
        cases value? with
        | none => exact Or.inl back.symm
        | some value => exact Or.inr ⟨value, back.symm⟩
      · cases unread

namespace Lint

/-- A token of a list of lint types is applied: it has a sign or stands first, and it names a
bundle. -/
def Catalog.applies (catalog : Catalog) (first : Bool) (token : List Char) : Bool :=
  !token.isEmpty && (first || (signed token).1.isSome) &&
    (catalog.find? (String.ofList (signed token).2)).isSome

/-- No token of a list of lint types is applied. -/
def Catalog.appliesNone (catalog : Catalog) (spec : String) : Bool :=
  match pieces (separator spec) spec.toList with
  | [] => true
  | token :: rest =>
    !catalog.applies true token && rest.all fun token => !catalog.applies false token

namespace Selection

variable {catalog : Catalog}

theorem step_of_not_applies {first : Bool} {token : List Char}
    (idle : catalog.applies first token = false) (s : Selection) :
    ∃ noted, step catalog first s token = { s with notices := s.notices ++ noted } := by
  unfold step
  split
  · exact ⟨[], by rw [List.append_nil]⟩
  · rename_i nonempty
    dsimp only
    split
    · exact ⟨_, rfl⟩
    · rename_i unsigned
      split
      · exact ⟨_, rfl⟩
      · rename_i bundle found
        exfalso
        cases sign : (signed token).1 <;> cases first <;> simp_all [Catalog.applies]

theorem foldl_of_not_applies {tokens : List (List Char)}
    (idle : ∀ token ∈ tokens, catalog.applies false token = false) (s : Selection) :
    ∃ noted, tokens.foldl (step catalog false) s = { s with notices := s.notices ++ noted } := by
  induction tokens generalizing s with
  | nil => exact ⟨[], by rw [List.foldl_nil, List.append_nil]⟩
  | cons token rest ih =>
    obtain ⟨here, others⟩ := List.forall_mem_cons.mp idle
    obtain ⟨noted, same⟩ := step_of_not_applies here s
    obtain ⟨more, last⟩ := ih others { s with notices := s.notices ++ noted }
    refine ⟨noted ++ more, ?_⟩
    rw [List.foldl_cons, same, last, List.append_assoc]

theorem parse_of_appliesNone {spec : String} (idle : catalog.appliesNone spec = true) :
    ∃ noted, parse catalog spec = { unchanged with notices := noted } := by
  rw [Catalog.appliesNone] at idle
  rw [parse]
  cases tokens : pieces (separator spec) spec.toList with
  | nil => exact ⟨[], rfl⟩
  | cons token rest =>
    rw [tokens] at idle
    obtain ⟨first, others⟩ : catalog.applies true token = false ∧
        ∀ token ∈ rest, catalog.applies false token = false := by
      simpa using idle
    obtain ⟨noted, same⟩ := step_of_not_applies first .unchanged
    obtain ⟨more, last⟩ := foldl_of_not_applies others
      { Selection.unchanged with notices := Selection.unchanged.notices ++ noted }
    rw [ofTokens, same, last]
    exact ⟨_, rfl⟩

end Selection

end Lint

/-- The input of an option contributes nothing: a malformed override, lint types of which none is
applied, or a stamp file without a stamp. Only a name with a NUL character counts as no file. -/
def Occurrence.Idle (env : Environment) (o : Occurrence) : Prop :=
  match o.effect with
  | .configure => Override.Malformed o.value
  | .types => Lint.catalog.appliesNone o.value = true
  | .newerThanStamp =>
    (∀ text, ¬Time.StampText env o.value text) ∧
      env.lookup (tidyPath o.value) ≠ .error .embeddedNul
  | _ => False

namespace Draft

/-- What is left of an option whose input contributes nothing. -/
def afterIdle (d : Draft) : Effect → Draft
  | .types => d.includeForMerging
  | .newerThanStamp => d.update ({ · with timeFilter := .off })
  | _ => d

end Draft

namespace Draft

theorem configure_of_malformed {pair : String} (malformed : Override.Malformed pair) (d : Draft) :
    ∃ noted, d.configure pair = { d with notices := d.notices ++ noted } := by
  obtain ⟨fault, unread⟩ := (Override.malformed_iff pair).mp malformed
  refine ⟨[fault.message pair], ?_⟩
  rw [configure, unread]
  rfl

theorem applyLintTypes_of_appliesNone {catalog : Lint.Catalog} {spec : String}
    (idle : catalog.appliesNone spec = true) (d : Draft) :
    ∃ noted, d.applyLintTypes catalog spec =
      { d.includeForMerging with notices := d.notices ++ noted } := by
  obtain ⟨noted, same⟩ := Lint.Selection.parse_of_appliesNone idle
  refine ⟨noted, ?_⟩
  have kept : d.update (fun s => { s with
      lint := (Lint.Selection.parse catalog spec).apply s.lint }) = d := by
    have lint : (Lint.Selection.parse catalog spec).apply d.settings.lint = d.settings.lint := by
      rw [same]
      exact Lint.Selection.apply_unchanged d.settings.lint
    rw [update, lint]
  have notices : d.includeForMerging.notices = d.notices := by
    unfold includeForMerging
    split <;> rfl
  rw [applyLintTypes, applySelection, kept, same, ← notices]
  rfl

end Draft

/-- An option whose input contributes nothing succeeds on every draft, reached by other options or
not. It leaves notices behind those there are, and what `afterIdle` says, and nothing else. -/
theorem Occurrence.apply_idle {env : Environment} {o : Occurrence} (idle : o.Idle env) (d : Draft) :
    ∃ noted, o.apply env d =
      .ok { d.afterIdle o.effect with notices := d.notices ++ noted } := by
  obtain ⟨effect, value⟩ := o
  unfold Idle at idle
  dsimp only at idle
  split at idle
  · obtain ⟨noted, same⟩ := Draft.configure_of_malformed idle d
    exact ⟨noted, congrArg Except.ok same⟩
  · obtain ⟨noted, same⟩ := Draft.applyLintTypes_of_appliesNone idle d
    exact ⟨noted, congrArg Except.ok same⟩
  · obtain ⟨none, named⟩ := idle
    obtain ⟨fault, unread⟩ := Time.stampText_unread_iff.mp none
    have other : fault ≠ .embeddedNul := by
      rintro rfl
      exact named (Time.readStampFile_eq_embeddedNul_iff.mp unread)
    refine ⟨[fault.message], ?_⟩
    simp only [apply, Effect.apply, Draft.filterNewerThanFile, unread]
    rfl
  · cases idle

def mergingArguments : List String := ["-D", "-R", "-N", "1700000000"]

def idleTypes : Occurrence := ⟨.types, "zz,+yy,dd"⟩

def idleStamp : Occurrence := ⟨.newerThanStamp, "/stamp"⟩

theorem idleTypes_idle : idleTypes.Idle .empty := by
  change Lint.catalog.appliesNone "zz,+yy,dd" = true
  decide +kernel

theorem idleStamp_idle : idleStamp.Idle .empty :=
  ⟨Time.stampText_unread_iff.mpr ⟨.cannotOpen "/stamp" .noEntry, by decide +kernel⟩,
    by decide +kernel⟩

theorem apply_idle_mergingArguments :
    idleTypes.Idle .empty ∧ idleStamp.Idle .empty ∧
      ∃ d, (Draft.atRoot.applyArguments .empty mergingArguments).outcome = .ok d ∧
        (∃ noted, idleTypes.apply .empty d =
          .ok { d.includeForMerging with notices := d.notices ++ noted }) ∧
        ∃ noted, idleStamp.apply .empty d =
          .ok { d.update ({ · with timeFilter := .off }) with notices := d.notices ++ noted } := by
  have applied : (Draft.atRoot.applyArguments .empty mergingArguments).outcome.isOk = true := by
    decide +kernel
  obtain ⟨d, reached⟩ := eq_ok_of_isOk applied
  exact ⟨idleTypes_idle, idleStamp_idle, d, reached, Occurrence.apply_idle idleTypes_idle d,
    Occurrence.apply_idle idleStamp_idle d⟩

/-- Options whose inputs contribute nothing may change more than the notices: behind these arguments
the lint types turn a switch, and the stamp file turns the time filter off. -/
theorem mergingArguments_disturbed :
    idleTypes.Idle .empty ∧ idleStamp.Idle .empty ∧
      ∃ d, (Draft.atRoot.applyArguments .empty mergingArguments).outcome = .ok d ∧
        (∃ next, idleTypes.apply .empty d = .ok next ∧
          next.get (.switch .ignoreHidden) ≠ d.get (.switch .ignoreHidden)) ∧
        ∃ next, idleStamp.apply .empty d = .ok next ∧ next.get .timeFilter ≠ d.get .timeFilter := by
  have moved : (Draft.atRoot.applyArguments .empty mergingArguments).outcome.toOption.any (fun d =>
      idleTypes.effect.moves .empty idleTypes.value d (.switch .ignoreHidden) &&
        idleStamp.effect.moves .empty idleStamp.value d .timeFilter) = true := by
    decide +kernel
  obtain ⟨d, reached, both⟩ := eq_ok_of_any moved
  obtain ⟨types, stamp⟩ := Bool.and_eq_true_iff.mp both
  exact ⟨idleTypes_idle, idleStamp_idle, d, reached, Draft.exists_of_moves types,
    Draft.exists_of_moves stamp⟩

end ScanSetup
