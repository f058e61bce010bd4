import ScanSetup.Proofs.Draft.Changes
import ScanSetup.Proofs.Run.Concatenation
import ScanSetup.Proofs.Token.Origin
import Mathlib.Data.List.Induction

set_option autoImplicit false

namespace ScanSetup

open Options

/-- An option that occurs on a command line. -/
structure Occurrence where
  effect : Effect
  value : String
  deriving DecidableEq, Repr

def Occurrence.apply (env : Environment) (o : Occurrence) (d : Draft) : Except Failure Draft :=
  o.effect.apply env o.value d

def Token.occurrence? : Token Effect → Option Occurrence
  | .option spec value _ => some ⟨spec.meaning, value⟩
  | .path _ => none

def Token.path? {Meaning : Type} : Token Meaning → Option String
  | .option _ _ _ => none
  | .path value => some value

/-- The options of a command line in order. -/
def history (arguments : List String) : List Occurrence :=
  (tokenize schema arguments).list.filterMap Token.occurrence?

def pathArguments (arguments : List String) : List String :=
  (tokenize schema arguments).list.filterMap Token.path?

namespace Draft

/-- Applies options in order, up to the first that fails. -/
def applyHistory (env : Environment) (d : Draft) : List Occurrence → Except Failure Draft
  | [] => .ok d
  | o :: rest =>
    match o.apply env d with
    | .error failure => .error failure
    | .ok next => applyHistory env next rest

variable {env : Environment} {d middle last : Draft} {o : Occurrence}
variable {front back occurrences : List Occurrence} {failure : Failure}

theorem applyHistory_append (env : Environment) (d : Draft) (front back : List Occurrence) :
    d.applyHistory env (front ++ back) =
      match d.applyHistory env front with
      | .error failure => .error failure
      | .ok middle => middle.applyHistory env back := by
  induction front generalizing d with
  | nil => rfl
  | cons o rest ih =>
    simp only [List.cons_append, applyHistory]
    cases o.apply env d with
    | error failure => rfl
    | ok next => exact ih next

theorem applyHistory_append_eq_ok :
    d.applyHistory env (front ++ back) = .ok last ↔
      ∃ middle, d.applyHistory env front = .ok middle ∧ middle.applyHistory env back = .ok last := by
  rw [applyHistory_append]
  cases d.applyHistory env front with
  | error failure => simp
  | ok middle => simp

theorem applyHistory_concat_eq_ok
    (success : d.applyHistory env (front ++ [o]) = .ok last) :
    ∃ middle, d.applyHistory env front = .ok middle ∧ o.apply env middle = .ok last := by
  rw [applyHistory_append] at success
  cases first : d.applyHistory env front with
  | error failure =>
    rw [first] at success
    cases success
  | ok middle =>
    refine ⟨middle, rfl, ?_⟩
    rw [first] at success
    cases applied : o.apply env middle with
    | error failure => simp [applyHistory, applied] at success
    | ok next => simpa [applyHistory, applied] using success

/-- Options fail together where one of them fails, and those in front of it were applied. -/
theorem applyHistory_eq_error_iff :
    d.applyHistory env occurrences = .error failure ↔
      ∃ front o back middle, occurrences = front ++ o :: back ∧
        d.applyHistory env front = .ok middle ∧ o.apply env middle = .error failure := by
  constructor
  · intro failed
    induction occurrences generalizing d with
    | nil => cases failed
    | cons o rest ih =>
      unfold applyHistory at failed
      split at failed
      · rename_i other here
        cases failed
        exact ⟨[], o, rest, d, rfl, rfl, here⟩
      · rename_i next applied
        obtain ⟨front, last, back, middle, rfl, reached, here⟩ := ih failed
        refine ⟨o :: front, last, back, middle, rfl, ?_, here⟩
        simp only [applyHistory, applied, reached]
  · rintro ⟨front, o, back, middle, rfl, reached, failed⟩
    simp only [applyHistory_append, reached, applyHistory, failed]

/-- The outcome of a run: the options decide it, and what stopped the reading of further tokens. -/
theorem applyTokens_outcome (env : Environment) (error? : Option UsageError) (d : Draft)
    (paths : List String) (tokens : List (Token Effect)) :
    (d.applyTokens env error? paths tokens).outcome =
      match d.applyHistory env (tokens.filterMap Token.occurrence?), error? with
      | .error failure, _ => .error failure
      | .ok _, some error => .error (.config (.usage error))
      | .ok last, none => .ok (last.withPositionals (paths ++ tokens.filterMap Token.path?)) := by
  induction tokens generalizing d paths with
  | nil =>
    cases error? with
    | none => simp [applyTokens, applyHistory, withPositionals]
    | some error => rfl
  | cons token rest ih =>
    cases token with
    | path value =>
      have option : (Token.path value :: rest).filterMap Token.occurrence? =
          rest.filterMap Token.occurrence? := List.filterMap_cons_none rfl
      have path : (Token.path value :: rest).filterMap Token.path? =
          value :: rest.filterMap Token.path? := List.filterMap_cons_some rfl
      rw [applyTokens, ih, option, path, List.append_assoc]
      rfl
    | option spec value written =>
      simp only [applyTokens, List.filterMap_cons, Token.occurrence?, Token.path?, applyHistory,
        Occurrence.apply]
      cases spec.meaning.apply env value d with
      | error failure => rfl
      | ok next => exact ih next paths

theorem applyArguments_eq_ok {arguments : List String} {final : Draft}
    (success : (d.applyArguments env arguments).outcome = .ok final) :
    ∃ last, d.applyHistory env (history arguments) = .ok last ∧
      final = last.withPositionals (d.positionals ++ pathArguments arguments) := by
  rw [applyArguments, applyTokens_outcome] at success
  split at success
  · cases success
  · cases success
  · rename_i last applied _
    exact ⟨last, applied, (Except.ok.inj success).symm⟩

theorem applyArguments_eq_error {arguments : List String}
    (failed : (d.applyArguments env arguments).outcome = .error failure) :
    d.applyHistory env (history arguments) = .error failure ∨
      ∃ error, failure = .config (.usage error) := by
  rw [applyArguments, applyTokens_outcome] at failed
  split at failed
  · rename_i other applied
    cases failed
    exact Or.inl applied
  · exact Or.inr ⟨_, (Except.error.inj failed).symm⟩
  · cases failed

theorem applyArguments_of_failed {arguments : List String}
    (failed : d.applyHistory env (history arguments) = .error failure) :
    (d.applyArguments env arguments).outcome = .error failure := by
  rw [history] at failed
  rw [applyArguments, applyTokens_outcome, failed]

theorem applyArguments_of_applied {arguments : List String}
    (read : (tokenize schema arguments).error? = none)
    (applied : d.applyHistory env (history arguments) = .ok last) :
    (d.applyArguments env arguments).outcome =
      .ok (last.withPositionals (d.positionals ++ pathArguments arguments)) := by
  rw [history] at applied
  rw [applyArguments, applyTokens_outcome, applied, read, pathArguments]

/-- What every option makes of a view of the draft, a run makes of it by folding the history. -/
theorem applyHistory_foldl {α : Type} (view : Draft → α) (step : α → Occurrence → α)
    (each : ∀ o ∈ occurrences, ∀ d next, o.apply env d = .ok next → view next = step (view d) o)
    (success : d.applyHistory env occurrences = .ok last) :
    view last = occurrences.foldl step (view d) := by
  induction occurrences using List.reverseRecOn generalizing last with
  | nil =>
    cases success
    rfl
  | append_singleton front o ih =>
    obtain ⟨middle, reached, applied⟩ := applyHistory_concat_eq_ok success
    have before := ih (fun o member => each o (List.mem_append_left _ member)) reached
    rw [List.foldl_append, ← before]
    exact each o (by simp) middle last applied

/-- What every option keeps, a run keeps. -/
theorem applyHistory_invariant (holds : Draft → Prop)
    (each : ∀ (o : Occurrence) (d next : Draft), o.apply env d = .ok next → holds d → holds next)
    (success : d.applyHistory env occurrences = .ok last) (first : holds d) : holds last := by
  induction occurrences generalizing d with
  | nil =>
    cases success
    exact first
  | cons o rest ih =>
    unfold applyHistory at success
    split at success
    · cases success
    · rename_i next applied
      exact ih success (each o d next applied first)

theorem applyHistory_constant {α : Type} (view : Draft → α)
    (each : ∀ (o : Occurrence) (d next : Draft), o.apply env d = .ok next → view next = view d)
    (success : d.applyHistory env occurrences = .ok last) : view last = view d := by
  refine applyHistory_invariant (fun other => view other = view d) ?_ success rfl
  intro o before next applied same
  rw [each o before next applied, same]

/-- What options establish, and none of them undoes, holds at the end if it held before or if one
of them established it. -/
theorem applyHistory_sticky (holds : Draft → Prop) (establishes : Occurrence → Prop)
    (each : ∀ o ∈ occurrences, ∀ d next, o.apply env d = .ok next →
      (holds next ↔ holds d ∨ establishes o))
    (success : d.applyHistory env occurrences = .ok last) :
    holds last ↔ holds d ∨ ∃ o ∈ occurrences, establishes o := by
  induction occurrences using List.reverseRecOn generalizing last with
  | nil =>
    cases success
    simp
  | append_singleton front o ih =>
    obtain ⟨middle, reached, applied⟩ := applyHistory_concat_eq_ok success
    have before := ih (fun o member => each o (List.mem_append_left _ member)) reached
    rw [each o (by simp) middle last applied, before]
    simp only [List.mem_append, List.mem_singleton, or_and_right, exists_or, exists_eq_left,
      or_assoc]

/-- The last option that writes a view of the draft decides it. -/
theorem applyHistory_last {α : Type} (view : Draft → α) (writes : Occurrence → Bool)
    (written : Occurrence → α → Prop)
    (each : ∀ o d next, o.apply env d = .ok next →
      if writes o then written o (view next) else view next = view d)
    (success : d.applyHistory env occurrences = .ok last) :
    match (occurrences.filter writes).getLast? with
    | none => view last = view d
    | some o => written o (view last) := by
  induction occurrences using List.reverseRecOn generalizing last with
  | nil =>
    cases success
    rfl
  | append_singleton front o ih =>
    obtain ⟨middle, reached, applied⟩ := applyHistory_concat_eq_ok success
    have change := each o middle last applied
    by_cases here : writes o = true
    · rw [if_pos here] at change
      simpa [here] using change
    · rw [if_neg here] at change
      simp only [List.filter_append, List.filter_cons, here, Bool.false_eq_true, ↓reduceIte,
        List.filter_nil, List.append_nil, change]
      exact ih reached

end Draft

theorem history_known {arguments : List String} :
    ∀ o ∈ history arguments, o.effect ∈ table.map (·.meaning) := by
  intro o member
  obtain ⟨token, read, same⟩ := List.mem_filterMap.mp member
  have origin := tokenize_from (p := fun _ => True) schema (fun _ _ _ _ => trivial) token read
  cases token with
  | path value => cases same
  | option spec value written =>
    cases same
    exact List.mem_map_of_mem origin.1

theorem history_value {p : Char → Prop} {arguments : List String}
    (pure : ∀ argument ∈ arguments, ∀ c ∈ argument.toList, p c) :
    ∀ o ∈ history arguments, ∀ c ∈ o.value.toList, p c := by
  intro o member
  obtain ⟨token, read, same⟩ := List.mem_filterMap.mp member
  have origin := tokenize_from schema pure token read
  cases token with
  | path value => cases same
  | option spec value written =>
    cases same
    exact origin.2

end ScanSetup
