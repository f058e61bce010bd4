import ScanSetup.Proofs.Configuration.Soundness

set_option autoImplicit false

namespace ScanSetup

variable {env : Environment} {interactive : Bool} {arguments : List String}
variable {draft : Draft} {list : PathList} {sinks : List Sink}
variable {config : Configuration} {notices : List String}

/-- Everything that a run does before it makes a configuration has succeeded. -/
structure Prepared (env : Environment) (arguments : List String) (draft : Draft) (list : PathList)
    (sinks : List Sink) : Prop where
  applied :
    ((Draft.initial arguments env.now env.workingDirectory).applyArguments env arguments).outcome =
      .ok draft
  calm : draft.conflict? = none
  found : PathList.collect env.access env.stdin (draft.fallback env) draft.positionals = .ok list
  settled : draft.sinks = .ok sinks

theorem Prepared.draft_sound (prepared : Prepared env arguments draft list sinks) : draft.Sound :=
  (Draft.initial_sound arguments env.now env.workingDirectory).applyTokens prepared.applied

theorem Prepared.config_sound (prepared : Prepared env arguments draft list sinks)
    (interactive : Bool) : (draft.configuration interactive list.entries sinks).Sound interactive :=
  prepared.draft_sound.configuration interactive prepared.calm prepared.found prepared.settled

theorem Draft.close_eq_ok (success : draft.close env interactive = .ok (config, notices)) :
    draft.conflict? = none ∧ ∃ list sinks,
      PathList.collect env.access env.stdin (draft.fallback env) draft.positionals = .ok list ∧
      draft.sinks = .ok sinks ∧ config = draft.configuration interactive list.entries sinks ∧
      notices = list.notices := by
  unfold Draft.close at success
  split at success
  · cases success
  · rename_i calm
    split at success
    · cases success
    · rename_i list found
      split at success
      · cases success
      · rename_i sinks settled
        split at success
        · cases success
        · rename_i made checked
          cases success
          exact ⟨calm, list, sinks, found, settled, Configuration.checked_eq_ok checked, rfl⟩

theorem build_eq_ok (success : (build env interactive arguments).outcome = .ok config) :
    ∃ draft list sinks, Prepared env arguments draft list sinks ∧
      config = draft.configuration interactive list.entries sinks := by
  unfold build at success
  dsimp only at success
  split at success
  · cases success
  · rename_i draft applied
    split at success
    · rename_i made notices closed
      cases success
      obtain ⟨calm, list, sinks, found, settled, same, -⟩ := Draft.close_eq_ok closed
      exact ⟨draft, list, sinks, ⟨applied, calm, found, settled⟩, same⟩
    · cases success

theorem Prepared.build_eq (prepared : Prepared env arguments draft list sinks)
    (interactive : Bool) : (build env interactive arguments).outcome =
      .ok (draft.configuration interactive list.entries sinks) := by
  have checked := (prepared.config_sound interactive).checked_eq
  simp only [build, prepared.applied, Draft.close, prepared.calm, prepared.found, prepared.settled,
    checked]

/-- Once its stages have succeeded, a run makes a configuration: neither the rules about several
fields nor the checks of single fields reject it. Every configuration of a run is sound. -/
theorem build_sound (env : Environment) (interactive : Bool) (arguments : List String) :
    (∀ draft list sinks, Prepared env arguments draft list sinks →
      let config := draft.configuration interactive list.entries sinks
      config.checked = .ok config ∧ Configuration.ofFields config.fields = .ok config ∧
        (build env interactive arguments).outcome = .ok config) ∧
    ∀ config, (build env interactive arguments).outcome = .ok config →
      config.Sound interactive := by
  constructor
  · intro draft list sinks prepared config
    have sound : config.Sound interactive := prepared.config_sound interactive
    have checked := sound.checked_eq
    refine ⟨checked, ?_, prepared.build_eq interactive⟩
    rw [Configuration.ofFields_fields config sound.settings.start sound.settings.stop]
    exact checked
  · intro config success
    obtain ⟨draft, list, sinks, prepared, rfl⟩ := build_eq_ok success
    exact prepared.config_sound interactive

/-- A world in which every path names a readable directory. -/
def Environment.directories : Environment where
  workingDirectory := "/music"
  lookup path := .ok ⟨path, .directory, true, none⟩
  stdin := ""
  now := Number.Binary64.zero
  outputIsTerminal := true
  errorIsTerminal := true

def windowArguments : List String :=
  ["-T", "df,-bl", "--size", "1K-2M", "-q", "1%", "-Q90%", "--threads=900", "-pp", "/music/new"]

theorem build_windowArguments :
    ∃ draft list sinks, Prepared Environment.directories windowArguments draft list sinks ∧
      Configuration.ofFields (draft.configuration true list.entries sinks).fields =
        .ok (draft.configuration true list.entries sinks) ∧
      (draft.configuration true list.entries sinks).Sound true := by
  have success : (build .directories true windowArguments).outcome.isOk = true := by
    decide +kernel
  cases made : (build .directories true windowArguments).outcome with
  | error failure =>
    rw [made] at success
    cases success
  | ok config =>
    obtain ⟨draft, list, sinks, prepared, same⟩ := build_eq_ok made
    have sound := build_sound .directories true windowArguments
    have fields := (sound.1 draft list sinks prepared).2.1
    rw [same] at made
    exact ⟨draft, list, sinks, prepared, fields, sound.2 _ made⟩

end ScanSetup
