import ScanSetup.Options.Table
import Mathlib.Data.List.Pairwise

set_option autoImplicit false

namespace ScanSetup.Options

variable {Meaning : Type} {a b spec : Spec Meaning} {specs : List (Spec Meaning)}

/-- The options have neither their long nor their short name in common. -/
structure Apart (a b : Spec Meaning) : Prop where
  long : a.long ≠ b.long
  short : ∀ name, a.short? = some name → b.short? ≠ some name

theorem Apart.symm (apart : Apart a b) : Apart b a :=
  ⟨fun same => apart.long same.symm, fun name second first => apart.short name first second⟩

instance : Std.Symm (@Apart Meaning) := ⟨fun _ _ apart => apart.symm⟩

theorem duplicateAfter?_fresh {longs shorts : List String}
    (distinct : duplicateAfter? longs shorts specs = none) :
    ∀ spec ∈ specs, spec.long ∉ longs ∧ ∀ name, spec.short? = some name → name ∉ shorts := by
  induction specs generalizing longs shorts with
  | nil => simp
  | cons head rest ih =>
    unfold duplicateAfter? at distinct
    split at distinct
    · cases distinct
    · rename_i freshLong
      have newLong : head.long ∉ longs := by simpa using freshLong
      intro spec member
      split at distinct
      · rename_i nameless
        rcases List.mem_cons.mp member with rfl | later
        · exact ⟨newLong, by simp [nameless]⟩
        · obtain ⟨long, short⟩ := ih distinct spec later
          exact ⟨fun known => long (List.mem_cons_of_mem _ known), short⟩
      · rename_i short named
        split at distinct
        · cases distinct
        · rename_i freshShort
          have newShort : short ∉ shorts := by simpa using freshShort
          rcases List.mem_cons.mp member with rfl | later
          · refine ⟨newLong, ?_⟩
            intro name called
            rw [named] at called
            rw [← Option.some.inj called]
            exact newShort
          · obtain ⟨longLater, shortLater⟩ := ih distinct spec later
            exact ⟨fun known => longLater (List.mem_cons_of_mem _ known),
              fun name called known => shortLater name called (List.mem_cons_of_mem _ known)⟩

theorem duplicateAfter?_pairwise {longs shorts : List String}
    (distinct : duplicateAfter? longs shorts specs = none) : specs.Pairwise Apart := by
  induction specs generalizing longs shorts with
  | nil => exact .nil
  | cons head rest ih =>
    unfold duplicateAfter? at distinct
    split at distinct
    · cases distinct
    · split at distinct
      · rename_i nameless
        refine .cons ?_ (ih distinct)
        intro spec later
        obtain ⟨long, -⟩ := duplicateAfter?_fresh distinct spec later
        refine ⟨fun same => long (by simp [same]), ?_⟩
        intro name called
        rw [nameless] at called
        cases called
      · rename_i short named
        split at distinct
        · cases distinct
        · refine .cons ?_ (ih distinct)
          intro spec later
          obtain ⟨long, shortLater⟩ := duplicateAfter?_fresh distinct spec later
          refine ⟨fun same => long (by simp [same]), ?_⟩
          intro name called second
          rw [named] at called
          exact shortLater name second (by simp [Option.some.inj called])

namespace Schema

variable {schema : Schema Meaning} {name : String}

theorem eq_or_apart (schema : Schema Meaning) (first : a ∈ schema.specs)
    (second : b ∈ schema.specs) : a = b ∨ Apart a b := by
  by_cases same : a = b
  · exact Or.inl same
  · have pairwise := duplicateAfter?_pairwise schema.distinct
    exact Or.inr (pairwise.forall first second same)

theorem findLong?_eq_some_iff :
    schema.findLong? name = some spec ↔ spec ∈ schema.specs ∧ spec.long = name := by
  constructor
  · intro found
    exact ⟨List.mem_of_find?_eq_some found, by simpa using List.find?_some found⟩
  · rintro ⟨member, rfl⟩
    cases found : schema.findLong? spec.long with
    | none =>
      have missed := List.find?_eq_none.mp found spec member
      simp at missed
    | some other =>
      have called : other.long = spec.long := by simpa using List.find?_some found
      rcases schema.eq_or_apart (List.mem_of_find?_eq_some found) member with same | apart
      · rw [same]
      · exact absurd called apart.long

theorem findShort?_eq_some_iff :
    schema.findShort? name = some spec ↔ spec ∈ schema.specs ∧ spec.short? = some name := by
  constructor
  · intro found
    exact ⟨List.mem_of_find?_eq_some found, by simpa using List.find?_some found⟩
  · rintro ⟨member, called⟩
    cases found : schema.findShort? name with
    | none =>
      have missed := List.find?_eq_none.mp found spec member
      simp [called] at missed
    | some other =>
      have answers : other.short? = some name := by simpa using List.find?_some found
      rcases schema.eq_or_apart (List.mem_of_find?_eq_some found) member with same | apart
      · rw [same]
      · exact absurd called (apart.short name answers)

/-- Long names can be told from values and from the argument that ends the options, and short names
are single characters that do not make a cluster look like a long name. -/
structure Regular (schema : Schema Meaning) : Prop where
  long : ∀ spec ∈ schema.specs, spec.long ≠ "" ∧ '=' ∉ spec.long.toList
  short : ∀ spec ∈ schema.specs, ∀ name, spec.short? = some name →
    ∃ c, c ≠ '-' ∧ name = String.singleton c

theorem Regular.ne_dash (regular : schema.Regular) (member : spec ∈ schema.specs) {c : Char}
    (called : spec.short? = some (String.singleton c)) : c ≠ '-' := by
  obtain ⟨other, allowed, same⟩ := regular.short spec member _ called
  have letters : [c] = [other] := by simpa using congrArg String.toList same
  rw [List.singleton_inj.mp letters]
  exact allowed

end Schema

def switchNames? : Switch → Bool → Option (String × Option String)
  | .color, true => some ("with-color", some "w")
  | .color, false => some ("no-with-color", some "W")
  | .ignoreHidden, true => some ("no-hidden", some "R")
  | .ignoreHidden, false => some ("hidden", some "r")
  | .followLinks, true => some ("followlinks", some "f")
  | .followLinks, false => some ("no-followlinks", some "F")
  | .seeSymlinks, true => some ("see-symlinks", some "@")
  | .samePartition, true => some ("crossdev", some "x")
  | .samePartition, false => some ("no-crossdev", some "X")
  | .keepAllTagged, true => some ("keep-all-tagged", some "k")
  | .keepAllUntagged, true => some ("keep-all-untagged", some "K")
  | .mustMatchTagged, true => some ("must-match-tagged", some "m")
  | .mustMatchUntagged, true => some ("must-match-untagged", some "M")
  | .findHardlinkedDupes, true => some ("hardlinked", some "l")
  | .findHardlinkedDupes, false => some ("no-hardlinked", some "L")
  | .matchBasename, true => some ("match-basename", some "b")
  | .matchBasename, false => some ("no-match-basename", some "B")
  | .matchWithExtension, true => some ("match-extension", some "e")
  | .matchWithExtension, false => some ("no-match-extension", some "E")
  | .matchWithoutExtension, true => some ("match-without-extension", some "i")
  | .matchWithoutExtension, false => some ("no-match-without-extension", some "I")
  | .writeChecksumToXattr, true => some ("xattr-write", none)
  | .writeChecksumToXattr, false => some ("no-xattr-write", none)
  | .readChecksumFromXattr, true => some ("xattr-read", none)
  | .readChecksumFromXattr, false => some ("no-xattr-read", none)
  | .writeUnfinished, true => some ("write-unfinished", some "U")
  | _, _ => none

/-- The long and the short name of the option with an effect, as far as there is one. -/
def Effect.names? : Effect → Option (String × Option String)
  | .threads => some ("threads", some "t")
  | .maxDepth => some ("max-depth", some "d")
  | .sortCriteria => some ("sortcriteria", some "S")
  | .types => some ("types", some "T")
  | .sizeLimits => some ("size", some "s")
  | .algorithm => some ("algorithm", some "a")
  | .output .override => some ("output", some "o")
  | .output .add => some ("add-output", some "O")
  | .paranoidMem => some ("max-paranoid-mem", some "u")
  | .newerThanStamp => some ("newer-than-stamp", some "n")
  | .newerThan => some ("newer-than", some "N")
  | .clampLow => some ("clamp-low", some "q")
  | .clampTop => some ("clamp-top", some "Q")
  | .configure => some ("config", some "c")
  | .cache => some ("cache", some "C")
  | .preset .progress => some ("progress", some "g")
  | .preset .report => some ("no-progress", some "G")
  | .verbosity 1 => some ("loud", some "v")
  | .verbosity (-1) => some ("quiet", some "V")
  | .verbosity _ => none
  | .paranoia 1 => some ("paranoid", some "p")
  | .paranoia (-1) => some ("less-paranoid", some "P")
  | .paranoia _ => none
  | .mergeDirectories => some ("merge-directories", some "D")
  | .switch target on => switchNames? target on

theorem names?_of_mem : ∀ spec ∈ table, spec.meaning.names? = some (spec.long, spec.short?) := by
  decide +kernel

/-- The table has an option for each effect that has names, under these names. -/
theorem names?_eq_some_iff {effect : Effect} {long : String} {short? : Option String} :
    effect.names? = some (long, short?) ↔
      ∃ spec ∈ table, spec.meaning = effect ∧ spec.long = long ∧ spec.short? = short? := by
  constructor
  · intro named
    have entry : effect.names?.isSome = true → effect ∈ table.map (·.meaning) := by
      cases effect with
      | output mode => cases mode <;> decide +kernel
      | preset sinks => cases sinks <;> decide +kernel
      | verbosity delta =>
        unfold Effect.names?
        split <;> simp_all [table, valued, flag, longFlag]
      | paranoia delta =>
        unfold Effect.names?
        split <;> simp_all [table, valued, flag, longFlag]
      | switch target on => cases target <;> cases on <;> decide +kernel
      | _ => decide +kernel
    obtain ⟨spec, member, same⟩ := List.mem_map.mp (entry (by rw [named]; rfl))
    have own := names?_of_mem spec member
    rw [same, named] at own
    cases own
    exact ⟨spec, member, same, rfl, rfl⟩
  · rintro ⟨spec, member, rfl, rfl, rfl⟩
    exact names?_of_mem spec member

theorem long_eq_iff {effect : Effect} {spec : Spec Effect} {long : String} {short? : Option String}
    (named : effect.names? = some (long, short?)) (member : spec ∈ table) :
    spec.long = long ↔ spec.meaning = effect := by
  obtain ⟨other, entry, rfl, rfl, rfl⟩ := names?_eq_some_iff.mp named
  constructor
  · intro same
    rcases schema.eq_or_apart member entry with rfl | apart
    · rfl
    · exact absurd same apart.long
  · intro same
    have own := names?_of_mem spec member
    rw [same, named] at own
    exact (congrArg Prod.fst (Option.some.inj own)).symm

end ScanSetup.Options
