import ScanSetup.Configuration.Fields
import ScanSetup.Proofs.Configuration.Soundness

set_option autoImplicit false

namespace ScanSetup

open Number

/-- A whole number that has a decimal text. -/
def Printable (n : Int) : Prop := n.natAbs < Nat.pow 10 maxIntegerDigits

instance (n : Int) : Decidable (Printable n) := inferInstanceAs (Decidable (_ < _))

theorem integerText?_isSome {n : Int} : (integerText? n).isSome = true ↔ Printable n := by
  unfold integerText? Printable
  split <;> simp_all

theorem Printable.of_small {n : Int} (small : n.natAbs < 10000) : Printable n :=
  Nat.lt_of_lt_of_le small (by decide +kernel)

theorem Printable.mono {n m : Int} (printable : Printable m) (least : 0 ≤ n) (most : n ≤ m) :
    Printable n :=
  Nat.lt_of_le_of_lt (show n.natAbs ≤ m.natAbs by omega) printable

namespace Value

mutual

def integers : Value → List Int
  | .integer n => [n]
  | .list items => listIntegers items
  | .record fields => fieldIntegers fields
  | _ => []

def listIntegers : List Value → List Int
  | [] => []
  | item :: rest => integers item ++ listIntegers rest

def fieldIntegers : List (String × Value) → List Int
  | [] => []
  | (_, item) :: rest => integers item ++ fieldIntegers rest

end

mutual

/-- A value has a text exactly if its whole numbers have. -/
theorem render?_isSome (depth : Nat) (value : Value) :
    (render? depth value).isSome = true ↔ ∀ n ∈ value.integers, Printable n := by
  cases value with
  | integer n => simp [render?, integers, integerText?_isSome]
  | list items => simp [render?, integers, renderList?_isSome (depth + 1) items]
  | record fields => simp [render?, integers, renderFields?_isSome (depth + 1) fields]
  | _ => simp [render?, integers]

theorem renderList?_isSome (depth : Nat) (items : List Value) :
    (renderList? depth items).isSome = true ↔ ∀ n ∈ listIntegers items, Printable n := by
  cases items with
  | nil => simp [renderList?, listIntegers]
  | cons item rest =>
    have first := render?_isSome depth item
    have others := renderList?_isSome depth rest
    simp only [listIntegers, List.forall_mem_append, ← first, ← others, renderList?]
    cases render? depth item <;> cases renderList? depth rest <;> simp

theorem renderFields?_isSome (depth : Nat) (fields : List (String × Value)) :
    (renderFields? depth fields).isSome = true ↔ ∀ n ∈ fieldIntegers fields, Printable n := by
  cases fields with
  | nil => simp [renderFields?, fieldIntegers]
  | cons field rest =>
    obtain ⟨name, item⟩ := field
    have first := render?_isSome depth item
    have others := renderFields?_isSome depth rest
    simp only [fieldIntegers, List.forall_mem_append, ← first, ← others, renderFields?]
    cases render? depth item <;> cases renderFields? depth rest <;> simp

end

theorem fieldIntegers_append (front back : List (String × Value)) :
    fieldIntegers (front ++ back) = fieldIntegers front ++ fieldIntegers back := by
  induction front with
  | nil => rfl
  | cons field rest ih =>
    obtain ⟨name, item⟩ := field
    simp only [List.cons_append, fieldIntegers, ih, List.append_assoc]

theorem listIntegers_map {α : Type} {toValue : α → Value} (none : ∀ a, (toValue a).integers = [])
    (items : List α) : listIntegers (items.map toValue) = [] := by
  induction items with
  | nil => rfl
  | cons item rest ih => simp only [List.map_cons, listIntegers, none item, ih, List.append_nil]

/-- Fields that are on or off hold no whole numbers. -/
theorem fieldIntegers_map {α : Type} {name : α → String} {on : α → Bool} (items : List α) :
    fieldIntegers (items.map fun item => (name item, .bool (on item))) = [] := by
  induction items with
  | nil => rfl
  | cons item rest ih => simp only [List.map_cons, fieldIntegers, integers, ih, List.append_nil]

end Value

/-- The offset of a boundary that has one. -/
def Clamp.offsets : Clamp → List Int
  | .absolute offset => [offset]
  | .fractional _ => []

theorem Clamp.toValue_integers (clamp : Clamp) : clamp.toValue.integers = clamp.offsets := by
  cases clamp <;> rfl

theorem Settings.fields_integers (s : Settings) :
    Value.fieldIntegers s.fields =
      [s.threads, s.depth, s.minSize, s.maxSize, s.paranoia, s.paranoidMem] ++
        s.clampStart.offsets ++ s.clampEnd.offsets ++ [s.timeFilter.minMtime] := by
  have sinks := Value.listIntegers_map (fun sink : Sink => show sink.toValue.integers = [] from rfl)
  have overrides :=
    Value.listIntegers_map (fun item : Override => show item.toValue.integers = [] from rfl)
  have texts :=
    Value.listIntegers_map (fun text : String => show (Value.text text).integers = [] from rfl)
  simp only [Settings.fields, Value.fieldIntegers_append, Value.fieldIntegers_map,
    Value.fieldIntegers, Value.integers, Clamp.toValue_integers, TimeFilter.toValue, Value.texts,
    sinks, overrides, texts, List.append_nil, List.nil_append, List.cons_append,
    List.append_assoc]

/-- The sizes and offsets that a user may choose freely have texts. -/
structure Settings.Printable (s : Settings) : Prop where
  most : ScanSetup.Printable s.maxSize
  memory : ScanSetup.Printable s.paranoidMem
  start : ∀ offset, s.clampStart = .absolute offset → ScanSetup.Printable offset
  stop : ∀ offset, s.clampEnd = .absolute offset → ScanSetup.Printable offset

theorem Clamp.offsets_printable {clamp : Clamp} :
    (∀ n ∈ clamp.offsets, ScanSetup.Printable n) ↔
      ∀ offset, clamp = .absolute offset → ScanSetup.Printable offset := by
  cases clamp <;> simp [Clamp.offsets]

instance (s : Settings) : Decidable s.Printable :=
  decidable_of_iff
    (Printable s.maxSize ∧ Printable s.paranoidMem ∧
      (∀ n ∈ s.clampStart.offsets, Printable n) ∧ ∀ n ∈ s.clampEnd.offsets, Printable n) (by
    simp only [Clamp.offsets_printable]
    exact ⟨fun ⟨most, memory, start, stop⟩ => ⟨most, memory, start, stop⟩,
      fun s => ⟨s.most, s.memory, s.start, s.stop⟩⟩)

namespace Configuration

variable {c : Configuration} {interactive : Bool}

theorem render_eq_error (failed : ¬ ∃ text, c.render = .ok text) :
    c.render = .error (.fault .numberTooLong) := by
  unfold render at failed ⊢
  split at failed
  · exact absurd ⟨_, rfl⟩ failed
  · rfl

/-- A configuration has a text exactly if every whole number in it has. -/
theorem exists_render_eq_ok_iff :
    (∃ text, c.render = .ok text) ↔ ∀ n ∈ Value.fieldIntegers c.settings.fields, Printable n := by
  have paths :=
    Value.listIntegers_map (fun e : PathEntry => show e.toValue.integers = [] from rfl) c.paths
  have integers : c.toValue.integers = Value.fieldIntegers c.settings.fields := by
    simp only [toValue, Value.integers, fields, Value.fieldIntegers_append, Value.fieldIntegers,
      paths, List.append_nil]
  rw [← integers, ← Value.render?_isSome 0]
  unfold render
  cases c.toValue.render? 0 <;> simp

theorem Sound.render_iff (sound : c.Sound interactive)
    (filter : Printable c.settings.timeFilter.minMtime) :
    (∃ text, c.render = .ok text) ↔ c.settings.Printable := by
  have threads : Printable c.settings.threads := .of_small (by have := sound.threads; omega)
  have depth : Printable c.settings.depth := .of_small (by have := sound.depth; omega)
  have paranoia : Printable c.settings.paranoia :=
    .of_small (by have := sound.settings.paranoia; omega)
  have least (most : Printable c.settings.maxSize) : Printable c.settings.minSize :=
    most.mono sound.settings.least sound.settings.sizes
  rw [exists_render_eq_ok_iff, Settings.fields_integers]
  simp only [List.forall_mem_append, List.forall_mem_cons, Clamp.offsets_printable]
  constructor
  · rintro ⟨⟨⟨⟨-, -, -, most, -, memory, -⟩, start⟩, stop⟩, -⟩
    exact ⟨most, memory, start, stop⟩
  · rintro ⟨most, memory, start, stop⟩
    exact ⟨⟨⟨⟨threads, depth, least most, most, paranoia, memory, by simp⟩, start⟩, stop⟩,
      filter, by simp⟩

end Configuration

end ScanSetup
