import ScanSetup.Output

set_option autoImplicit false

namespace ScanSetup

def lastOverride? (overrides : List Override) (formatter key : String) : Option Override :=
  (overrides.filter fun item => item.formatter == formatter && item.key == key).getLast?

theorem lookup_map_key {α : Type} (value : String → α) (keys : List String) (key : String) :
    (keys.map fun k => (k, value k)).lookup key =
      if key ∈ keys then some (value key) else none := by
  induction keys with
  | nil => rfl
  | cons head rest ih =>
    rw [List.map_cons, List.lookup_cons]
    by_cases same : key = head
    · simp [same]
    · simp only [beq_eq_false_iff_ne.mpr same, ih, List.mem_cons, same, false_or]

theorem find?_reverse {α : Type} (p : α → Bool) (l : List α) :
    l.reverse.find? p = (l.filter p).getLast? := by
  rw [List.getLast?_eq_head?_reverse, ← List.filter_reverse, List.head?_filter]

/-- The value of a key is that of its last override; without one there is no such key. -/
theorem sinkConfig_lookup (overrides : List Override) (formatter key : String) :
    (sinkConfig overrides formatter).lookup key =
      (lastOverride? overrides formatter key).map (·.value) := by
  have last : lastOverride? overrides formatter key =
      (overrides.filter (·.formatter == formatter)).reverse.find? (·.key == key) := by
    rw [find?_reverse, List.filter_filter, lastOverride?]
    simp only [Bool.and_comm]
  unfold sinkConfig
  rw [lookup_map_key, last]
  cases found : (overrides.filter (·.formatter == formatter)).reverse.find? (·.key == key) with
  | none =>
    have absent : key ∉ (overrides.filter (·.formatter == formatter)).map (·.key) := by
      intro member
      obtain ⟨item, own, same⟩ := List.mem_map.mp member
      have missed := List.find?_eq_none.mp found item (List.mem_reverse.mpr own)
      exact missed (beq_iff_eq.mpr same)
    rw [if_neg (by rwa [List.mem_eraseDups])]
    rfl
  | some item =>
    have own := List.mem_reverse.mp (List.mem_of_find?_eq_some found)
    have same : item.key = key := by simpa using List.find?_some found
    have present : key ∈ (overrides.filter (·.formatter == formatter)).map (·.key) := by
      rw [← same]
      exact List.mem_map_of_mem own
    rw [if_pos (by rwa [List.mem_eraseDups])]
    rfl

/-- Overrides of a key that agree about its value decide it. -/
theorem sinkConfig_lookup_of_agree {overrides : List Override} {formatter key value : String}
    (agree : ∀ item ∈ overrides, item.formatter = formatter → item.key = key → item.value = value) :
    (sinkConfig overrides formatter).lookup key =
      if ∃ item ∈ overrides, item.formatter = formatter ∧ item.key = key then some value
      else none := by
  rw [sinkConfig_lookup, lastOverride?]
  cases found : (overrides.filter fun item =>
      item.formatter == formatter && item.key == key).getLast? with
  | none =>
    have absent := List.filter_eq_nil_iff.mp (List.getLast?_eq_none_iff.mp found)
    have missing : ¬ ∃ item ∈ overrides, item.formatter = formatter ∧ item.key = key := by
      rintro ⟨item, member, own, same⟩
      exact absent item member (by simp [own, same])
    rw [if_neg missing]
    rfl
  | some item =>
    obtain ⟨member, fits⟩ := List.mem_filter.mp (List.mem_of_getLast? found)
    obtain ⟨own, same⟩ : item.formatter = formatter ∧ item.key = key := by simpa using fits
    rw [if_pos ⟨item, member, own, same⟩, Option.map_some, agree item member own same]

end ScanSetup
