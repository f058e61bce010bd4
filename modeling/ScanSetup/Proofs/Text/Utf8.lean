import ScanSetup.Text.Utf8
import Mathlib.Data.List.Forall2
import Mathlib.Tactic.SplitIfs

set_option autoImplicit false

namespace ScanSetup.Text

open String (utf8EncodeChar)

def Between (bounds : UInt8 × UInt8) (b : UInt8) : Prop :=
  bounds.1.toNat ≤ b.toNat ∧ b.toNat ≤ bounds.2.toNat

/-- The value of a character with the bits of one more byte. -/
def extend (value : Nat) (b : UInt8) : Nat := 64 * value + b.toNat % 64

def codeBytes (n : Nat) : List Nat :=
  if n < 0x80 then [n]
  else if n < 0x800 then [n / 64 + 192, n % 64 + 128]
  else if n < 0x10000 then [n / 4096 + 224, n / 64 % 64 + 128, n % 64 + 128]
  else [n / 262144 + 240, n / 4096 % 64 + 128, n / 64 % 64 + 128, n % 64 + 128]

variable {b : UInt8} {c : Char} {n value : Nat} {bounds : List (UInt8 × UInt8)}
variable {seen rest bytes : List UInt8}

/-! ### Characters -/

theorem toNat_ofNat_char (valid : n.isValidChar) : (Char.ofNat n).toNat = n := by
  rw [Char.ofNat, dif_pos valid]
  rfl

theorem toNat_lt (c : Char) : c.toNat < 0x110000 := by
  rcases c.valid with low | ⟨-, high⟩
  · exact Nat.lt_trans low (by decide)
  · exact high

theorem map_toNat_injective : Function.Injective (List.map UInt8.toNat) :=
  List.map_injective_iff.mpr fun _ _ => UInt8.toNat_inj.mp

theorem map_encodeChar (c : Char) : (utf8EncodeChar c).map UInt8.toNat = codeBytes c.toNat := by
  have bound := toNat_lt c
  rw [String.utf8EncodeChar, show c.val.toNat = c.toNat from rfl]
  generalize c.toNat = n at bound
  unfold codeBytes
  split_ifs <;>
    simp only [List.map_cons, List.map_nil, UInt8.toNat_ofNat', List.cons.injEq, and_true] <;> omega

theorem codeBytes_two {a x : Nat} (lead : 0xc2 ≤ a ∧ a < 0xe0) (first : 0x80 ≤ x ∧ x ≤ 0xbf) :
    codeBytes (64 * (a % 32) + x % 64) = [a, x] := by
  rw [codeBytes, if_neg (by omega), if_pos (by omega)]
  simp only [List.cons.injEq, and_true]
  omega

theorem codeBytes_three {a x y : Nat} (lead : 0xe0 ≤ a ∧ a < 0xf0) (first : 0x80 ≤ x ∧ x ≤ 0xbf)
    (second : 0x80 ≤ y ∧ y ≤ 0xbf) (least : 0x20 ≤ 64 * (a % 16) + x % 64) :
    codeBytes (64 * (64 * (a % 16) + x % 64) + y % 64) = [a, x, y] := by
  rw [codeBytes, if_neg (by omega), if_neg (by omega), if_pos (by omega)]
  simp only [List.cons.injEq, and_true]
  omega

theorem codeBytes_four {a x y z : Nat} (lead : 0xf0 ≤ a ∧ a < 0xf8) (first : 0x80 ≤ x ∧ x ≤ 0xbf)
    (second : 0x80 ≤ y ∧ y ≤ 0xbf) (third : 0x80 ≤ z ∧ z ≤ 0xbf)
    (least : 0x10 ≤ 64 * (a % 8) + x % 64) :
    codeBytes (64 * (64 * (64 * (a % 8) + x % 64) + y % 64) + z % 64) = [a, x, y, z] := by
  rw [codeBytes, if_neg (by omega), if_neg (by omega), if_neg (by omega)]
  simp only [List.cons.injEq, and_true]
  omega

/-- The bounds of a byte that follows, and those of the first one behind a leading byte. -/
def follower : UInt8 × UInt8 := (0x80, 0xbf)

def firstFollower (lead : Nat) : UInt8 × UInt8 :=
  (if lead = 0xe0 then 0xa0 else if lead = 0xf0 then 0x90 else 0x80,
    if lead = 0xed then 0x9f else if lead = 0xf4 then 0x8f else 0xbf)

theorem leadingByte?_eq (b : UInt8) :
    leadingByte? b =
      if b.toNat < 0x80 then some (b.toNat, [])
      else if b.toNat < 0xc2 then none
      else if b.toNat < 0xe0 then some (b.toNat % 32, [follower])
      else if b.toNat < 0xf0 then some (b.toNat % 16, [firstFollower b.toNat, follower])
      else if b.toNat < 0xf5 then some (b.toNat % 8, [firstFollower b.toNat, follower, follower])
      else none := by
  have all : ∀ n < 256, leadingByte? (UInt8.ofNat n) =
      if n < 0x80 then some (n, [])
      else if n < 0xc2 then none
      else if n < 0xe0 then some (n % 32, [follower])
      else if n < 0xf0 then some (n % 16, [firstFollower n, follower])
      else if n < 0xf5 then some (n % 8, [firstFollower n, follower, follower])
      else none := by
    decide +kernel
  have this := all b.toNat b.toNat_lt
  rwa [UInt8.ofNat_toNat] at this

theorem forall₂_one {p : UInt8 × UInt8} :
    List.Forall₂ Between [p] seen ↔ ∃ x, seen = [x] ∧ Between p x := by
  simp [List.forall₂_cons_left_iff, and_comm]

theorem forall₂_two {p q : UInt8 × UInt8} :
    List.Forall₂ Between [p, q] seen ↔ ∃ x y, seen = [x, y] ∧ Between p x ∧ Between q y := by
  rw [List.forall₂_cons_left_iff]
  simp only [forall₂_one]
  constructor
  · rintro ⟨x, _, first, ⟨y, rfl, second⟩, rfl⟩
    exact ⟨x, y, rfl, first, second⟩
  · rintro ⟨x, y, rfl, first, second⟩
    exact ⟨x, [y], first, ⟨y, rfl, second⟩, rfl⟩

theorem forall₂_three {p q r : UInt8 × UInt8} :
    List.Forall₂ Between [p, q, r] seen ↔
      ∃ x y z, seen = [x, y, z] ∧ Between p x ∧ Between q y ∧ Between r z := by
  rw [List.forall₂_cons_left_iff]
  simp only [forall₂_two]
  constructor
  · rintro ⟨x, _, first, ⟨y, z, rfl, second, third⟩, rfl⟩
    exact ⟨x, y, z, rfl, first, second, third⟩
  · rintro ⟨x, y, z, rfl, first, second, third⟩
    exact ⟨x, [y, z], first, ⟨y, z, rfl, second, third⟩, rfl⟩

/-- The bounds of the first byte that follows keep out what has a shorter form, surrogates and what
is no code point. -/
theorem between_firstFollower {lead : Nat} {x : UInt8} :
    Between (firstFollower lead) x ↔
      (0x80 ≤ x.toNat ∧ x.toNat ≤ 0xbf) ∧ (lead = 0xe0 → 0xa0 ≤ x.toNat) ∧
        (lead = 0xed → x.toNat ≤ 0x9f) ∧ (lead = 0xf0 → 0x90 ≤ x.toNat) ∧
        (lead = 0xf4 → x.toNat ≤ 0x8f) := by
  unfold Between firstFollower
  split_ifs <;> simp only [UInt8.reduceToNat] <;> omega

theorem between_follower {x : UInt8} : Between follower x ↔ 0x80 ≤ x.toNat ∧ x.toNat ≤ 0xbf :=
  Iff.rfl

/-- A leading byte and bytes within its bounds are the bytes of a code point. -/
theorem codeBytes_of_fits (leading : leadingByte? b = some (value, bounds))
    (fits : List.Forall₂ Between bounds seen) :
    (seen.foldl extend value).isValidChar ∧
      codeBytes (seen.foldl extend value) = (b :: seen).map UInt8.toNat := by
  have small : b.toNat < 256 := b.toNat_lt
  unfold Nat.isValidChar
  rw [leadingByte?_eq] at leading
  split_ifs at leading <;> cases leading
  · cases fits
    refine ⟨?_, ?_⟩
    · show b.toNat < 0xd800 ∨ _
      omega
    · show codeBytes b.toNat = [b.toNat]
      rw [codeBytes, if_pos (by omega)]
  · obtain ⟨x, rfl, first⟩ := forall₂_one.mp fits
    rw [between_follower] at first
    refine ⟨?_, codeBytes_two (by omega) first⟩
    show 64 * (b.toNat % 32) + x.toNat % 64 < 0xd800 ∨ _
    omega
  · obtain ⟨x, y, rfl, first, second⟩ := forall₂_two.mp fits
    rw [between_firstFollower] at first
    rw [between_follower] at second
    refine ⟨?_, codeBytes_three (by omega) first.1 second (by omega)⟩
    show 64 * (64 * (b.toNat % 16) + x.toNat % 64) + y.toNat % 64 < 0xd800 ∨
      0xdfff < 64 * (64 * (b.toNat % 16) + x.toNat % 64) + y.toNat % 64 ∧
        64 * (64 * (b.toNat % 16) + x.toNat % 64) + y.toNat % 64 < 0x110000
    omega
  · obtain ⟨x, y, z, rfl, first, second, third⟩ := forall₂_three.mp fits
    rw [between_firstFollower] at first
    rw [between_follower] at second third
    refine ⟨?_, codeBytes_four (by omega) first.1 second third (by omega)⟩
    show 64 * (64 * (64 * (b.toNat % 8) + x.toNat % 64) + y.toNat % 64) + z.toNat % 64 < 0xd800 ∨
      0xdfff < 64 * (64 * (64 * (b.toNat % 8) + x.toNat % 64) + y.toNat % 64) + z.toNat % 64 ∧
        64 * (64 * (64 * (b.toNat % 8) + x.toNat % 64) + y.toNat % 64) + z.toNat % 64 < 0x110000
    omega

theorem encode_of_fits (leading : leadingByte? b = some (value, bounds))
    (fits : List.Forall₂ Between bounds seen) :
    utf8EncodeChar (Char.ofNat (seen.foldl extend value)) = b :: seen := by
  obtain ⟨valid, written⟩ := codeBytes_of_fits leading fits
  refine map_toNat_injective ?_
  rw [map_encodeChar, toNat_ofNat_char valid, written]

/-- The bytes of a character are a leading byte and bytes within its bounds. -/
theorem exists_fits (c : Char) :
    ∃ b seen value bounds, utf8EncodeChar c = b :: seen ∧
      leadingByte? b = some (value, bounds) ∧ List.Forall₂ Between bounds seen := by
  have valid : c.toNat < 0xd800 ∨ 0xdfff < c.toNat ∧ c.toNat < 0x110000 := c.valid
  have written := map_encodeChar c
  generalize c.toNat = n at valid written
  unfold codeBytes at written
  split_ifs at written
  · simp only [List.map_eq_cons_iff, List.map_eq_nil_iff] at written
    obtain ⟨b, _, same, lead, rfl⟩ := written
    refine ⟨b, [], b.toNat, [], same, ?_, .nil⟩
    rw [leadingByte?_eq, if_pos (by omega)]
  · simp only [List.map_eq_cons_iff, List.map_eq_nil_iff] at written
    obtain ⟨b, _, same, lead, x, _, rfl, first, rfl⟩ := written
    refine ⟨b, [x], b.toNat % 32, [follower], same, ?_, forall₂_one.mpr ⟨x, rfl, ?_⟩⟩
    · rw [leadingByte?_eq, if_neg (by omega), if_neg (by omega), if_pos (by omega)]
    · rw [between_follower]
      omega
  · simp only [List.map_eq_cons_iff, List.map_eq_nil_iff] at written
    obtain ⟨b, _, same, lead, x, _, rfl, first, y, _, rfl, second, rfl⟩ := written
    refine ⟨b, [x, y], b.toNat % 16, [firstFollower b.toNat, follower], same, ?_,
      forall₂_two.mpr ⟨x, y, rfl, ?_, ?_⟩⟩
    · rw [leadingByte?_eq, if_neg (by omega), if_neg (by omega), if_neg (by omega),
        if_pos (by omega)]
    · rw [between_firstFollower]
      omega
    · rw [between_follower]
      omega
  · simp only [List.map_eq_cons_iff, List.map_eq_nil_iff] at written
    obtain ⟨b, _, same, lead, x, _, rfl, first, y, _, rfl, second, z, _, rfl, third, rfl⟩ := written
    refine ⟨b, [x, y, z], b.toNat % 8, [firstFollower b.toNat, follower, follower], same, ?_,
      forall₂_three.mpr ⟨x, y, z, rfl, ?_, ?_, ?_⟩⟩
    · rw [leadingByte?_eq, if_neg (by omega), if_neg (by omega), if_neg (by omega),
        if_neg (by omega), if_pos (by omega)]
    · rw [between_firstFollower]
      omega
    · rw [between_follower]
      omega
    · rw [between_follower]
      omega

theorem codeBytes_injective {m n : Nat} (first : m < 0x110000) (second : n < 0x110000)
    (same : codeBytes m = codeBytes n) : m = n := by
  unfold codeBytes at same
  split_ifs at same <;> simp only [List.cons.injEq, reduceCtorEq, and_false, and_true] at same <;>
    omega

/-- The bytes that follow a leading byte give back the character. -/
theorem fits_value (leading : leadingByte? b = some (value, bounds))
    (fits : List.Forall₂ Between bounds seen) (written : utf8EncodeChar c = b :: seen) :
    Char.ofNat (seen.foldl extend value) = c := by
  have codes := map_encodeChar c
  rw [written, ← encode_of_fits leading fits, map_encodeChar] at codes
  rw [← Char.ofNat_toNat (Char.ofNat _), codeBytes_injective (toNat_lt _) (toNat_lt c) codes,
    Char.ofNat_toNat]

/-! ### Sequences -/

theorem followers_cons {p : UInt8 × UInt8} {x : UInt8} (inside : Between p x) :
    followers value (p :: bounds) (x :: bytes) =
      (followers (extend value x) bounds bytes).mapError
        fun (fault, seen) => (fault, x :: seen) := by
  have accepted : (p.1 ≤ x && x ≤ p.2) = true := by
    rw [Bool.and_eq_true, decide_eq_true_iff, decide_eq_true_iff, UInt8.le_iff_toNat_le,
      UInt8.le_iff_toNat_le]
    exact inside
  rw [followers, if_pos accepted, extend]
  cases followers (64 * value + x.toNat % 64) bounds bytes <;> rfl

theorem followers_of_fits (fits : List.Forall₂ Between bounds seen) (value : Nat)
    (rest : List UInt8) :
    followers value bounds (seen ++ rest) = .ok (seen.foldl extend value) := by
  induction fits generalizing value with
  | nil => rfl
  | cons inside _ ih =>
    rw [List.cons_append, followers_cons inside, ih]
    rfl

theorem followers_of_start {front back : List (UInt8 × UInt8)}
    (fits : List.Forall₂ Between front bytes) (more : back ≠ []) (value : Nat) :
    followers value (front ++ back) bytes = .error (.truncated, bytes) := by
  induction fits generalizing value with
  | nil =>
    obtain ⟨p, rest, rfl⟩ := List.exists_cons_of_ne_nil more
    rfl
  | cons inside _ ih =>
    rw [List.cons_append, followers_cons inside, ih]
    rfl

/-- Bytes begin with what their bounds ask for, or end within it, or leave it. -/
theorem followers_cases (value : Nat) (bounds : List (UInt8 × UInt8)) (bytes : List UInt8) :
    (∃ seen rest, bytes = seen ++ rest ∧ List.Forall₂ Between bounds seen) ∨
      (∃ front back, bounds = front ++ back ∧ back ≠ [] ∧ List.Forall₂ Between front bytes) ∨
      ∃ seen, followers value bounds bytes = .error (.continuationByte, seen) := by
  induction bounds generalizing value bytes with
  | nil => exact .inl ⟨[], bytes, rfl, .nil⟩
  | cons p bounds ih =>
    cases bytes with
    | nil => exact .inr (.inl ⟨[], p :: bounds, rfl, List.cons_ne_nil _ _, .nil⟩)
    | cons x bytes =>
      by_cases inside : Between p x
      · rcases ih (extend value x) bytes with
          ⟨seen, rest, rfl, fits⟩ | ⟨front, back, rfl, more, fits⟩ | ⟨seen, stopped⟩
        · exact .inl ⟨x :: seen, rest, rfl, .cons inside fits⟩
        · exact .inr (.inl ⟨p :: front, back, rfl, more, .cons inside fits⟩)
        · refine .inr (.inr ⟨x :: seen, ?_⟩)
          rw [followers_cons inside, stopped]
          rfl
      · refine .inr (.inr ⟨[], ?_⟩)
        rw [followers, if_neg]
        rwa [Bool.and_eq_true, decide_eq_true_iff, decide_eq_true_iff, UInt8.le_iff_toNat_le,
          UInt8.le_iff_toNat_le]

def encoded (text : List Char) : List UInt8 := text.flatMap utf8EncodeChar

theorem encoded_cons (c : Char) (text : List Char) :
    encoded (c :: text) = utf8EncodeChar c ++ encoded text := List.flatMap_cons

theorem encoded_append (front back : List Char) :
    encoded (front ++ back) = encoded front ++ encoded back := List.flatMap_append

theorem decodeFrom_skip (offset skip : Nat) (bytes : List UInt8) :
    decodeFrom offset skip bytes = decodeFrom (offset + skip) 0 (bytes.drop skip) := by
  induction bytes generalizing offset skip with
  | nil => simp [decodeFrom]
  | cons b bytes ih =>
    cases skip with
    | zero => rfl
    | succ skip =>
      rw [decodeFrom, ih, List.drop_succ_cons]
      congr 1
      omega

theorem decodeFrom_encodeChar (offset : Nat) (c : Char) (rest : List UInt8) :
    decodeFrom offset 0 (utf8EncodeChar c ++ rest) =
      let tail := decodeFrom (offset + (utf8EncodeChar c).length) 0 rest
      ⟨c :: tail.text, tail.error?⟩ := by
  obtain ⟨b, seen, value, bounds, written, leading, fits⟩ := exists_fits c
  have skipped : decodeFrom (offset + 1) bounds.length (seen ++ rest) =
      decodeFrom (offset + (utf8EncodeChar c).length) 0 rest := by
    rw [decodeFrom_skip, fits.length_eq, List.drop_left, written, List.length_cons]
    congr 1
    omega
  rw [written, List.cons_append, decodeFrom, leading]
  simp only [followers_of_fits fits value rest, fits_value leading fits written, ← written, skipped]

/-- What could be the start of a character is not yet wrong. -/
theorem decodeFrom_start (offset : Nat) {missing : List UInt8} (nonempty : bytes ≠ [])
    (more : missing ≠ []) (written : utf8EncodeChar c = bytes ++ missing) :
    decodeFrom offset 0 bytes = ⟨[], some ⟨.truncated, offset, bytes⟩⟩ := by
  obtain ⟨b, tail, rfl⟩ := List.exists_cons_of_ne_nil nonempty
  obtain ⟨_, seen, value, bounds, split, leading, fits⟩ := exists_fits c
  rw [written, List.cons_append] at split
  cases split
  have front := List.forall₂_take_append bounds tail missing fits
  have back := List.forall₂_drop_append bounds tail missing fits
  have left : bounds.drop tail.length ≠ [] := by
    intro none
    rw [none] at back
    cases back
    exact more rfl
  have stopped := followers_of_start front left value
  rw [List.take_append_drop] at stopped
  simp only [decodeFrom, leading, stopped]

theorem exists_fits_start {front back : List (UInt8 × UInt8)}
    (leading : leadingByte? b = some (value, front ++ back))
    (fits : List.Forall₂ Between front seen) :
    ∃ missing, List.Forall₂ Between (front ++ back) (seen ++ missing) ∧
      (back ≠ [] → missing ≠ []) := by
  have ordered : ∀ p ∈ front ++ back, Between p p.1 := by
    have each (lead : Nat) : Between (firstFollower lead) (firstFollower lead).1 := by
      refine ⟨Nat.le_refl _, ?_⟩
      unfold firstFollower
      split_ifs <;> simp only [UInt8.reduceToNat] <;> omega
    have other : Between follower follower.1 := ⟨Nat.le_refl _, by decide⟩
    generalize front ++ back = bounds at leading
    rw [leadingByte?_eq] at leading
    split_ifs at leading <;> cases leading <;> simp [each, other]
  refine ⟨back.map Prod.fst, List.rel_append fits ?_, fun more => by simpa using more⟩
  rw [List.forall₂_map_right_iff, List.forall₂_same]
  exact fun p member => ordered p (List.mem_append_right front member)

/-- Bytes begin with a character, or are the start of one, or cannot be decoded. -/
theorem decodeFrom_cases (offset : Nat) (nonempty : bytes ≠ []) :
    (∃ c rest, bytes = utf8EncodeChar c ++ rest) ∨
      (∃ c missing, missing ≠ [] ∧ utf8EncodeChar c = bytes ++ missing) ∨
      ∃ fault seen, fault ≠ .truncated ∧
        decodeFrom offset 0 bytes = ⟨[], some ⟨fault, offset, seen⟩⟩ := by
  obtain ⟨b, tail, rfl⟩ := List.exists_cons_of_ne_nil nonempty
  cases leading : leadingByte? b with
  | none =>
    refine .inr (.inr ⟨.startByte, [b], by decide, ?_⟩)
    simp only [decodeFrom, leading]
  | some found =>
    obtain ⟨value, bounds⟩ := found
    rcases followers_cases value bounds tail with
      ⟨seen, rest, rfl, fits⟩ | ⟨front, back, rfl, more, fits⟩ | ⟨seen, stopped⟩
    · refine .inl ⟨Char.ofNat (seen.foldl extend value), rest, ?_⟩
      rw [encode_of_fits leading fits, List.cons_append]
    · obtain ⟨missing, completed, left⟩ := exists_fits_start leading fits
      exact .inr (.inl ⟨_, missing, left more, encode_of_fits leading completed⟩)
    · refine .inr (.inr ⟨.continuationByte, b :: seen, by decide, ?_⟩)
      simp only [decodeFrom, leading, stopped]

/-! ### Texts -/

theorem decodeFrom_encoded (offset : Nat) (text : List Char) (rest : List UInt8) :
    decodeFrom offset 0 (encoded text ++ rest) =
      let tail := decodeFrom (offset + (encoded text).length) 0 rest
      ⟨text ++ tail.text, tail.error?⟩ := by
  induction text generalizing offset with
  | nil => rfl
  | cons c text ih =>
    rw [encoded_cons, List.append_assoc, decodeFrom_encodeChar, ih, List.length_append,
      Nat.add_assoc]
    rfl

theorem exists_decoded (bytes : List UInt8) :
    ∃ text rest, bytes = encoded text ++ rest ∧ ∀ c more, rest ≠ utf8EncodeChar c ++ more := by
  induction size : bytes.length using Nat.strongRecOn generalizing bytes with
  | ind n ih =>
    by_cases here : ∃ c rest, bytes = utf8EncodeChar c ++ rest
    · obtain ⟨c, rest, rfl⟩ := here
      have shorter : rest.length < n := by
        have some := List.length_pos_iff.mpr (String.utf8EncodeChar_ne_nil (c := c))
        rw [List.length_append] at size
        omega
      obtain ⟨text, left, rfl, stuck⟩ := ih rest.length shorter rest rfl
      exact ⟨c :: text, left, by rw [encoded_cons, List.append_assoc], stuck⟩
    · exact ⟨[], bytes, rfl, fun c more same => here ⟨c, more, same⟩⟩

theorem decodeFrom_text_of_stuck (stuck : ∀ c more, rest ≠ utf8EncodeChar c ++ more)
    (offset : Nat) : (decodeFrom offset 0 rest).text = [] := by
  by_cases none : rest = []
  · subst none
    rfl
  · rcases decodeFrom_cases offset none with
      ⟨c, more, begins⟩ | ⟨c, missing, more, written⟩ | ⟨fault, seen, -, stopped⟩
    · exact absurd begins (stuck c more)
    · rw [decodeFrom_start _ none more written]
    · rw [stopped]

/-- The start of a character, or the first two bytes of a surrogate, which only the third shows to
be none. -/
inductive Incomplete : List UInt8 → Prop
  | start {c : Char} {seen missing : List UInt8} (more : missing ≠ [])
      (written : utf8EncodeChar c = seen ++ missing) : Incomplete seen
  | surrogate {b : UInt8} (low : 0xa0 ≤ b.toNat) (high : b.toNat ≤ 0xbf) : Incomplete [0xed, b]

/-- The bytes are those of a text, and behind it such as further bytes may complete. -/
def Decodes (bytes : List UInt8) (text : List Char) (pending : List UInt8) : Prop :=
  bytes = encoded text ++ pending ∧ Incomplete pending

theorem decodeFrom_surrogate (offset : Nat) (low : 0xa0 ≤ b.toNat) (high : b.toNat ≤ 0xbf) :
    decodeFrom offset 0 [0xed, b] = ⟨[], some ⟨.continuationByte, offset, [0xed]⟩⟩ ∧
      isHalfSurrogate [0xed, b] = true := by
  have leading : leadingByte? 0xed = some (13, [(0x80, 0x9f), (0x80, 0xbf)]) := by decide
  have outside : (decide ((0x80 : UInt8) ≤ b) && decide (b ≤ (0x9f : UInt8))) = false := by
    rw [Bool.and_eq_false_iff, decide_eq_false_iff_not, decide_eq_false_iff_not,
      UInt8.le_iff_toNat_le, UInt8.le_iff_toNat_le]
    simp only [UInt8.reduceToNat]
    omega
  constructor
  · simp only [decodeFrom, leading, followers, outside, Bool.false_eq_true, ↓reduceIte]
  · simp only [isHalfSurrogate, BEq.rfl, Bool.true_and, Bool.and_eq_true, decide_eq_true_iff,
      UInt8.le_iff_toNat_le]
    exact ⟨low, high⟩

theorem Incomplete.nil : Incomplete [] :=
  .start (List.cons_ne_nil 0x61 []) (by decide : utf8EncodeChar 'a' = [] ++ [0x61])

theorem Incomplete.decodeFrom_eq {pending : List UInt8} (incomplete : Incomplete pending)
    (offset : Nat) :
    pending = [] ∧ decodeFrom offset 0 pending = ⟨[], none⟩ ∨
      ∃ fault seen, decodeFrom offset 0 pending = ⟨[], some ⟨fault, offset, seen⟩⟩ ∧
        (fault == .truncated || isHalfSurrogate pending) = true := by
  cases incomplete with
  | start more written =>
    by_cases none : pending = []
    · subst none
      exact .inl ⟨rfl, rfl⟩
    · exact .inr ⟨.truncated, pending, decodeFrom_start offset none more written, rfl⟩
  | @surrogate b low high =>
    obtain ⟨decoded, half⟩ := decodeFrom_surrogate offset low high
    exact .inr ⟨.continuationByte, [0xed], decoded, by rw [half, Bool.or_true]⟩

theorem Incomplete.decodeFrom_text {pending : List UInt8} (incomplete : Incomplete pending)
    (offset : Nat) : (decodeFrom offset 0 pending).text = [] := by
  rcases incomplete.decodeFrom_eq offset with ⟨-, decoded⟩ | ⟨fault, seen, decoded, -⟩
  · rw [decoded]
  · rw [decoded]

/-- What ends in the midst of what may be completed may be completed too. -/
theorem Incomplete.of_append {front back : List UInt8} (incomplete : Incomplete (front ++ back)) :
    Incomplete front := by
  generalize whole : front ++ back = bytes at incomplete
  cases incomplete with
  | @start c _ missing more written =>
    rw [← whole, List.append_assoc] at written
    exact .start (by simp [more]) written
  | surrogate low high =>
    rcases front with _ | ⟨first, _ | ⟨second, _ | ⟨third, rest⟩⟩⟩
    · exact .nil
    · cases whole
      exact .start (List.cons_ne_nil 0x9f [0xbf])
        (by decide : utf8EncodeChar '\ud7ff' = [0xed] ++ [0x9f, 0xbf])
    · cases whole
      exact .surrogate low high
    · cases whole

theorem isHalfSurrogate_incomplete (half : isHalfSurrogate bytes = true) : Incomplete bytes := by
  unfold isHalfSurrogate at half
  split at half
  · rename_i first second
    simp only [Bool.and_eq_true, beq_iff_eq, decide_eq_true_iff, UInt8.le_iff_toNat_le] at half
    obtain ⟨⟨rfl, low⟩, high⟩ := half
    exact .surrogate low high
  · cases half

/-- Decoding a part of a text splits it into characters and what is not complete. -/
theorem decodePart_eq_ok_iff {text : List Char} {pending : List UInt8} :
    decodePart bytes = .ok (text, pending) ↔ Decodes bytes text pending := by
  constructor
  · intro decoded
    obtain ⟨front, rest, rfl, stuck⟩ := exists_decoded bytes
    unfold decodePart at decoded
    simp only [decodeUtf8, decodeFrom_encoded, Nat.zero_add] at decoded
    by_cases none : rest = []
    · subst none
      simp only [decodeFrom, List.append_nil, Except.ok.injEq, Prod.mk.injEq] at decoded
      obtain ⟨rfl, rfl⟩ := decoded
      exact ⟨rfl, .nil⟩
    · rcases decodeFrom_cases (encoded front).length none with
        ⟨c, more, begins⟩ | ⟨c, missing, more, written⟩ | ⟨fault, seen, other, stopped⟩
      · exact absurd begins (stuck c more)
      · simp only [decodeFrom_start _ none more written, List.drop_left, BEq.rfl, Bool.true_or,
          ↓reduceIte, List.append_nil, Except.ok.injEq, Prod.mk.injEq] at decoded
        obtain ⟨rfl, rfl⟩ := decoded
        exact ⟨rfl, .start more written⟩
      · simp only [stopped, List.drop_left, beq_eq_false_iff_ne.mpr other, Bool.false_or,
          List.append_nil] at decoded
        split at decoded
        · rename_i half
          cases decoded
          exact ⟨rfl, isHalfSurrogate_incomplete half⟩
        · cases decoded
  · rintro ⟨rfl, incomplete⟩
    unfold decodePart
    simp only [decodeUtf8, decodeFrom_encoded, Nat.zero_add]
    rcases incomplete.decodeFrom_eq (encoded text).length with
      ⟨rfl, decoded⟩ | ⟨fault, seen, decoded, open_end⟩
    · simp only [decoded, List.append_nil]
    · simp only [decoded, List.drop_left, open_end, ↓reduceIte, List.append_nil]

theorem decodeUtf8_error?_eq_none :
    (decodeUtf8 bytes).error? = none ↔ ∃ text, bytes = encoded text := by
  constructor
  · intro valid
    obtain ⟨text, rest, rfl, stuck⟩ := exists_decoded bytes
    by_cases none : rest = []
    · exact ⟨text, by rw [none, List.append_nil]⟩
    · simp only [decodeUtf8, decodeFrom_encoded] at valid
      rcases decodeFrom_cases (0 + (encoded text).length) none with
        ⟨c, more, begins⟩ | ⟨c, missing, more, written⟩ | ⟨fault, seen, -, stopped⟩
      · exact absurd begins (stuck c more)
      · rw [decodeFrom_start _ none more written] at valid
        cases valid
      · rw [stopped] at valid
        cases valid
  · rintro ⟨text, rfl⟩
    have decoded := decodeFrom_encoded 0 text []
    rw [List.append_nil] at decoded
    rw [decodeUtf8, decoded]
    rfl

namespace Decodes

variable {text other : List Char} {pending left : List UInt8}

theorem unique (first : Decodes bytes text pending) (second : Decodes bytes other left) :
    text = other ∧ pending = left := by
  have same := (decodePart_eq_ok_iff.mpr first).symm.trans (decodePart_eq_ok_iff.mpr second)
  cases same
  exact ⟨rfl, rfl⟩

theorem of_encoded (text : List Char) : Decodes (encoded text) text [] :=
  ⟨(List.append_nil _).symm, .nil⟩

/-- Behind a text, decoding goes on as if it began. -/
theorem append_iff (front : List Char) :
    Decodes (encoded front ++ bytes) text pending ↔
      ∃ back, text = front ++ back ∧ Decodes bytes back pending := by
  constructor
  · intro decoded
    obtain ⟨back, rest, rfl, stuck⟩ := exists_decoded bytes
    obtain ⟨same, incomplete⟩ := decoded
    rw [← List.append_assoc, ← encoded_append] at same
    have read := congrArg (fun bytes => (decodeUtf8 bytes).text) same
    simp only [decodeUtf8, decodeFrom_encoded, incomplete.decodeFrom_text,
      decodeFrom_text_of_stuck stuck, List.append_nil] at read
    rw [← read, List.append_cancel_left_eq] at same
    exact ⟨back, read.symm, by rw [same], incomplete⟩
  · rintro ⟨back, rfl, rfl, incomplete⟩
    exact ⟨by rw [encoded_append, List.append_assoc], incomplete⟩

/-- What has been decoded stays as it is when further bytes are read. -/
theorem of_append {more : List UInt8} (decoded : Decodes (bytes ++ more) text pending) :
    ∃ front left, Decodes bytes front left ∧ front <+: text := by
  obtain ⟨same, incomplete⟩ := decoded
  induction text generalizing bytes with
  | nil =>
    rw [show encoded [] = [] from rfl, List.nil_append] at same
    rw [← same] at incomplete
    exact ⟨[], bytes, ⟨rfl, incomplete.of_append⟩, List.nil_prefix⟩
  | cons c text ih =>
    rw [encoded_cons, List.append_assoc] at same
    rcases List.append_eq_append_iff.mp same with ⟨missing, first, -⟩ | ⟨behind, rfl, later⟩
    · by_cases all : missing = []
      · rw [all, List.append_nil] at first
        refine ⟨[c], [], ⟨?_, .nil⟩, List.cons_prefix_cons.mpr ⟨rfl, List.nil_prefix⟩⟩
        rw [← first, encoded_cons]
        simp [encoded]
      · exact ⟨[], bytes, ⟨rfl, .start all first⟩, List.nil_prefix⟩
    · obtain ⟨front, left, ⟨rfl, open_end⟩, short⟩ := ih later.symm
      refine ⟨c :: front, left, ⟨?_, open_end⟩, List.cons_prefix_cons.mpr ⟨rfl, short⟩⟩
      rw [encoded_cons, List.append_assoc]

end Decodes

end ScanSetup.Text
