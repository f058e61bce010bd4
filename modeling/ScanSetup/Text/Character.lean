set_option autoImplicit false

namespace ScanSetup.Text

/-- Disjoint ranges of code points in ascending order, both ends included. -/
abbrev CodeRanges := List (Nat × Nat)

/-- Membership. The search ends at the first range that starts behind the code point. -/
def CodeRanges.contains : CodeRanges → Nat → Bool
  | [], _ => false
  | (first, last) :: rest, n =>
    if n < first then false else if n ≤ last then true else CodeRanges.contains rest n

def blankRanges : CodeRanges := [
  (0x9, 0xd), (0x1c, 0x20), (0x85, 0x85), (0xa0, 0xa0), (0x1680, 0x1680), (0x2000, 0x200a),
  (0x2028, 0x2029), (0x202f, 0x202f), (0x205f, 0x205f), (0x3000, 0x3000)]

def isBlank (c : Char) : Bool := blankRanges.contains c.toNat

/-- The list without the members at its end that satisfy `p`. -/
def dropTrailing {α : Type} (p : α → Bool) (l : List α) : List α := (l.reverse.dropWhile p).reverse

/-- The text without the white space at its two ends. -/
def trim (cs : List Char) : List Char := dropTrailing isBlank (cs.dropWhile isBlank)

/-- The code points of the zeros. -/
def zeros : List Nat := [
  0x30, 0x660, 0x6f0, 0x7c0, 0x966, 0x9e6, 0xa66, 0xae6, 0xb66, 0xbe6, 0xc66, 0xce6, 0xd66,
  0xde6, 0xe50, 0xed0, 0xf20, 0x1040, 0x1090, 0x17e0, 0x1810, 0x1946, 0x19d0, 0x1a80, 0x1a90,
  0x1b50, 0x1bb0, 0x1c40, 0x1c50, 0xa620, 0xa8d0, 0xa900, 0xa9d0, 0xa9f0, 0xaa50, 0xabf0,
  0xff10, 0x104a0, 0x10d30, 0x11066, 0x110f0, 0x11136, 0x111d0, 0x112f0, 0x11450, 0x114d0,
  0x11650, 0x116c0, 0x11730, 0x118e0, 0x11950, 0x11c50, 0x11d50, 0x11da0, 0x16a60, 0x16ac0,
  0x16b50, 0x1d7ce, 0x1d7d8, 0x1d7e2, 0x1d7ec, 0x1d7f6, 0x1e140, 0x1e2f0, 0x1e950, 0x1fbf0]

def digitValue? (c : Char) : Option Nat :=
  (zeros.find? fun first => first ≤ c.toNat && c.toNat < first + 10).map (c.toNat - ·)

/-- A decimal digit of any script. -/
def isDigit (c : Char) : Bool := (digitValue? c).isSome

/-- Digits that are being read: the number in front, a short row behind it, and the power of ten
that the row reaches. Only a full row is added to the number, which may be long. -/
structure DigitRow where
  front : Nat
  row : Nat
  scale : Nat

def DigitRow.value (r : DigitRow) : Nat := r.front * r.scale + r.row

/-- A row of this many digits is full. -/
def DigitRow.width : Nat := 100

/-- Reads one more digit. A character that is no digit counts as zero. -/
def DigitRow.push (r : DigitRow) (c : Char) : DigitRow :=
  let digit := (digitValue? c).getD 0
  if r.scale < Nat.pow 10 width then ⟨r.front, 10 * r.row + digit, 10 * r.scale⟩
  else ⟨r.value, digit, 10⟩

/-- The number that a list of digits writes. -/
def digitsValue (digits : List Char) : Nat := (digits.foldl DigitRow.push ⟨0, 0, 1⟩).value

end ScanSetup.Text
