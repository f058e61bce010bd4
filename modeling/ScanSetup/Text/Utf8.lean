set_option autoImplicit false

namespace ScanSetup.Text

inductive Utf8Fault
  | startByte
  | continuationByte
  | truncated
  deriving DecidableEq, Repr

/-- Where decoding stopped: the bytes from `offset` on that form no character. -/
structure Utf8Error where
  fault : Utf8Fault
  offset : Nat
  bytes : List UInt8
  deriving DecidableEq, Repr

/-- Decoded text, up to the first error if there is one. -/
structure Utf8Decoding where
  text : List Char
  error? : Option Utf8Error
  deriving DecidableEq, Repr

/-- The value bits of a leading byte and the bounds of each byte that has to follow it. The first
follower has narrower bounds where the full range would admit overlong forms, surrogates or code
points out of range. -/
def leadingByte? (b : UInt8) : Option (Nat × List (UInt8 × UInt8)) :=
  let rest : UInt8 × UInt8 := (0x80, 0xbf)
  if b < 0x80 then some (b.toNat, [])
  else if b < 0xc2 then none
  else if b < 0xe0 then some (b.toNat % 32, [rest])
  else if b == 0xe0 then some (0, [(0xa0, 0xbf), rest])
  else if b == 0xed then some (13, [(0x80, 0x9f), rest])
  else if b < 0xf0 then some (b.toNat % 16, [rest, rest])
  else if b == 0xf0 then some (0, [(0x90, 0xbf), rest, rest])
  else if b < 0xf4 then some (b.toNat % 8, [rest, rest, rest])
  else if b == 0xf4 then some (4, [(0x80, 0x8f), rest, rest])
  else none

/-- The bytes that follow a leading byte: the code point once all are there, else the fault and the
bytes that did fit. -/
def followers (value : Nat) :
    List (UInt8 × UInt8) → List UInt8 → Except (Utf8Fault × List UInt8) Nat
  | [], _ => .ok value
  | _ :: _, [] => .error (.truncated, [])
  | (low, high) :: bounds, b :: bytes =>
    if low ≤ b && b ≤ high then
      match followers (64 * value + b.toNat % 64) bounds bytes with
      | .ok code => .ok code
      | .error (fault, seen) => .error (fault, b :: seen)
    else .error (.continuationByte, [])

/-- Decodes from byte `offset` on; `skip` bytes belong to a character that is already decoded. -/
def decodeFrom (offset skip : Nat) : List UInt8 → Utf8Decoding
  | [] => ⟨[], none⟩
  | b :: bytes =>
    match skip with
    | skip + 1 => decodeFrom (offset + 1) skip bytes
    | 0 =>
      match leadingByte? b with
      | none => ⟨[], some ⟨.startByte, offset, [b]⟩⟩
      | some (value, bounds) =>
        match followers value bounds bytes with
        | .error (fault, seen) => ⟨[], some ⟨fault, offset, b :: seen⟩⟩
        | .ok code =>
          let tail := decodeFrom (offset + 1) bounds.length bytes
          ⟨Char.ofNat code :: tail.text, tail.error?⟩

def decodeUtf8 (bytes : List UInt8) : Utf8Decoding := decodeFrom 0 0 bytes

/-- The first two bytes of a code point that is no character, a surrogate. The third decides. -/
def isHalfSurrogate : List UInt8 → Bool
  | [first, second] => first == 0xed && 0xa0 ≤ second && second ≤ 0xbf
  | _ => false

/-- Decodes a part of a text that may end within a character: the characters that are complete, and
the bytes behind them that further bytes decide. -/
def decodePart (bytes : List UInt8) : Except Utf8Error (List Char × List UInt8) :=
  let decoding := decodeUtf8 bytes
  match decoding.error? with
  | none => .ok (decoding.text, [])
  | some error =>
    let rest := bytes.drop error.offset
    if error.fault == .truncated || isHalfSurrogate rest then .ok (decoding.text, rest)
    else .error error

end ScanSetup.Text
