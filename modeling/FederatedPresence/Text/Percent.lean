import FederatedPresence.Text.Hexadecimal
import FederatedPresence.Text.Utf8

/-!
# Percent encoding

A byte is written as `%` and two upper-case hexadecimal digits. Reading leaves a `%` alone when two
digits do not follow it.
-/

namespace FederatedPresence.Percent

open Text

/-- A byte as `%` and two digits. -/
def encodeByte (b : UInt8) : List Char :=
  let n := b.toNat
  ['%', hexDigitUpper ⟨n / 16, by have := b.toNat_lt; omega⟩, hexDigitUpper ⟨n % 16, by omega⟩]

/-- A text in which the characters that satisfy `p`, and all beyond ASCII, are percent-encoded. -/
def encode (p : Char → Bool) (cs : List Char) : List Char :=
  cs.flatMap fun c =>
    if p c || 0x7F < c.toNat then (String.utf8EncodeChar c).flatMap encodeByte else [c]

/-- The byte that two digits stand for. -/
def byte? (a b : UInt8) : Option UInt8 :=
  match hexValue? (Char.ofNat a.toNat), hexValue? (Char.ofNat b.toNat) with
  | some h, some l => some (UInt8.ofNat (h.val * 16 + l.val))
  | _, _ => none

/-- Bytes in which each `%` and two digits stands for the byte it names. -/
def decodeBytes : List UInt8 → List UInt8
  | 0x25 :: a :: b :: bs =>
    match byte? a b with
    | some x => x :: decodeBytes bs
    | none => 0x25 :: decodeBytes (a :: b :: bs)
  | b :: bs => b :: decodeBytes bs
  | [] => []

/-- The bytes that a percent-encoded text stands for. -/
def decode (cs : List Char) : List UInt8 := decodeBytes (Utf8.encode cs)

end FederatedPresence.Percent
