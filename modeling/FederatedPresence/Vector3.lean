import FederatedPresence.Number.Positional
import FederatedPresence.Text.Blank

/-!
# Vectors

A position in a region, or a direction in it. The text of a vector is `<x, y, z>`; the reader takes
any number of angle brackets around three numbers, and blanks around each part.
-/

namespace FederatedPresence

open Text

/-- A position or a direction. -/
structure Vector3 where
  x : Single
  y : Single
  z : Single
  deriving DecidableEq

namespace Vector3

/-- The origin. -/
def zero : Vector3 := ⟨.zero false, .zero false, .zero false⟩

instance : Inhabited Vector3 := ⟨zero⟩

/-- The text of a vector. -/
def chars (v : Vector3) : List Char :=
  '<' :: v.x.toText ++ ',' :: ' ' :: v.y.toText ++ ',' :: ' ' :: v.z.toText ++ ['>']

/-- The text of a vector. -/
def text (v : Vector3) : String := String.ofList v.chars

/-- The vector that a text stands for. -/
def ofChars? (cs : List Char) : Option Vector3 :=
  let inner := dropTailWhile (· = '>') ((strip isBlank cs).dropWhile (· = '<'))
  match (pieces (· = ',') inner).map fun part => (Binary.read? (strip isBlank part) : Option Single) with
  | [some x, some y, some z] => some ⟨x, y, z⟩
  | _ => none

/-- A text that is no vector. -/
structure Malformed where
  text : String
  deriving DecidableEq

def Malformed.message (e : Malformed) : String := "invalid vector: " ++ e.text

/-- Reads a vector. -/
def parse (s : String) : Except Malformed Vector3 :=
  match ofChars? s.toList with
  | some v => .ok v
  | none => .error ⟨s⟩

/-- Numeric equality of all components. -/
def numEq (v w : Vector3) : Bool := v.x.numEq w.x && v.y.numEq w.y && v.z.numEq w.z

/-- No component is NaN. -/
def isNumeric (v : Vector3) : Bool := v.x ≠ .nan && v.y ≠ .nan && v.z ≠ .nan

end Vector3

end FederatedPresence
