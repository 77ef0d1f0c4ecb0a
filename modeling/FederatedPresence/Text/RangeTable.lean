import FederatedPresence.Text.Hexadecimal
import FederatedPresence.Text.Split

/-!
# Tables of ranges

A property of code points that is constant on ranges is kept as the list of the ranges' first code
points, in ascending order, each with the value on its range. A range ends where the next begins.

In source a table is a list of rows; a row holds words of the form `first:value`, the first code
point being written in hexadecimal.
-/

namespace FederatedPresence.Text

/-- The number that hexadecimal digits stand for; other characters are skipped. -/
def readHex (cs : List Char) : Nat :=
  cs.foldl (fun n c => match hexValue? c with | some d => n * 16 + d.val | none => n) 0

/-- The ranges of a property, each as its first code point and the value on it. -/
structure RangeTable (α : Type) where
  entries : Array (Nat × α)

namespace RangeTable

variable {α : Type}

/-- Halves the stretch between two indices until one index is left: that of the last entry, if any,
that begins at `n` or before. -/
def seek (entries : Array (Nat × α)) (n low high : Nat) : Nat :=
  if low + 1 < high then
    let middle := (low + high) / 2
    match entries[middle]? with
    | some e => if e.1 ≤ n then seek entries n middle high else seek entries n low middle
    | none => low
  else low
termination_by high - low

/-- The range that holds `n`, as its first code point and the value on it. -/
def find? (t : RangeTable α) (n : Nat) : Option (Nat × α) :=
  (t.entries[seek t.entries n 0 t.entries.size]?).filter fun e => e.1 ≤ n

/-- The value at `n`. -/
def get? (t : RangeTable α) (n : Nat) : Option α := (t.find? n).map (·.2)

/-- The value at `n`, when a range begins there. -/
def getExact? (t : RangeTable α) (n : Nat) : Option α :=
  ((t.find? n).filter fun e => e.1 = n).map (·.2)

/-- The words `key:value` of some rows. -/
def words (rows : List String) : List (List Char × List Char) :=
  rows.flatMap fun row => (pieces (· = ' ') row.toList).filterMap (cutAt (· = ':'))

/-- The table written in `rows`. -/
def ofRows (value : List Char → α) (rows : List String) : RangeTable α :=
  ⟨((words rows).map fun (key, v) => (readHex key, value v)).toArray⟩

end RangeTable

end FederatedPresence.Text
