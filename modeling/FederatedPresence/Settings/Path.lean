import FederatedPresence.Settings.Value
import FederatedPresence.Text.Blank

/-!
# Paths into settings

A path such as `server.port` or `hosts[0].name` leads from a tree of settings to one of its values.
Its parts are names of letters, digits, spaces, `_` and `-`, and indices in brackets, of which the
negative ones count from the end of a list. Putting a value at a path makes the tables and lists on
the way.
-/

namespace FederatedPresence

open Text

namespace Setting

/-- A step from a value to one inside it. -/
inductive Step where
  | key (name : String)
  | index (i : Int)
  deriving DecidableEq

/-- A path: the name of an entry of the tree, and the steps from there on. -/
structure Path where
  root : String
  steps : List Step
  deriving DecidableEq

/-! ## Reading paths -/

/-- A character of a name. -/
def isNameChar (c : Char) : Bool := c.isAlphanum || c = ' ' || c = '_' || c = '-'

/-- A name, and what follows it. -/
def readName? (cs : List Char) : Option (String × List Char) :=
  match cs.takeWhile isNameChar with
  | [] => none
  | name => some (String.ofList name, cs.dropWhile isNameChar)

/-- Digits, with a minus sign in front of them or not. -/
def readSigned? : List Char → Option Int
  | '-' :: cs => (readDigits? cs).map fun n => -Int.ofNat n
  | cs => (readDigits? cs).map Int.ofNat

/-- An index, from behind its bracket on, and what follows it. -/
def readIndex? (cs : List Char) : Option (Int × List Char) :=
  match cutAt (· = ']') cs with
  | none => none
  | some (inner, rest) =>
    let number := strip (fun c => c = ' ' || c = '\t') inner
    ((readSigned? number).filter isInt64).map fun i => (i, rest)

/-- The steps of a path, of which there are no more than `limit`. -/
def readSteps? : (limit : Nat) → List Char → Option (List Step)
  | _, [] => some []
  | limit + 1, '.' :: cs =>
    (readName? cs).bind fun (name, rest) => (readSteps? limit rest).map (.key name :: ·)
  | limit + 1, '[' :: cs =>
    (readIndex? cs).bind fun (i, rest) => (readSteps? limit rest).map (.index i :: ·)
  | _, _ => none

/-- The path that a text stands for. -/
def Path.ofChars? (cs : List Char) : Option Path :=
  (readName? cs).bind fun (name, rest) => (readSteps? rest.length rest).map fun steps => ⟨name, steps⟩

/-- The path that a name leads along; a name that is no path leads to its own entry. -/
def Path.ofName (name : String) : Path := (Path.ofChars? name.toList).getD ⟨name, []⟩

/-! ## Putting values at paths -/

/-- The items with one of them changed. Where the list is too short for the index, absent items are
put at the end at which the index leaves it. -/
def changeItem (i : Int) (f : Setting → Setting) (vs : List Setting) : List Setting :=
  if 0 ≤ i then (vs ++ List.replicate (i.toNat + 1 - vs.length) absent).modify i.toNat f
  else (List.replicate (i.natAbs - vs.length) absent ++ vs).modify (vs.length - i.natAbs) f

/-- Lays a value over the entry of a name. -/
def overlayAt (name : String) (v : Setting) (base : List (String × Setting)) :
    List (String × Setting) :=
  let name := canonicalName name
  putEntry name (overlay (base.lookup name) v) base

/-- Puts a value at the end of some steps. What is in the way is replaced. -/
def putAlong (v : Setting) : List Step → Setting → Setting
  | [], _ => v
  | [.key name], base => table (overlayAt name v base.entries)
  | .key name :: steps, base =>
    let name := canonicalName name
    table (putEntry name (putAlong v steps ((base.entries.lookup name).getD absent)) base.entries)
  | .index i :: steps, base => list (changeItem i (putAlong v steps) base.items)

/-- Puts a value at a path in a tree. -/
def putAt (path : Path) (v : Setting) (tree : Setting) : Setting :=
  putAlong v (.key path.root :: path.steps) tree

/-- Lays the entries of a source over a tree, the name of each being a path. -/
def layOver (tree : Setting) (source : List (String × Setting)) : Setting :=
  source.foldl (fun tree e => putAt (.ofName e.1) e.2 tree) tree

end Setting

end FederatedPresence
