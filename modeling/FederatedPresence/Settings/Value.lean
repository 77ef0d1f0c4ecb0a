import FederatedPresence.Number.Positional
import FederatedPresence.Text.Decimal

/-!
# Values of settings

Settings are a tree: tables of named values, lists, and scalars. A scalar can be read as one of
another kind where its meaning is plain, such as `"yes"` as a truth value or `true` as the number
one.
-/

namespace FederatedPresence

open Text

/-- A value in a tree of settings. -/
inductive Setting where
  /-- A place of a list that was skipped. -/
  | absent
  | bool (b : Bool)
  | int (n : Int)
  | float (x : Double)
  | text (s : String)
  | list (items : List Setting)
  | table (entries : List (String × Setting))

namespace Setting

instance : Inhabited Setting := ⟨absent⟩

/-! ## Entries -/

/-- Puts a value under a name, in place of an earlier one. -/
def putEntry (name : String) (v : Setting) : List (String × Setting) → List (String × Setting)
  | [] => [(name, v)]
  | e :: es => if e.1 = name then (name, v) :: es else e :: putEntry name v es

/-- The entries of a table; what is no table has none. -/
def entries : Setting → List (String × Setting)
  | table es => es
  | _ => []

/-- The items of a list; what is no list has none. -/
def items : Setting → List Setting
  | list vs => vs
  | _ => []

/-- A name as it is looked up: the case of its letters does not count. -/
def canonicalName (name : String) : String := name.map Char.toLower

/-! ## Reading scalars -/

/-- The words that stand for a truth value. -/
def boolWord? (s : String) : Option Bool :=
  let word := canonicalName s
  if word = "true" ∨ word = "on" ∨ word = "yes" then some true
  else if word = "false" ∨ word = "off" ∨ word = "no" then some false
  else none

/-- A truth value as a number. -/
def boolInt (b : Bool) : Int := if b then 1 else 0

/-- The value as a truth value: a number is true when it is not zero. -/
def bool? : Setting → Option Bool
  | bool b => some b
  | int n => some (n ≠ 0)
  | float x => some (!x.isZero)
  | text s => if s = "1" then some true else if s = "0" then some false else boolWord? s
  | _ => none

/-- The value as an integer between two bounds: a fraction is rounded and then kept between the
bounds, a text is read by `read?`. -/
def intWithin? (low high : Int) (read? : List Char → Option Int) : Setting → Option Int
  | bool b => some (boolInt b)
  | int n => if low ≤ n ∧ n ≤ high then some n else none
  | float x => some (x.toIntWithin low high)
  | text s => match boolWord? s with
    | some b => some (boolInt b)
    | none => read? s.toList
  | _ => none

/-- The value as a signed 64-bit word. -/
def int64? (v : Setting) : Option Int := v.intWithin? leastInt64 mostInt64 readInt64?

/-- The value as an unsigned 64-bit word. -/
def word64? (v : Setting) : Option Nat :=
  (v.intWithin? 0 mostWord64 fun cs => (readWord64? cs).map Int.ofNat).map Int.toNat

/-- The value as a text. -/
def text? : Setting → Option String
  | bool b => some (if b then "true" else "false")
  | int n => some (String.ofList (showInteger n))
  | float x => some (String.ofList x.toText)
  | text s => some s
  | _ => none

/-! ## Overlaying -/

mutual

/-- What is left of a value when another one is laid over it. A table changes only the entries that
it has, and an empty one nothing; any other value takes the place of the first. -/
def overlay (base : Option Setting) : Setting → Setting
  | table [] => base.getD (table [])
  | table (e :: es) => table (overlayEntries ((base.map entries).getD []) (e :: es))
  | v => v

/-- Lays entries over a table, one after the other. -/
def overlayEntries (base : List (String × Setting)) :
    List (String × Setting) → List (String × Setting)
  | [] => base
  | (name, v) :: es =>
    let name := canonicalName name
    overlayEntries (putEntry name (overlay (base.lookup name) v) base) es

end

end Setting

end FederatedPresence
