import FederatedPresence.Settings.Value

/-!
# Building tables of TOML

A document is built from statements: headers of tables, headers of arrays of tables, and entries of
the table of the latest header. Each table may be defined once. A header goes through tables and the
last tables of arrays; a dotted key goes only through tables that keys before it have made on the
way, not through defined ones.
-/

namespace FederatedPresence.Toml

/-- How a table came to be. -/
inductive TableKind where
  /-- Defined by a header, or the table of the document. -/
  | defined
  /-- Made on the way to a table that a header defines. -/
  | implied
  /-- Made on the way by a dotted key. -/
  | dotted
  deriving DecidableEq

/-- What stands under a key while a document is built. -/
inductive Item where
  | value (v : Setting)
  | table (kind : TableKind) (entries : List (String × Item))
  | tables (elements : List (List (String × Item)))

/-- The entries of a table while a document is built. -/
abbrev Entries := List (String × Item)

namespace Entries

/-- Changes the item of a key that is there. -/
def replace (key : String) (item : Item) (es : Entries) : Entries :=
  es.map fun e => if e.1 = key then (key, item) else e

/-- A key that is not there yet gets an item. -/
def add? (key : String) (item : Item) (es : Entries) : Option Entries :=
  if (es.lookup key).isNone then some (es ++ [(key, item)]) else none

/-- Changes the table at the end of a path, making tables on the way. `byKey` tells that a dotted
key leads there, not a header. -/
def changeAt (byKey : Bool) (f : TableKind → Entries → Option Entries) :
    List String → TableKind → Entries → Option Entries
  | [], kind, es => f kind es
  | key :: path, _, es => match es.lookup key with
    | none =>
      let kind := if byKey then TableKind.dotted else .implied
      (changeAt byKey f path kind []).map fun inner => es ++ [(key, .table kind inner)]
    | some (.value _) => none
    | some (.table kind inner) =>
      if byKey ∧ kind = .defined then none
      else (changeAt byKey f path kind inner).map fun inner => replace key (.table kind inner) es
    | some (.tables elements) => match elements.getLast? with
      | none => none
      | some last => (changeAt byKey f path .defined last).map fun last =>
        replace key (.tables (elements.dropLast ++ [last])) es

/-- Defines the table of a key; it may have been implied before. -/
def define? (key : String) (es : Entries) : Option Entries :=
  match es.lookup key with
  | none => some (es ++ [(key, .table .defined [])])
  | some (.table .implied inner) => some (replace key (.table .defined inner) es)
  | _ => none

/-- Adds a table to the array of a key. -/
def extend? (key : String) (es : Entries) : Option Entries :=
  match es.lookup key with
  | none => some (es ++ [(key, .tables [[]])])
  | some (.tables elements) => some (replace key (.tables (elements ++ [[]])) es)
  | _ => none

/-- Enters a value under a dotted key into a table. The last part of a dotted key enters only into a
table that dotted keys have made. -/
def assign? (key : List String) (v : Setting) (kind : TableKind) (es : Entries) : Option Entries :=
  match key.getLast? with
  | none => none
  | some last =>
    let path := key.dropLast
    changeAt true (fun kind es =>
      if path = [] ∨ kind = .dotted then add? last (.value v) es else none) path kind es

end Entries

/-! ## Finished tables -/

mutual

/-- The value of an item. -/
def Item.setting : Item → Setting
  | .value v => v
  | .table _ es => .table (entrySettings es)
  | .tables elements => .list (elementSettings elements)

/-- The values of entries. -/
def entrySettings : List (String × Item) → List (String × Setting)
  | [] => []
  | (key, item) :: es => (key, item.setting) :: entrySettings es

/-- The values of the tables of an array. -/
def elementSettings : List (List (String × Item)) → List Setting
  | [] => []
  | es :: elements => .table (entrySettings es) :: elementSettings elements

end

end FederatedPresence.Toml
