import FederatedPresence.Text.TextMap

/-!
# Writing JSON

Strings, objects and arrays as JSON without white space. A map from text to text is an object of
strings, in the order of its entries.
-/

namespace FederatedPresence.Json

/-- A character inside a string. -/
def escapeChar (c : Char) : List Char :=
  if c = '"' then ['\\', '"']
  else if c = '\\' then ['\\', '\\']
  else if c = '\x08' then ['\\', 'b']
  else if c = '\x0c' then ['\\', 'f']
  else if c = '\n' then ['\\', 'n']
  else if c = '\r' then ['\\', 'r']
  else if c = '\t' then ['\\', 't']
  else if c.toNat < 0x20 then
    ['\\', 'u', '0', '0', Nat.digitChar (c.toNat / 16), Nat.digitChar (c.toNat % 16)]
  else [c]

/-- A text as a string. -/
def string (s : String) : List Char := '"' :: s.toList.flatMap escapeChar ++ ['"']

/-- Texts with a comma between each two. -/
def commas : List (List Char) → List Char
  | [] => []
  | [x] => x
  | x :: xs => x ++ ',' :: commas xs

/-- An object of members that are already written. -/
def object (members : List (String × List Char)) : List Char :=
  '\x7b' :: commas (members.map fun (k, v) => string k ++ ':' :: v) ++ ['\x7d']

/-- An array of items that are already written. -/
def array (items : List (List Char)) : List Char := '[' :: commas items ++ [']']

/-- A map as an object. -/
def ofMap (m : TextMap) : List Char := object (m.entries.map fun (k, v) => (k, string v))

end FederatedPresence.Json
