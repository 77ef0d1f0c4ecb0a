import FederatedPresence.Text.Hexadecimal
import FederatedPresence.Text.Json.Number
import FederatedPresence.Text.Printable
import FederatedPresence.Text.TextMap

/-!
# Reading maps from JSON

A map from text to text is one object with strings as values, without a comma too many, and with
nothing but white space behind it. A surrogate must be one of a pair. Of several members of one name
the last one counts.

A value of another kind is read only to say what it is.
-/

namespace FederatedPresence.Json

open Text

/-! ## Strings -/

def isSpace (c : Char) : Bool := c = ' ' || c = '\t' || c = '\n' || c = '\r'

def skipSpace (cs : List Char) : List Char := cs.dropWhile isSpace

/-- Four hexadecimal digits as a code unit. -/
def unit? (a b c d : Char) : Option Nat :=
  match hexValue? a, hexValue? b, hexValue? c, hexValue? d with
  | some w, some x, some y, some z => some (((w.val * 16 + x.val) * 16 + y.val) * 16 + z.val)
  | _, _, _, _ => none

/-- The character that a letter behind a backslash stands for. -/
def escaped? (c : Char) : Option Char :=
  if c = '"' ∨ c = '\\' ∨ c = '/' then some c
  else if c = 'b' then some '\x08'
  else if c = 'f' then some '\x0c'
  else if c = 'n' then some '\n'
  else if c = 'r' then some '\r'
  else if c = 't' then some '\t'
  else none

/-- The failure where four hexadecimal digits should stand. All four bytes are looked at. -/
def failHex (cs : List Char) : Failed :=
  if byteLength (cs.take 4) < 4 then failBefore .endInString [] else ⟨.invalidEscape, cs, 4⟩

/-- The failure where the other half of a surrogate pair should stand. -/
def failPair : List Char → Failed
  | [] | ['\\'] => failBefore .endInString []
  | '\\' :: 'u' :: cs => failHex cs
  | '\\' :: cs => failAt .endOfHexEscape cs
  | cs => failAt .endOfHexEscape cs

/-- Reads a string from behind its quote on; `done` is what was read, latest character first. -/
def readString (done : List Char) : List Char → Except Failed (List Char × List Char)
  | [] => .error (failBefore .endInString [])
  | '"' :: cs => .ok (done.reverse, cs)
  | '\\' :: 'u' :: a :: b :: c :: d :: cs =>
    match unit? a b c d with
    | none => .error (failHex (a :: b :: c :: d :: cs))
    | some u =>
      if u < 0xD800 ∨ 0xDFFF < u then readString (Char.ofNat u :: done) cs
      else if 0xDC00 ≤ u then .error (failBefore .loneSurrogate cs)
      else match cs with
        | '\\' :: 'u' :: a :: b :: c :: d :: rest =>
          match unit? a b c d with
          | none => .error (failPair cs)
          | some v =>
            if 0xDC00 ≤ v ∧ v ≤ 0xDFFF then
              readString (Char.ofNat (0x10000 + (u - 0xD800) * 0x400 + (v - 0xDC00)) :: done) rest
            else .error (failBefore .loneSurrogate rest)
        | _ => .error (failPair cs)
  | '\\' :: c :: cs => match escaped? c with
    | some e => readString (e :: done) cs
    | none => .error (if c = 'u' then failHex cs else failAt .invalidEscape (c :: cs))
  | c :: cs =>
    if c = '\\' then .error (failBefore .endInString cs)
    else if c.toNat < 0x20 then .error (failBefore .controlCharacter cs)
    else readString (c :: done) cs

/-! ## Values of other kinds -/

/-- Reads the given letters. -/
def readLetters : List Char → List Char → Except Failed (List Char)
  | [], cs => .ok cs
  | _ :: _, [] => .error (failBefore .endInValue [])
  | l :: ls, c :: cs =>
    if c = l then readLetters ls cs else .error (failAt .expectedWord (c :: cs))

/-- Reads a value, and tells what it is. Of an object or an array nothing is read. -/
def describeValue (cs : List Char) : Except Failed (String × List Char) :=
  match cs with
  | [] => .error (failBefore .endInValue [])
  | '[' :: _ => .ok ("sequence", cs)
  | '\x7b' :: _ => .ok ("map", cs)
  | '"' :: r => (readString [] r).map fun (s, rest) => ("string " ++ String.ofList (quoted s), rest)
  | 't' :: r => (readLetters "rue".toList r).map fun rest => ("boolean \u0060true\u0060", rest)
  | 'f' :: r => (readLetters "alse".toList r).map fun rest => ("boolean \u0060false\u0060", rest)
  | 'n' :: r => (readLetters "ull".toList r).map fun rest => ("null", rest)
  | c :: _ =>
    if c = '-' ∨ c.isDigit then (readNumber cs).map fun (n, rest) => (n.describe, rest)
    else .error (failAt .expectedValue cs)

/-- The failure that a value amounts to where one of another kind is expected. -/
def wrongKind (expected : String) (cs : List Char) : Failed :=
  match describeValue cs with
  | .ok (found, rest) => failBefore (.wrongKind found expected) rest
  | .error f => f

/-! ## Objects -/

/-- Reads the members of an object from behind its brace or a comma on, `limit` at most, and gives
what follows the object. -/
def readMembers (first : Bool) (m : TextMap) : (limit : Nat) → List Char →
    Except Failed (TextMap × List Char)
  | 0, cs => .error (failBefore .endInObject cs)
  | limit + 1, cs => match skipSpace cs with
    | [] => .error (failBefore (if first then .endInObject else .endInValue) [])
    | '\x7d' :: r => if first then .ok (m, r) else .error (failAt .trailingComma ('\x7d' :: r))
    | '"' :: r => match readString [] r with
      | .error f => .error f
      | .ok (key, r) => match skipSpace r with
        | ':' :: r => match skipSpace r with
          | '"' :: r => match readString [] r with
            | .error f => .error f
            | .ok (value, r) =>
              let m := m.insert (String.ofList key) (String.ofList value)
              match skipSpace r with
              | '\x7d' :: r => .ok (m, r)
              | ',' :: r => readMembers false m limit r
              | [] => .error (failBefore .endInObject [])
              | cs => .error (failAt .expectedCommaOrEnd cs)
          | cs => .error (wrongKind "a string" cs)
        | [] => .error (failBefore .endInObject [])
        | cs => .error (failAt .expectedColon cs)
    | cs => .error (failAt .keyNotString cs)

/-- Reads a map. A text has no more members than characters. -/
def readMap (text : List Char) : Except Failed TextMap :=
  match skipSpace text with
  | '\x7b' :: r => match readMembers true .empty r.length.succ r with
    | .error f => .error f
    | .ok (m, r) => match skipSpace r with
      | [] => .ok m
      | cs => .error (failAt .trailingCharacters cs)
  | cs => .error (wrongKind "a map" cs)

/-- The map that a text stands for. -/
def map? (text : String) : Option TextMap :=
  match readMap text.toList with
  | .ok m => some m
  | .error _ => none

end FederatedPresence.Json
