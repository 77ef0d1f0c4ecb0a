import FederatedPresence.Text.Hexadecimal
import FederatedPresence.Text.Printable

/-!
# Entities in markup text

Where text stands between tags, `&name;` stands for a character: one of five named ones, or one
given by its number. Writing escapes the characters that would begin a tag or an entity.

Main statement: `unescape_escape`, what is escaped is read back.
-/

namespace FederatedPresence.Names

open Text

/-- Why a text with entities cannot be read. Offsets count the bytes of the text. -/
inductive EntityError where
  | unknown (start stop : Nat) (name : List Char)
  /-- Behind a `&` no `;` follows, or another `&` comes first. -/
  | unterminated (start stop : Nat)
  | nullCharacter (start stop : Nat)
  | badDecimal (c : Char)
  | badHexadecimal (c : Char)
  | noCodePoint (n : Nat)
  | longDecimal
  | longHexadecimal
  deriving DecidableEq

namespace EntityError

def atRange (start stop : Nat) (what : String) : String :=
  "Error while escaping character at range " ++ start.repr ++ ".." ++ stop.repr ++ ": " ++ what

def message : EntityError → String
  | unknown start stop name =>
    atRange start stop ("Unrecognized escape symbol: " ++ String.ofList (quoted name))
  | unterminated start stop => atRange start stop "Cannot find ';' after '&'"
  | nullCharacter start stop => atRange start stop "Null character entity not allowed"
  | badDecimal c => "'" ++ c.toString ++ "' is not a valid decimal character"
  | badHexadecimal c => "'" ++ c.toString ++ "' is not a valid hexadecimal character"
  | noCodePoint n => "'" ++ n.repr ++ "' is not a valid codepoint"
  | longDecimal => "Cannot convert decimal to utf8"
  | longHexadecimal => "Cannot convert hexadecimal to utf8"

end EntityError

/-! ## Reading -/

/-- The first byte of a character, as the character with that number. -/
def firstByte (c : Char) : Char :=
  Char.ofNat ((String.utf8EncodeChar c).headD 0).toNat

/-- A decimal number. -/
def readDecimal (n : Nat) : List Char → Except EntityError Nat
  | [] => .ok n
  | c :: cs =>
    if c.isDigit then readDecimal (n * 10 + (c.toNat - 48)) cs else .error (.badDecimal (firstByte c))

/-- A hexadecimal number. -/
def readHexadecimal (n : Nat) : List Char → Except EntityError Nat
  | [] => .ok n
  | c :: cs => match hexValue? c with
    | some d => readHexadecimal (n * 16 + d.val) cs
    | none => .error (.badHexadecimal (firstByte c))

/-- The number of a character entity, from behind the `#` on. Long ones are refused unread. -/
def readNumber : List Char → Except EntityError Nat
  | 'x' :: cs => if 6 < byteLength cs then .error .longHexadecimal else readHexadecimal 0 cs
  | cs => if 7 < byteLength cs then .error .longDecimal else readDecimal 0 cs

/-- The character with a number, for an entity between the given offsets. -/
def charOfNumber (start stop n : Nat) : Except EntityError Char :=
  if n = 0 then .error (.nullCharacter start stop)
  else if n < 0xD800 ∨ (0xDFFF < n ∧ n < 0x110000) then .ok (Char.ofNat n)
  else .error (.noCodePoint n)

/-- The named entities. -/
def namedChar? (name : List Char) : Option Char :=
  if name = ['l', 't'] then some '<'
  else if name = ['g', 't'] then some '>'
  else if name = ['a', 'm', 'p'] then some '&'
  else if name = ['a', 'p', 'o', 's'] then some '\''
  else if name = ['q', 'u', 'o', 't'] then some '"'
  else none

/-- The character that an entity stands for. `start` is the offset of its `&`. -/
def entityChar (start : Nat) (name : List Char) : Except EntityError Char :=
  let stop := start + 1 + byteLength name
  match name with
  | '#' :: number => match readNumber number with
    | .ok n => charOfNumber start stop n
    | .error e => .error e
  | _ => match namedChar? name with
    | some c => .ok c
    | none => .error (.unknown (start + 1) stop name)

/-- The text with its entities replaced; `start` is the offset of what is being read. Inside an
entity, `name` holds its characters so far, latest first, and `start` stays at its `&`. -/
def unescapeFrom (start : Nat) (name : Option (List Char)) :
    List Char → Except EntityError (List Char)
  | [] => match name with
    | none => .ok []
    | some e => .error (.unterminated start (start + 1 + byteLength e))
  | c :: cs => match name with
    | none =>
      if c = '&' then unescapeFrom start (some []) cs
      else match unescapeFrom (start + c.utf8Size) none cs with
        | .ok ds => .ok (c :: ds)
        | .error err => .error err
    | some e =>
      if c = ';' then
        match entityChar start e.reverse with
        | .error err => .error err
        | .ok d => match unescapeFrom (start + 2 + byteLength e) none cs with
          | .ok ds => .ok (d :: ds)
          | .error err => .error err
      else if c = '&' then
        .error (.unterminated start (start + 1 + byteLength e + byteLength (c :: cs)))
      else unescapeFrom start (some (c :: e)) cs

/-- The text with its entities replaced. -/
def unescape (cs : List Char) : Except EntityError (List Char) := unescapeFrom 0 none cs

/-! ## Writing -/

/-- A character in markup text. -/
def escapeChar (c : Char) : List Char :=
  if c = '&' then ['&', 'a', 'm', 'p', ';']
  else if c = '<' then ['&', 'l', 't', ';']
  else if c = '>' then ['&', 'g', 't', ';']
  else [c]

/-- A text in markup. -/
def escape (cs : List Char) : List Char := cs.flatMap escapeChar

theorem unescapeFrom_escape (start : Nat) (cs : List Char) :
    unescapeFrom start none (escape cs) = .ok cs := by
  induction cs generalizing start with
  | nil => rfl
  | cons c cs ih =>
    have hcons : escape (c :: cs) = escapeChar c ++ escape cs := by simp [escape]
    rw [hcons]
    unfold escapeChar
    split
    · rename_i h; subst h
      simp [unescapeFrom, entityChar, namedChar?, ih]
    · split
      · rename_i h; subst h
        simp [unescapeFrom, entityChar, namedChar?, ih]
      · split
        · rename_i h; subst h
          simp [unescapeFrom, entityChar, namedChar?, ih]
        · rename_i h _ _
          simp [unescapeFrom, h, ih]

/-- **What is escaped is read back.** -/
theorem unescape_escape (cs : List Char) : unescape (escape cs) = .ok cs := unescapeFrom_escape 0 cs

/-- No tag begins in an escaped text. -/
theorem lt_not_mem_escape (cs : List Char) : '<' ∉ escape cs := by
  simp only [escape, List.mem_flatMap, not_exists, not_and]
  intro c _
  unfold escapeChar
  split
  · decide
  · split
    · decide
    · split
      · decide
      · rename_i h _
        simp [Ne.symm h]

end FederatedPresence.Names
