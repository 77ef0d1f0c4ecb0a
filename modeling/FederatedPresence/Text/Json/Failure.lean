import FederatedPresence.Text.Split

/-!
# Why a text is no JSON map

A failure has a cause and a place. Places count lines and the bytes of a line, and stand behind the
last byte that was looked at, even where that byte is only the first of a character.
-/

namespace FederatedPresence.Json

open Text

/-- Why reading stopped. -/
inductive Cause where
  | endInObject | endInString | endInValue
  | expectedColon | expectedCommaOrEnd | expectedValue | keyNotString
  | trailingComma | trailingCharacters
  | controlCharacter | invalidEscape | loneSurrogate | endOfHexEscape
  | invalidNumber | numberOutOfRange | expectedWord
  /-- A value of another kind than the one that is expected. -/
  | wrongKind (found expected : String)
  deriving DecidableEq

def Cause.message : Cause → String
  | endInObject => "EOF while parsing an object"
  | endInString => "EOF while parsing a string"
  | endInValue => "EOF while parsing a value"
  | expectedColon => "expected \u0060:\u0060"
  | expectedCommaOrEnd => "expected \u0060,\u0060 or \u0060\x7d\u0060"
  | expectedValue => "expected value"
  | keyNotString => "key must be a string"
  | trailingComma => "trailing comma"
  | trailingCharacters => "trailing characters"
  | controlCharacter => "control character (\\u0000-\\u001F) found while parsing a string"
  | invalidEscape => "invalid escape"
  | loneSurrogate => "lone leading surrogate in hex escape"
  | endOfHexEscape => "unexpected end of hex escape"
  | invalidNumber => "invalid number"
  | numberOutOfRange => "number out of range"
  | expectedWord => "expected ident"
  | wrongKind found expected => "invalid type: " ++ found ++ ", expected " ++ expected

/-- A cause, with the text that was not read yet where it came up, and how many bytes of that text
were looked at. -/
structure Failed where
  cause : Cause
  unread : List Char
  looked : Nat
  deriving DecidableEq

/-- A failure behind what was read. -/
def failBefore (cause : Cause) (cs : List Char) : Failed := ⟨cause, cs, 0⟩

/-- A failure on the next byte, if there is one. -/
def failAt (cause : Cause) (cs : List Char) : Failed := ⟨cause, cs, min 1 (byteLength cs)⟩

/-- The line and column behind the first `n` bytes of a text. -/
def place (text : List Char) (n : Nat) : Nat × Nat :=
  let seen := (text.flatMap String.utf8EncodeChar).take n
  (1 + seen.count 10, (seen.reverse.takeWhile (· ≠ 10)).length)

/-- The wording of a failure in a text. -/
def Failed.message (text : List Char) (f : Failed) : String :=
  let (line, column) := place text (byteLength text - byteLength f.unread + f.looked)
  f.cause.message ++ " at line " ++ line.repr ++ " column " ++ column.repr

end FederatedPresence.Json
