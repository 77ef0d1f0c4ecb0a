import FederatedPresence.Text.Hexadecimal

/-!
# Characters and strings of TOML

A string stands between quotes or apostrophes, three of them when it may have several lines. Between
quotes a backslash begins an escape; between apostrophes everything stands for itself. Control
characters other than the tab are refused.

A reader takes the beginning of a text and gives what is left of it, or nothing when the text is
malformed.
-/

namespace FederatedPresence.Toml

open Text

/-! ## Characters -/

/-- Space and tab. -/
def isBlank (c : Char) : Bool := c = ' ' || c = '\t'

/-- A character that may stand in a string or a comment. -/
def isPlain (c : Char) : Bool := c = '\t' || (0x20 ≤ c.toNat && c.toNat != 0x7F)

/-- Without blanks at the beginning. -/
def skipBlanks (cs : List Char) : List Char := cs.dropWhile isBlank

/-- What follows a line break. -/
def afterBreak? : List Char → Option (List Char)
  | '\n' :: cs => some cs
  | '\r' :: '\n' :: cs => some cs
  | _ => none

/-- Without one line break at the beginning, if there is one. -/
def skipBreak (cs : List Char) : List Char := (afterBreak? cs).getD cs

/-- Without blanks and line breaks at the beginning. -/
def skipBreaks : List Char → List Char
  | '\n' :: cs => skipBreaks cs
  | '\r' :: '\n' :: cs => skipBreaks cs
  | ' ' :: cs => skipBreaks cs
  | '\t' :: cs => skipBreaks cs
  | cs => cs

/-! ## Escapes -/

/-- The number of some hexadecimal digits. -/
def hexNumber? (ds : List Char) : Option Nat :=
  (ds.mapM hexValue?).map fun vs => vs.foldl (fun n d => n * 16 + d.val) 0

/-- The character with a number. -/
def charOfNumber? (n : Nat) : Option Char :=
  if n < 0xD800 ∨ (0xDFFF < n ∧ n < 0x110000) then some (Char.ofNat n) else none

/-- The character of `count` hexadecimal digits, and what follows them. -/
def readCodePoint? (count : Nat) (cs : List Char) : Option (Char × List Char) :=
  if cs.length < count then none
  else ((hexNumber? (cs.take count)).bind charOfNumber?).map fun c => (c, cs.drop count)

/-- The character of an escape, from behind its backslash on, and what follows it. -/
def readEscape? : List Char → Option (Char × List Char)
  | 'b' :: cs => some ('\x08', cs)
  | 'f' :: cs => some ('\x0c', cs)
  | 'n' :: cs => some ('\n', cs)
  | 'r' :: cs => some ('\r', cs)
  | 't' :: cs => some ('\t', cs)
  | '"' :: cs => some ('"', cs)
  | '\\' :: cs => some ('\\', cs)
  | 'u' :: cs => readCodePoint? 4 cs
  | 'U' :: cs => readCodePoint? 8 cs
  | _ => none

/-- What follows a backslash at the end of a line: the next line, without what it is indented by. -/
def afterContinuation? (cs : List Char) : Option (List Char) :=
  (afterBreak? (skipBlanks cs)).map skipBreaks

/-! ## Strings

`done` holds the characters read so far, latest first, and `limit` bounds how many pieces there can
be. -/

/-- The text of some characters, latest first, with what is left of the input. -/
def finished (done rest : List Char) : Option (String × List Char) :=
  some (String.ofList done.reverse, rest)

/-- A string of one line, from behind its quote on. -/
def readBasic (done : List Char) : (limit : Nat) → List Char → Option (String × List Char)
  | _, '"' :: cs => finished done cs
  | limit + 1, '\\' :: cs => (readEscape? cs).bind fun (c, rest) => readBasic (c :: done) limit rest
  | limit + 1, c :: cs => if isPlain c then readBasic (c :: done) limit cs else none
  | _, _ => none

/-- A string of several lines, from behind its three quotes on. Two more quotes before the last three
belong to the string. -/
def readLongBasic (done : List Char) : (limit : Nat) → List Char → Option (String × List Char)
  | _, '"' :: '"' :: '"' :: '"' :: '"' :: cs => finished ('"' :: '"' :: done) cs
  | _, '"' :: '"' :: '"' :: '"' :: cs => finished ('"' :: done) cs
  | _, '"' :: '"' :: '"' :: cs => finished done cs
  | limit + 1, '\\' :: cs => match afterContinuation? cs with
    | some rest => readLongBasic done limit rest
    | none => (readEscape? cs).bind fun (c, rest) => readLongBasic (c :: done) limit rest
  | limit + 1, '\n' :: cs => readLongBasic ('\n' :: done) limit cs
  | limit + 1, '\r' :: '\n' :: cs => readLongBasic ('\n' :: done) limit cs
  | limit + 1, c :: cs => if isPlain c then readLongBasic (c :: done) limit cs else none
  | _, _ => none

/-- A string of one line that has no escapes, from behind its apostrophe on. -/
def readLiteral (done : List Char) : List Char → Option (String × List Char)
  | '\'' :: cs => finished done cs
  | c :: cs => if isPlain c then readLiteral (c :: done) cs else none
  | [] => none

/-- A string of several lines that has no escapes, from behind its three apostrophes on. -/
def readLongLiteral (done : List Char) : List Char → Option (String × List Char)
  | '\'' :: '\'' :: '\'' :: '\'' :: '\'' :: cs => finished ('\'' :: '\'' :: done) cs
  | '\'' :: '\'' :: '\'' :: '\'' :: cs => finished ('\'' :: done) cs
  | '\'' :: '\'' :: '\'' :: cs => finished done cs
  | '\n' :: cs => readLongLiteral ('\n' :: done) cs
  | '\r' :: '\n' :: cs => readLongLiteral ('\n' :: done) cs
  | c :: cs => if isPlain c then readLongLiteral (c :: done) cs else none
  | [] => none

/-- A string of one line. -/
def readShortString? : List Char → Option (String × List Char)
  | '"' :: cs => readBasic [] cs.length cs
  | '\'' :: cs => readLiteral [] cs
  | _ => none

/-- A string. A line break right behind three quotes or apostrophes does not belong to it. -/
def readString? : List Char → Option (String × List Char)
  | '"' :: '"' :: '"' :: cs => readLongBasic [] cs.length (skipBreak cs)
  | '\'' :: '\'' :: '\'' :: cs => readLongLiteral [] (skipBreak cs)
  | cs => readShortString? cs

/-! ## Keys -/

/-- A character of a key that has no quotes. -/
def isKeyChar (c : Char) : Bool := c.isAlphanum || c = '_' || c = '-'

/-- A part of a key. -/
def readKeyPart? (cs : List Char) : Option (String × List Char) :=
  match cs with
  | '"' :: _ | '\'' :: _ => readShortString? cs
  | _ => match cs.takeWhile isKeyChar with
    | [] => none
    | name => some (String.ofList name, cs.dropWhile isKeyChar)

/-- The parts of a key with dots between them, `limit` at most. -/
def readKeyParts? : (limit : Nat) → List Char → Option (List String × List Char)
  | 0, _ => none
  | limit + 1, cs => (readKeyPart? (skipBlanks cs)).bind fun (part, rest) =>
    match skipBlanks rest with
    | '.' :: more => (readKeyParts? limit more).map fun (parts, rest) => (part :: parts, rest)
    | rest => some ([part], rest)

/-- How deep keys and values may go. -/
def depthLimit : Nat := 79

/-- A key, with the blanks around it. -/
def readKey? (cs : List Char) : Option (List String × List Char) := readKeyParts? depthLimit cs

end FederatedPresence.Toml
