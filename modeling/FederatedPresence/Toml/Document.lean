import FederatedPresence.Toml.Moment
import FederatedPresence.Toml.Number
import FederatedPresence.Toml.Tree

/-!
# Documents of TOML

A document is a sequence of lines: headers of tables, entries, comments and blank lines. Values are
strings, numbers, truth values, dates and times, arrays, which may have several lines, and inline
tables, which may not. Dates and times are read as texts.

`readDocument?` gives the entries of a document, or nothing when it is malformed.
-/

namespace FederatedPresence.Toml

/-! ## Comments and line ends -/

/-- What follows a comment, if one begins here. -/
def skipComment : List Char → List Char
  | '#' :: cs => cs.dropWhile isPlain
  | cs => cs

/-- What follows the end of a line, before which a comment may stand. -/
def afterLine? (cs : List Char) : Option (List Char) :=
  match skipComment (skipBlanks cs) with
  | [] => some []
  | rest => afterBreak? rest

/-- Without blanks, comments and line breaks at the beginning; there are no more lines than `limit`.
A comment must end with its line. -/
def skipLines? : (limit : Nat) → List Char → Option (List Char)
  | 0, cs => some cs
  | limit + 1, cs => match skipBlanks cs with
    | '#' :: rest => (afterBreak? (rest.dropWhile isPlain)).bind (skipLines? limit)
    | '\n' :: rest => skipLines? limit rest
    | '\r' :: rest => match rest with
      | '\n' :: rest => skipLines? limit rest
      | _ => none
    | rest => some rest

/-- Without blanks, comments and line breaks at the beginning. -/
def skipToItem? (cs : List Char) : Option (List Char) := skipLines? cs.length cs

/-! ## Values -/

/-- A reader of values. -/
abbrev ValueReader := List Char → Option (Setting × List Char)

/-- The items of an array from behind its bracket or a comma on, `limit` at most. A comma may stand
behind the last one. -/
def readItems? (read : ValueReader) : (limit : Nat) → List Char →
    Option (List Setting × List Char)
  | 0, _ => none
  | limit + 1, cs => (skipToItem? cs).bind fun cs => match cs with
    | ']' :: rest => some ([], rest)
    | _ => (read cs).bind fun (v, rest) => (skipToItem? rest).bind fun rest => match rest with
      | ',' :: rest => (readItems? read limit rest).map fun (vs, rest) => (v :: vs, rest)
      | ']' :: rest => some ([v], rest)
      | _ => none

/-- An entry: a key, the sign behind it, and a value. -/
def readBinding? (read : ValueReader) (cs : List Char) :
    Option (List String × Setting × List Char) :=
  (readKey? cs).bind fun (key, rest) => match rest with
    | '=' :: rest => (read (skipBlanks rest)).map fun (v, rest) => (key, v, rest)
    | _ => none

/-- The entries of an inline table from behind its brace or a comma on, `limit` at most, added to
those before. -/
def readBindings? (read : ValueReader) (es : Entries) : (limit : Nat) → List Char →
    Option (Entries × List Char)
  | 0, _ => none
  | limit + 1, cs => (readBinding? read cs).bind fun (key, v, rest) =>
    (Entries.assign? key v .defined es).bind fun es => match skipBlanks rest with
      | ',' :: rest => readBindings? read es limit rest
      | '\x7d' :: rest => some (es, rest)
      | _ => none

/-- An inline table, from behind its brace on. -/
def readInlineTable? (read : ValueReader) (cs : List Char) : Option (Setting × List Char) :=
  match skipBlanks cs with
  | '\x7d' :: rest => some (.table [], rest)
  | rest => (readBindings? read [] rest.length rest).map fun (es, rest) =>
    (.table (entrySettings es), rest)

/-- A number, a date or a time. -/
def readQuantity? (cs : List Char) : Option (Setting × List Char) :=
  if beginsMoment 4 '-' cs then
    (readDateTime? cs).map fun (t, rest) => (.text (String.ofList t), rest)
  else if beginsMoment 2 ':' cs then
    (readTime? cs).map fun (t, rest) => (.text (String.ofList t), rest)
  else readNumber? cs

/-- A value that has no values in it. -/
def readScalar? (cs : List Char) : Option (Setting × List Char) :=
  match cs with
  | '"' :: _ | '\'' :: _ => (readString? cs).map fun (s, rest) => (.text s, rest)
  | 't' :: 'r' :: 'u' :: 'e' :: rest => some (.bool true, rest)
  | 'f' :: 'a' :: 'l' :: 's' :: 'e' :: rest => some (.bool false, rest)
  | _ => readQuantity? cs

/-- A value in which values are nested no deeper than `depth`. -/
def readValue? : (depth : Nat) → ValueReader
  | 0, cs => match cs with
    | '[' :: _ | '\x7b' :: _ => none
    | _ => readScalar? cs
  | depth + 1, cs => match cs with
    | '[' :: rest =>
      (readItems? (readValue? depth) rest.length rest).map fun (vs, rest) => (.list vs, rest)
    | '\x7b' :: rest => readInlineTable? (readValue? depth) rest
    | _ => readScalar? cs

/-! ## Statements -/

/-- What a line of a document says. -/
inductive Statement where
  | header (path : List String)
  | arrayHeader (path : List String)
  | entry (key : List String) (v : Setting)

/-- A key between brackets. -/
def readHeader? (closing : List Char) (cs : List Char) : Option (List String × List Char) :=
  (readKey? cs).bind fun (path, rest) =>
    (Text.after? closing rest).map fun rest => (path, rest)

/-- A statement, and what follows it. -/
def readStatement? (cs : List Char) : Option (Statement × List Char) :=
  match cs with
  | '[' :: '[' :: rest =>
    (readHeader? [']', ']'] rest).map fun (path, rest) => (.arrayHeader path, rest)
  | '[' :: rest => (readHeader? [']'] rest).map fun (path, rest) => (.header path, rest)
  | _ => (readBinding? (readValue? depthLimit) cs).map fun (key, v, rest) => (.entry key v, rest)

/-- The statements of a document, `limit` at most. -/
def readStatements? : (limit : Nat) → List Char → Option (List Statement)
  | 0, cs => if cs.isEmpty then some [] else none
  | limit + 1, cs => match skipBlanks cs with
    | [] => some []
    | '\n' :: rest => readStatements? limit rest
    | '\r' :: rest => match rest with
      | '\n' :: rest => readStatements? limit rest
      | _ => none
    | '#' :: rest => (afterLine? ('#' :: rest)).bind (readStatements? limit)
    | cs => (readStatement? cs).bind fun (s, rest) =>
      (afterLine? rest).bind fun rest => (readStatements? limit rest).map (s :: ·)

/-! ## Documents -/

/-- A document as far as it is built: its entries, and the path of the latest header. -/
structure Draft where
  entries : Entries
  header : List String

/-- Changes the table that a header names. -/
def Draft.atHeader? (d : Draft) (path : List String) (f : String → Entries → Option Entries) :
    Option Draft :=
  match path.getLast? with
  | none => none
  | some key => (Entries.changeAt false (fun _ es => f key es) path.dropLast .defined d.entries).map
      fun es => ⟨es, path⟩

/-- The document with one more statement. -/
def Draft.add? (d : Draft) : Statement → Option Draft
  | .header path => d.atHeader? path Entries.define?
  | .arrayHeader path => d.atHeader? path Entries.extend?
  | .entry key v =>
    (Entries.changeAt false (Entries.assign? key v) d.header .defined d.entries).map fun es =>
      { d with entries := es }

/-- Without a byte order mark at the beginning. -/
def skipMark : List Char → List Char
  | '\uFEFF' :: cs => cs
  | cs => cs

/-- The entries of a document. -/
def readDocument? (cs : List Char) : Option (List (String × Setting)) :=
  let cs := skipMark cs
  (readStatements? cs.length cs).bind fun statements =>
    (statements.foldlM Draft.add? ⟨[], []⟩).map fun d => entrySettings d.entries

end FederatedPresence.Toml
