import FederatedPresence.Store.Basic
import FederatedPresence.Store.Like
import FederatedPresence.Text.Json
import FederatedPresence.Text.Json.Reader

/-!
# A table of encoded records

A `TableStore` keeps each record's fields as the text of a JSON object, one row for each user key. A
text that is no such object counts as a record without fields. Rows are selected with a pattern, so
the case of ASCII letters does not count, and a user key is read up to its first NUL.
-/

namespace FederatedPresence

open Text

/-- A row: a user key, and a record's fields as text. -/
structure TableRow where
  userId : String
  data : String
  deriving DecidableEq

namespace TableRow

/-- The row that stores a record. -/
def ofRecord (r : Record) : TableRow := ⟨r.userId, String.ofList (Json.ofMap r.fields)⟩

/-- The record that a row stores. -/
def toRecord (r : TableRow) : Record := ⟨r.userId, (Json.map? r.data).getD .empty⟩

end TableRow

/-- Puts a row in the place of the one of its user key, or at the end. -/
def placeRow (r : TableRow) : List TableRow → List TableRow
  | [] => [r]
  | e :: es => if e.userId = r.userId then r :: es else e :: placeRow r es

/-- A store of records as rows of text. -/
structure TableStore where
  rows : List TableRow
  deriving DecidableEq

namespace TableStore

/-- The store without rows. -/
def empty : TableStore := ⟨[]⟩

/-- Adds a row as it is. -/
def append (s : TableStore) (r : TableRow) : TableStore := ⟨s.rows ++ [r]⟩

/-- What is said of a pattern that is too long. -/
def longPattern : Failure :=
  .database "error returned from database: (code: 1) LIKE or GLOB pattern too complex"

/-- The rows whose user keys match a pattern. A pattern is first looked at when there is a row. -/
def select (s : TableStore) (pattern : List Char) : Except Failure (List TableRow) :=
  if s.rows.isEmpty then .ok []
  else if Like.longestPattern < byteLength pattern then .error longPattern
  else .ok (s.rows.filter fun r => Like.isLike pattern r.userId.toList)

/-- The rows whose user keys begin with a text. -/
def startingWith (s : TableStore) (start : String) : Except Failure (List TableRow) :=
  if start = "" then .ok s.rows else s.select (Like.startPattern start.toList)

/-- The record of a user key. -/
def find? (s : TableStore) (userId : String) : Option Record :=
  (s.rows.find? fun r => r.userId = userId).map TableRow.toRecord

/-- Puts a record in its place. -/
def place (s : TableStore) (r : Record) : TableStore := ⟨placeRow (.ofRecord r) s.rows⟩

instance : RecordStore TableStore where
  get s userId := .ok (s.find? userId)
  getAll s start := (s.startingWith start).map (·.map TableRow.toRecord)
  store s r := .ok (true, s.place r)

end TableStore

end FederatedPresence
