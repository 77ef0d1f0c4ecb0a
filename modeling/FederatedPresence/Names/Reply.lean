import FederatedPresence.Failure
import FederatedPresence.Names.Markup
import FederatedPresence.Names.Table
import FederatedPresence.Text.Decimal
import FederatedPresence.Text.TextMap

/-!
# Replies with display names

A reply is a markup document. The children of its root are fields: `success`, and for each user a
pair `uuid0` and `name0`, `uuid1` and `name1`, and so on without a gap. A reply that does not say
`true` in `success` names nobody.
-/

namespace FederatedPresence.Names

open Text

/-! ## Fields -/

/-- What is known in the middle of a document: the open elements, innermost first, and the fields
read so far. -/
structure Reading where
  opened : List (List Char)
  fields : TextMap

namespace Reading

/-- Nothing is read. -/
def start : Reading := ⟨[], .empty⟩

/-- The fields with `value` put behind the text of a field. -/
def append (fields : TextMap) (name value : List Char) : TextMap :=
  let key := String.ofList name
  fields.insert key (String.ofList (((fields.get? key).getD "").toList ++ value))

/-- Reads one token. Text counts only in a child of the root itself, not in that child's elements;
text that belongs to one field is put together. -/
def read (r : Reading) : Token → Except MarkupError Reading
  | .startTag name =>
    .ok ⟨name :: r.opened,
      if r.opened.length = 1 then append r.fields name [] else r.fields⟩
  | .emptyTag name =>
    .ok { r with fields := if r.opened.length = 1 then append r.fields name [] else r.fields }
  | .text raw => match r.opened with
    | [name, _] => match unescape raw with
      | .ok value => .ok { r with fields := append r.fields name value }
      | .error e => .error (.entity e)
    | _ => .ok r
  | .characterData value => match r.opened with
    | [name, _] => .ok { r with fields := append r.fields name value }
    | _ => .ok r
  | .endTag content => match r.opened with
    | [] => .error (.mismatch [] content)
    | name :: rest =>
      if endTagName content = name then .ok { r with opened := rest }
      else .error (.mismatch name (endTagName content))
  | .aside => .ok r

/-- Reads some tokens. -/
def readAll (r : Reading) : List Token → Except MarkupError Reading
  | [] => .ok r
  | t :: ts => match r.read t with
    | .ok r => readAll r ts
    | .error e => .error e

end Reading

/-- The fields of a document. Elements may be open at its end. -/
def readFields (cs : List Char) : Except MarkupError TextMap :=
  match Reading.start.readAll (tokens cs).1, (tokens cs).2 with
  | .error e, _ => .error e
  | .ok _, some e => .error e
  | .ok r, none => .ok r.fields

/-! ## Pairs -/

/-- The name of a numbered field. -/
def numbered (stem : String) (index : Nat) : String := String.ofList (stem.toList ++ digits index)

/-- The pairs from `index` up to the first index at which one half is missing, `limit` at most. -/
def pairsFrom (fields : TextMap) (index : Nat) : (limit : Nat) → List (String × String)
  | 0 => []
  | limit + 1 => match fields.get? (numbered "uuid" index), fields.get? (numbered "name" index) with
    | some id, some name => (id, name) :: pairsFrom fields (index + 1) limit
    | _, _ => []

/-- The pairs of a reply. A pair takes two fields, so there are no more pairs than fields. -/
def pairs (fields : TextMap) : List (String × String) := pairsFrom fields 0 fields.size

/-- Adds the name of a pair, if the other half is a UUID. -/
def addPair (names : NameTable) (pair : String × String) : NameTable :=
  match Uuid.ofChars? (strip isBlank pair.1.toList) with
  | some id => names.insert id pair.2
  | none => names

/-- The reply reports success. -/
def reportsSuccess (fields : TextMap) : Bool :=
  (fields.get? "success").map (fun s => strip isBlank s.toList) = some "true".toList

/-- The names that the fields of a reply give. -/
def namesOfFields (fields : TextMap) : NameTable :=
  if reportsSuccess fields then (pairs fields).foldl addPair .empty else .empty

/-- The failure that a document which cannot be read amounts to. -/
def malformedReply (e : MarkupError) : Failure :=
  .federation ("Malformed display-name reply: " ++ e.message)

/-- The names that a reply gives. -/
def parseReply (reply : String) : Except Failure NameTable :=
  match readFields reply.toList with
  | .ok fields => .ok (namesOfFields fields)
  | .error e => .error (malformedReply e)

/-! ## Writing -/

/-- A field. -/
def renderField (name value : List Char) : List Char :=
  '<' :: name ++ '>' :: escape value ++ '<' :: '/' :: name ++ ['>']

/-- The fields of some pairs, numbered from `index` on. -/
def renderPairs (index : Nat) : List (String × String) → List Char
  | [] => []
  | (id, name) :: rest =>
    renderField (numbered "uuid" index).toList id.toList ++
      (renderField (numbered "name" index).toList name.toList ++ renderPairs (index + 1) rest)

def replyHead : List Char :=
  "<?xml version=\"1.0\" encoding=\"utf-8\"?><ServerResponse>".toList

def replyTail : List Char := "<success>true</success></ServerResponse>".toList

/-- The reply that names the given users. -/
def renderReply (names : List (String × String)) : String :=
  String.ofList (replyHead ++ (renderPairs 0 names ++ replyTail))

end FederatedPresence.Names
