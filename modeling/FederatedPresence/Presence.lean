import FederatedPresence.Record
import FederatedPresence.Timestamp
import FederatedPresence.Uuid
import FederatedPresence.Vector3

/-!
# Presence

A presence record says where a user lives, where the user was last, whether the user is online and
since when, and what the user is called. It is decoded from a stored record field by field: a field
that is missing, blank or malformed has its default and leaves the others alone. Fields of other
names are carried along and written back.
-/

namespace FederatedPresence

open Text

/-- A user's current or latest session. -/
structure Presence where
  /-- The user key that the record is stored under. -/
  userId : String
  homeRegion : Uuid
  homePosition : Vector3
  homeLookAt : Vector3
  lastRegion : Uuid
  lastPosition : Vector3
  lastLookAt : Vector3
  online : Bool
  login : Timestamp
  logout : Timestamp
  /-- Empty until a name is known. -/
  displayName : String
  /-- When the name was last asked for; the first second of the calendar stands for never. -/
  nameCached : Timestamp
  /-- The stored fields of other names. -/
  extra : TextMap
  deriving DecidableEq

namespace Presence

/-! ## Field names -/

def homeRegionField : String := "HomeRegionID"
def homePositionField : String := "HomePosition"
def homeLookAtField : String := "HomeLookAt"
def lastRegionField : String := "LastRegionID"
def lastPositionField : String := "LastPosition"
def lastLookAtField : String := "LastLookAt"
def onlineField : String := "Online"
def loginField : String := "Login"
def logoutField : String := "Logout"
def displayNameField : String := "DisplayName"
def nameCachedField : String := "NameCached"

/-- The fields that presence is made of. -/
def fieldNames : List String :=
  [homeRegionField, homePositionField, homeLookAtField, lastRegionField, lastPositionField,
    lastLookAtField, onlineField, loginField, logoutField, displayNameField, nameCachedField]

/-- A field of another name. -/
def isExtra (name : String) : Bool := !fieldNames.contains name

/-! ## Records and their order -/

/-- A record that has only its user key, and defaults for the rest. -/
def new (userId : String) : Presence where
  userId := userId
  homeRegion := .nil
  homePosition := .zero
  homeLookAt := .zero
  lastRegion := .nil
  lastPosition := .zero
  lastLookAt := .zero
  online := false
  login := .epoch
  logout := .epoch
  displayName := ""
  nameCached := .first
  extra := .empty

instance : Inhabited Presence := ⟨new ""⟩

/-- The time of the latest login or logout. -/
def lastActivity (p : Presence) : Timestamp := p.login.max p.logout

/-- The name was never asked for. -/
def neverNamed (p : Presence) : Bool := p.nameCached = .first

/-- Equality with numeric equality of vectors, under which NaN differs from itself. -/
def numEq (p q : Presence) : Bool :=
  p.homePosition.numEq q.homePosition && p.homeLookAt.numEq q.homeLookAt &&
    p.lastPosition.numEq q.lastPosition && p.lastLookAt.numEq q.lastLookAt &&
    { p with
      homePosition := q.homePosition
      homeLookAt := q.homeLookAt
      lastPosition := q.lastPosition
      lastLookAt := q.lastLookAt } = q

/-! ## Decoding -/

/-- `true` or `false`, in any case. -/
def readBool? (cs : List Char) : Option Bool :=
  if cs.map Char.toLower = "true".toList then some true
  else if cs.map Char.toLower = "false".toList then some false
  else none

/-- What a stored text says, blanks around it aside; the default when it is missing or malformed. -/
def readField {α : Type} (read? : List Char → Option α) (default : α) : Option String → α
  | none => default
  | some raw => (read? (strip isBlank raw.toList)).getD default

/-- The presence that a stored record gives. -/
def ofRecord (r : Record) : Presence where
  userId := r.userId
  homeRegion := readField Uuid.ofChars? .nil (r.get? homeRegionField)
  homePosition := readField Vector3.ofChars? .zero (r.get? homePositionField)
  homeLookAt := readField Vector3.ofChars? .zero (r.get? homeLookAtField)
  lastRegion := readField Uuid.ofChars? .nil (r.get? lastRegionField)
  lastPosition := readField Vector3.ofChars? .zero (r.get? lastPositionField)
  lastLookAt := readField Vector3.ofChars? .zero (r.get? lastLookAtField)
  online := readField readBool? false (r.get? onlineField)
  login := readField Timestamp.ofChars? .epoch (r.get? loginField)
  logout := readField Timestamp.ofChars? .epoch (r.get? logoutField)
  displayName := (r.get? displayNameField).getD ""
  nameCached := readField Timestamp.ofChars? .first (r.get? nameCachedField)
  extra := r.fields.filterKeys isExtra

/-! ## Encoding -/

def boolText (b : Bool) : String := if b then "True" else "False"

/-- The fields of a presence record, without the name's time. -/
def coreFields (p : Presence) : List (String × String) :=
  [(homeRegionField, p.homeRegion.text), (homePositionField, p.homePosition.text),
    (homeLookAtField, p.homeLookAt.text), (lastRegionField, p.lastRegion.text),
    (lastPositionField, p.lastPosition.text), (lastLookAtField, p.lastLookAt.text),
    (onlineField, boolText p.online), (loginField, String.ofList p.login.chars),
    (logoutField, String.ofList p.logout.chars), (displayNameField, p.displayName)]

/-- All fields of a presence record. The time of the name is left out when there is none. -/
def writtenFields (p : Presence) : List (String × String) :=
  if p.neverNamed then p.coreFields
  else p.coreFields ++ [(nameCachedField, String.ofList p.nameCached.chars)]

/-- The record that stores a presence. -/
def toRecord (p : Presence) : Record :=
  ⟨p.userId, p.writtenFields.foldl (fun m f => m.insert f.1 f.2) p.extra⟩

@[simp] theorem userId_ofRecord (r : Record) : (ofRecord r).userId = r.userId := rfl

@[simp] theorem userId_toRecord (p : Presence) : p.toRecord.userId = p.userId := rfl

end Presence

end FederatedPresence
