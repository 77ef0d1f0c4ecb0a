import FederatedPresence.Grid.Lookup

/-!
# Changing records

A change is made to the record that a lookup gives, or to a new record when the user has none. The
changed record is stored; only then is it remembered. Nothing is written for the empty key, or when
the lookup fails.
-/

namespace FederatedPresence

/-- A place: a region, a position in it and a direction. -/
structure Place where
  region : Uuid
  position : Vector3
  lookAt : Vector3
  deriving DecidableEq

/-- What can happen to a user's record. -/
inductive Change where
  | login
  | logout (place : Place)
  | home (place : Place)
  | lastPlace (place : Place)
  | rename (name : String)
  deriving DecidableEq

namespace Change

/-- The record with a user's last place. -/
def atPlace (place : Place) (p : Presence) : Presence :=
  { p with lastRegion := place.region, lastPosition := place.position, lastLookAt := place.lookAt }

/-- The record after a change at a time. -/
def apply (now : Timestamp) (p : Presence) : Change → Presence
  | login => { p with online := true, login := now }
  | logout place => atPlace place { p with online := false, logout := now }
  | home place =>
    { p with homeRegion := place.region, homePosition := place.position, homeLookAt := place.lookAt }
  | lastPlace place => atPlace place p
  | rename name => { p with displayName := name, nameCached := now }

/-- No change touches the user key. -/
@[simp] theorem userId_apply (now : Timestamp) (p : Presence) (c : Change) :
    (c.apply now p).userId = p.userId := by
  cases c <;> rfl

/-- No change touches the fields of other names. -/
@[simp] theorem extra_apply (now : Timestamp) (p : Presence) (c : Change) :
    (c.apply now p).extra = p.extra := by
  cases c <;> rfl

end Change

namespace Grid

variable {σ : Type} [RecordStore σ]

/-- Stores a record under a canonical key, and remembers it when the store kept it. -/
def write (g : Grid σ) (key : String) (p : Presence) : Option Presence × Grid σ :=
  match g.save p.toRecord with
  | (true, g) => (some p, g.remember key (.found p))
  | (false, g) => (none, g)

/-- Changes the record of a user. Gives the changed record when the store kept it. -/
def update (g : Grid σ) (userId : String) (change : Change) : Option Presence × Grid σ :=
  let key := canonicalKey userId
  if key = "" then (none, g)
  else match g.lookup userId with
    | (.error _, g) => (none, g)
    | (.ok found, g) => g.write key (change.apply g.now (found.getD (.new userId)))

end Grid

end FederatedPresence
