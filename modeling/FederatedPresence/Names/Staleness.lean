import FederatedPresence.Presence
import FederatedPresence.User.Key

/-!
# Stale names

A visitor's name is asked for again when it is older than a number of hours. A local user's name is
never stale: this grid is the one that knows it.
-/

namespace FederatedPresence

/-- The most milliseconds that a time span has, in either direction. -/
def mostSpan : Int := 9223372036854775807

/-- A number of seconds is a time span. -/
def isTimeSpan (seconds : Int) : Prop :=
  -mostSpan ≤ seconds * 1000 ∧ seconds * 1000 ≤ mostSpan

instance (seconds : Int) : Decidable (isTimeSpan seconds) :=
  inferInstanceAs (Decidable (_ ∧ _))

/-- How many hours a name stays fresh. The hours are a time span. -/
structure NameLifetime where
  hours : Int
  inRange : isTimeSpan (hours * 3600)
  deriving DecidableEq

namespace NameLifetime

/-- The lifetime of a number of hours, when they are a time span. -/
def ofHours? (n : Int) : Option NameLifetime :=
  if h : isTimeSpan (n * 3600) then some ⟨n, h⟩ else none

/-- What is said of a number of hours out of range. -/
def outOfRange : String := "TimeDelta::hours out of bounds"

/-- The time since when names asked for are fresh at `now`, if the calendar has it. -/
def cutoff? (l : NameLifetime) (now : Timestamp) : Option Timestamp :=
  Timestamp.ofSeconds? (now.seconds - l.hours * 3600)

/-- The name of a record is to be asked for again. -/
def isStale (l : NameLifetime) (p : Presence) (now : Timestamp) : Bool :=
  isFederated p.userId &&
    match l.cutoff? now with
    | some cutoff => p.nameCached.seconds < cutoff.seconds
    | none => false

end NameLifetime

end FederatedPresence
