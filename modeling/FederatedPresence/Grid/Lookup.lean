import FederatedPresence.Grid.Basic
import FederatedPresence.User.Key

/-!
# Looking users up

A user is looked up under the canonical key: first in the cache, then in the store. Of several
records the most recently active one counts. What the store said is remembered, also that it has no
record; a failure is not.
-/

namespace FederatedPresence.Grid

variable {σ : Type} [RecordStore σ]

/-- The record that counts among a user's rows. -/
def authoritative (rows : List Record) : Option Presence :=
  Presence.selectAuthoritative (rows.map Presence.ofRecord)

/-- Looks a canonical key up in the store, and remembers what it said. -/
def consultStore (g : Grid σ) (key : String) : Except Failure (Option Presence) × Grid σ :=
  match g.load key with
  | (.error e, g) => (.error e, g)
  | (.ok rows, g) => (.ok (authoritative rows), g.remember key (.ofLookup (authoritative rows)))

/-- Looks a user up. Nobody has the empty key. -/
def lookup (g : Grid σ) (userId : String) : Except Failure (Option Presence) × Grid σ :=
  let key := canonicalKey userId
  if key = "" then (.ok none, g)
  else match g.consultCache key with
    | (some remembered, g) => (.ok remembered.presence?, g)
    | (none, g) => g.consultStore key

/-- The record of a user. A user who could not be looked up has none. -/
def resolve (g : Grid σ) (userId : String) : Option Presence × Grid σ :=
  match g.lookup userId with
  | (.ok found, g) => (found, g)
  | (.error _, g) => (none, g)

/-- The records of several users, one after the other. -/
def resolveAll (g : Grid σ) : List String → List (Option Presence) × Grid σ
  | [] => ([], g)
  | id :: ids =>
    let (found, g) := g.resolve id
    let (rest, g) := resolveAll g ids
    (found :: rest, g)

/-- All records whose user keys begin with a text, as they are stored. -/
def listRecords (g : Grid σ) (start : String) : Except Failure (List Record) × Grid σ := g.load start

/-- How many days a login counts as recent. -/
def recentDays : Nat := 5

/-- The user is online since less than the days that count as recent. -/
def isRecentlyOnline (now : Timestamp) (p : Presence) : Bool :=
  p.online && now.seconds - recentDays * 86400 < p.login.seconds

/-- How many records say that their user came online recently. -/
def countRecentlyOnline (g : Grid σ) : Except Failure Nat × Grid σ :=
  let (rows, g) := g.load ""
  (rows.map fun rows => (rows.map Presence.ofRecord).countP (isRecentlyOnline g.now), g)

end FederatedPresence.Grid
