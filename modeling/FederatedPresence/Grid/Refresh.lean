import FederatedPresence.Grid.Change
import FederatedPresence.Names.Table
import FederatedPresence.User.Identifier

/-!
# Refreshing names

The visitors among some entries whose names are stale are asked for at their homes. Each home gets
one request, with all of its users; the requests run at the same time, each under the same deadline.
A home that fails or does not answer in time contributes no names, and the others are not held up
beyond the deadline.

An answer names users by UUID. Its names are filed under the user keys that the home was asked about.
Whether or not a name came, each of these visitors counts as asked for just now, and is stored so.
-/

namespace FederatedPresence

/-! ## Other grids -/

/-- How a request to another grid ends. -/
inductive NameOutcome where
  | names (table : NameTable)
  | failure (e : Failure)
  /-- The request itself breaks down. -/
  | crash
  deriving DecidableEq

/-- What another grid does with a request: after `delay` milliseconds the outcome is there. -/
structure NameAnswer where
  delay : Nat
  outcome : NameOutcome
  deriving DecidableEq

/-- The other grids: what each request leads to. -/
abbrev Network := NameRequest → NameAnswer

/-- What is known of a request when its time is over. -/
inductive Verdict where
  | answered (table : NameTable)
  | failed
  | timedOut
  | crashed
  deriving DecidableEq

/-- The verdict on an answer. An answer at the deadline itself is in time. -/
def NameAnswer.verdict (timeout : Nat) (a : NameAnswer) : Verdict :=
  if timeout < a.delay then .timedOut
  else match a.outcome with
    | .names table => .answered table
    | .failure _ => .failed
    | .crash => .crashed

/-- How long an answer is waited for. -/
def NameAnswer.wait (timeout : Nat) (a : NameAnswer) : Nat := min a.delay timeout

namespace Verdict

/-- The label under which a verdict is counted. A request that broke down is not. -/
def status? : Verdict → Option String
  | answered _ => some "success"
  | failed => some "error"
  | timedOut => some "timeout"
  | crashed => none

/-- There was an answer. -/
def isAnswered : Verdict → Bool
  | answered _ => true
  | _ => false

end Verdict

/-! ## Visitors by home -/

/-- The user keys that one home is asked about, by the UUID that they carry. -/
abbrev HomeBatch := List (Uuid × List String)

/-- Files the user key of a visitor under the visitor's home and UUID. -/
def fileVisitor (batches : List (String × HomeBatch)) (v : Identifier × String) :
    List (String × HomeBatch) :=
  Keyed.update v.1.home [] (Keyed.update v.1.uuid [] (· ++ [v.2])) batches

/-- The user keys of some visitors, by home. -/
def batchesFor (visitors : List (Identifier × String)) : List (String × HomeBatch) :=
  visitors.foldl fileVisitor []

/-- The request that a home's batch leads to. -/
def requestTo (b : String × HomeBatch) : NameRequest := ⟨b.1, b.2.map (·.1)⟩

namespace HomeBatch

/-- The names in a table, by user key. Users whom the home was not asked about are left out. -/
def namesIn (b : HomeBatch) (t : NameTable) : List (String × String) :=
  t.entries.flatMap fun e => ((Keyed.find? e.1 b).getD []).map fun key => (key, e.2)

/-- The names that a verdict brings, by user key. -/
def names (b : HomeBatch) : Verdict → List (String × String)
  | .answered t => b.namesIn t
  | _ => []

end HomeBatch

/-- The names that all homes gave, by user key. -/
def gatherNames (verdicts : List ((String × HomeBatch) × Verdict)) : TextMap :=
  .ofList (verdicts.flatMap fun v => v.1.2.names v.2)

/-! ## Refreshing -/

/-- The visitor in an entry whose name is to be asked for. -/
def staleVisitor? (lifetime : NameLifetime) (now : Timestamp) (p : Presence) : Option Identifier :=
  if lifetime.isStale p now then Identifier.parse? p.userId else none

/-- The visitors in some entries whose names are to be asked for, with their user keys. -/
def staleVisitors (lifetime : NameLifetime) (now : Timestamp) (entries : List Presence) :
    List (Identifier × String) :=
  entries.filterMap fun p => (staleVisitor? lifetime now p).map fun v => (v, p.userId)

/-- An entry after its visitor was asked for at a time. -/
def renamed (now : Timestamp) (name : Option String) (p : Presence) : Presence :=
  { p with displayName := name.getD p.displayName, nameCached := now }

/-- The renamed entry, if its visitor was asked for. -/
def renamed? (lifetime : NameLifetime) (now : Timestamp) (names : TextMap) (p : Presence) :
    Option Presence :=
  (staleVisitor? lifetime now p).map fun _ => renamed now (names.get? p.userId) p

/-- How a refresh went. -/
def refreshOutcome (verdicts : List Verdict) : String :=
  if verdicts.all Verdict.isAnswered then "complete" else "partial"

/-- Counts a verdict. -/
def Metrics.observeVerdict (m : Metrics) (v : Verdict) : Metrics :=
  match v.status? with
  | some status => m.observeNameRequest status
  | none => m

namespace Grid

variable {σ : Type}

/-- Asks homes about their batches, and waits until each has answered or is over its time. -/
def askAll (g : Grid σ) (net : Network) (batches : List (String × HomeBatch)) :
    List ((String × HomeBatch) × Verdict) × Grid σ :=
  let verdicts := batches.map fun b => (b, (net (requestTo b)).verdict g.policy.timeout)
  let waits := batches.map fun b => (net (requestTo b)).wait g.policy.timeout
  (verdicts, { g.wait (waits.foldl max 0) with
    metrics := (verdicts.map (·.2)).foldl Metrics.observeVerdict g.metrics
    asked := g.asked ++ batches.map requestTo })

variable [RecordStore σ]

/-- Stores the name in an entry. -/
def storeName (g : Grid σ) (p : Presence) : Grid σ := (g.update p.userId (.rename p.displayName)).2

/-- Refreshes the stale names among some entries, where the homes are asked in the order of their
batches. Without batches nothing happens at all. -/
def refreshWith (g : Grid σ) (net : Network) (entries : List Presence) :
    List (String × HomeBatch) → List Presence × Grid σ
  | [] => (entries, g)
  | b :: bs =>
    let (verdicts, asked) := g.askAll net (b :: bs)
    let rename := renamed? g.policy.nameLifetime g.now (gatherNames verdicts)
    let stored := (entries.filterMap rename).foldl storeName asked
    (entries.map fun p => (rename p).getD p, { stored with
      metrics := stored.metrics.observeRefresh (refreshOutcome (verdicts.map (·.2)))
        (stored.clock - g.clock) })

/-- The batches that a refresh of some entries asks about, by home. -/
def batchesOf (g : Grid σ) (entries : List Presence) : List (String × HomeBatch) :=
  batchesFor (staleVisitors g.policy.nameLifetime g.now entries)

/-- Refreshes the stale names among some entries. -/
def refresh (g : Grid σ) (net : Network) (entries : List Presence) : List Presence × Grid σ :=
  g.refreshWith net entries (g.batchesOf entries)

/-! ## Batches -/

/-- The entry of a user in a refreshed batch; one without record has only a user key. -/
def entryOf (found : Option Presence) (userId : String) : Presence := found.getD (.new userId)

/-- The records of several users, one slot for each. With `refreshNames`, users without record have
an entry too, and stale names are refreshed if other grids are asked at all. -/
def presenceInfo (g : Grid σ) (net : Network) (ids : List String) (refreshNames : Bool) :
    List (Option Presence) × Grid σ :=
  let (found, g) := g.resolveAll ids
  if refreshNames then
    let entries := List.zipWith entryOf found ids
    if g.policy.fetchesNames then
      let (entries, g) := g.refresh net entries
      (entries.map some, g)
    else (entries.map some, g)
  else (found, g)

end Grid

end FederatedPresence
