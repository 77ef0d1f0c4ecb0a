import FederatedPresence.Presence

/-!
# Choosing among a user's records

Of several records for one user the most recently active one counts; of equally active ones, the
first.
-/

namespace FederatedPresence.Presence

/-- The better of the choice so far and a later record. -/
def better (best : Option Presence) (candidate : Presence) : Option Presence :=
  match best with
  | some b =>
    if candidate.lastActivity.seconds ≤ b.lastActivity.seconds then some b else some candidate
  | none => some candidate

/-- The most recently active record. -/
def selectAuthoritative (candidates : List Presence) : Option Presence :=
  candidates.foldl better none

@[simp] theorem selectAuthoritative_nil : selectAuthoritative [] = none := rfl

@[simp] theorem selectAuthoritative_singleton (p : Presence) :
    selectAuthoritative [p] = some p := rfl

end FederatedPresence.Presence
