import FederatedPresence.Text.Blank
import FederatedPresence.Text.Form
import FederatedPresence.Uuid

/-!
# Requests for display names

A grid asks another for names with a form: `AgentIDs[]` is repeated for each user. The grid that is
asked also takes the key without brackets.
-/

namespace FederatedPresence.Names

open Text

/-- Percent-encoded, the key `AgentIDs[]` and the sign behind it. -/
def encodedKey : List Char := "AgentIDs%5B%5D=".toList

/-- The pairs of a form, joined. -/
def joinPairs : List (List Char) → List Char
  | [] => []
  | [p] => p
  | p :: ps => p ++ '&' :: joinPairs ps

/-- The form that asks for the names of some users. -/
def requestChars (ids : List Uuid) : List Char :=
  joinPairs (ids.map fun id => encodedKey ++ id.chars)

/-- The form that asks for the names of some users. -/
def encodeRequest (ids : List Uuid) : String := String.ofList (requestChars ids)

/-- The keys that name a user. -/
def isIdKey (key : List Char) : Bool := key = "AgentIDs[]".toList || key = "AgentIDs".toList

/-- The users that a form asks for, in order, as they are written there. -/
def requestedChars (body : List Char) : List (List Char) :=
  (((Form.parse body).filter fun pair => isIdKey pair.1).map fun pair => strip isBlank pair.2).filter
    (· ≠ [])

/-- The users that a form asks for, in order, as they are written there. -/
def requestedIds (body : String) : List String := (requestedChars body.toList).map String.ofList

end FederatedPresence.Names
