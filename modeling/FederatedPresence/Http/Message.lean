import FederatedPresence.Text.Split
import FederatedPresence.Text.Utf8

/-!
# Requests and responses

A request names its target by a path with an optional query. The path may stand behind scheme and
host, and a fragment does not count.
-/

namespace FederatedPresence.Http

open Text

/-- A request. -/
structure Request where
  method : String
  target : String
  body : List UInt8
  deriving DecidableEq

/-- A response. -/
structure Response where
  status : Nat
  contentType : Option String
  body : String
  /-- The methods that would have been allowed. -/
  allow : Option String
  deriving DecidableEq

namespace Response

/-- A response without body. -/
def empty (status : Nat) : Response := ⟨status, none, "", none⟩

/-- A response with a body of some type. -/
def typed (status : Nat) (contentType body : String) : Response :=
  ⟨status, some contentType, body, none⟩

/-- Plain text. -/
def plain (status : Nat) (body : String) : Response := typed status "text/plain; charset=utf-8" body

/-- A JSON text. -/
def json (status : Nat) (body : List Char) : Response :=
  typed status "application/json" (String.ofList body)

/-- The response without its body. -/
def withoutBody (r : Response) : Response := { r with body := "" }

end Response

/-! ## Targets -/

/-- What stands behind scheme and host. -/
def afterHost (cs : List Char) : List Char :=
  match cs with
  | '/' :: _ => cs
  | _ => cs.dropWhile fun c => c ≠ '/' ∧ c ≠ '?' ∧ c ≠ '#'

/-- What stands behind a scheme, if there is one. -/
def afterScheme (cs : List Char) : List Char :=
  match cs.dropWhile fun c => c ≠ ':' ∧ c ≠ '/' ∧ c ≠ '?' ∧ c ≠ '#' with
  | ':' :: '/' :: '/' :: rest => rest
  | _ => cs

/-- Path and query of a target, the fragment being left out. -/
def pathAndQuery (target : String) : List Char :=
  let cs := target.toList
  let rest := match cs with
    | '/' :: _ => cs
    | _ => afterHost (afterScheme cs)
  rest.takeWhile (· ≠ '#')

/-- The path of a target. -/
def path (target : String) : List Char :=
  match (pathAndQuery target).takeWhile (· ≠ '?') with
  | [] => ['/']
  | p => p

/-- The query of a target. -/
def query (target : String) : List Char :=
  ((pathAndQuery target).dropWhile (· ≠ '?')).drop 1

end FederatedPresence.Http
