/-!
# Failures

What can go wrong, as a cause. `kind` is the short label of a cause, `message` its wording for
operators, and `publicMessage` what a remote client is told: details of the store and of the inside
of the service stay inside.
-/

namespace FederatedPresence

/-- Why an operation failed. -/
inductive Failure where
  | notFound
  /-- The request is not acceptable. -/
  | validation (text : String)
  /-- The store failed. -/
  | database (detail : String)
  /-- A stored record could not be encoded or decoded. -/
  | encoding (detail : String)
  /-- A request to another grid failed on its way. -/
  | httpClient (detail : String)
  /-- Another grid did not answer as it should. -/
  | federation (text : String)
  | configuration (text : String)
  | internal (detail : String)
  deriving DecidableEq, Inhabited

namespace Failure

/-- The label under which failures are counted. -/
def kind : Failure → String
  | notFound => "not_found"
  | validation _ => "validation"
  | database _ => "database"
  | encoding _ => "encoding"
  | httpClient _ => "http_client"
  | federation _ => "federation"
  | configuration _ => "config"
  | internal _ => "internal"

/-- The wording for operators. -/
def message : Failure → String
  | notFound => "Resource not found"
  | validation text => "Validation error: " ++ text
  | database detail => "Database error: " ++ detail
  | encoding detail => "Record encoding error: " ++ detail
  | httpClient detail => "HTTP client error: " ++ detail
  | federation text => "Federation error: " ++ text
  | configuration text => "Configuration error: " ++ text
  | internal detail => "Internal error: " ++ detail

/-- The wording for clients. -/
def publicMessage : Failure → String
  | notFound => "Resource not found"
  | validation text => text
  | database _ => "Database error"
  | encoding _ => "Record encoding error"
  | httpClient detail => "HTTP client error: " ++ detail
  | federation text => text
  | configuration text => text
  | internal _ => "Internal server error"

/-- The status code that clients are given. -/
def status : Failure → Nat
  | notFound => 404
  | validation _ => 400
  | httpClient _ | federation _ => 502
  | database _ | encoding _ | configuration _ | internal _ => 500

end Failure

end FederatedPresence
