import FederatedPresence.User.Authority
import FederatedPresence.User.Key
import FederatedPresence.Uuid

/-!
# Federated identifiers

A visitor's user key is a UUID, `@` or `;`, the home authority, and then, behind `;`, the visitor's
name: first and last name as two segments, or both in one segment with a space or a dot between
them.
-/

namespace FederatedPresence

open Text

/-- What a visitor's user key says. -/
structure Identifier where
  uuid : Uuid
  /-- The home authority. -/
  home : String
  firstName : String
  lastName : String
  deriving DecidableEq

namespace Identifier

/-- A full name, cut at its first space or dot. -/
def splitName (cs : List Char) : String × String :=
  let full := strip isBlank cs
  match cutAt (fun c => c = ' ' || c = '.') full with
  | some (first, last) => (String.ofList first, String.ofList last)
  | none => (String.ofList full, "")

/-- The names that the segments behind the authority give. -/
def names : List (List Char) → String × String
  | [] => ("", "")
  | [full] => splitName full
  | first :: last :: _ =>
    (String.ofList (strip isBlank first), String.ofList (strip isBlank last))

/-- The text behind the sign between UUID and authority. -/
def afterSign? : List Char → Option (List Char)
  | '@' :: cs | ';' :: cs => some cs
  | _ => none

/-- What a user key says, when it is a visitor's. -/
def parse? (userId : String) : Option Identifier :=
  match splitAtByte uuidLength userId.toList with
  | none => none
  | some (head, tail) =>
    match Uuid.ofChars? head, afterSign? tail with
    | some uuid, some rest =>
      match pieces (· = ';') rest with
      | [] => none
      | authority :: segments =>
        match normalizeAuthority? (String.ofList authority) with
        | none => none
        | some home => some ⟨uuid, home, (names segments).1, (names segments).2⟩
    | _, _ => none

end Identifier

end FederatedPresence
