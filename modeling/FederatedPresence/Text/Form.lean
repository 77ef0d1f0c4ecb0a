import FederatedPresence.Text.Percent
import FederatedPresence.Text.Split

/-!
# Form bodies and query strings

Pairs of a name and a value, with `=` inside a pair and `&` between pairs. A plus sign is a space,
other characters may be percent-encoded, and bytes that are no text are replaced. Empty pairs do not
count; a pair without `=` has an empty value.
-/

namespace FederatedPresence.Form

open Text

/-- The text that an encoded name or value stands for. -/
def decodePart (cs : List Char) : List Char :=
  Utf8.decodeLossy (Percent.decode (cs.map fun c => if c = '+' then ' ' else c))

/-- A pair, cut at its first `=`. -/
def readPair (cs : List Char) : List Char × List Char :=
  match cutAt (· = '=') cs with
  | some (name, value) => (decodePart name, decodePart value)
  | none => (decodePart cs, [])

/-- The pairs of a form. -/
def parse (cs : List Char) : List (List Char × List Char) :=
  ((pieces (· = '&') cs).filter (· ≠ [])).map readPair

end FederatedPresence.Form
