import FederatedPresence.Text.Percent
import FederatedPresence.Url.Address
import FederatedPresence.Url.Domain

/-!
# URLs

A URL is kept as its components, each already in the form in which it is written. `Url.text` joins
them.
-/

namespace FederatedPresence

open Text

namespace Url

/-! ## Hosts -/

/-- Where a URL points to. -/
inductive Host where
  /-- A name, in ASCII. -/
  | domain (name : List Char)
  | ipv4 (address : Nat)
  | ipv6 (pieces : List Nat)
  deriving DecidableEq

def Host.chars : Host → List Char
  | .domain name => name
  | .ipv4 address => showIpv4 address
  | .ipv6 pieces => showIpv6 pieces

/-! ## Schemes -/

/-- The schemes with rules of their own, and their default ports. -/
def specialPort? (scheme : List Char) : Option (Option Nat) :=
  if scheme = "http".toList ∨ scheme = "ws".toList then some (some 80)
  else if scheme = "https".toList ∨ scheme = "wss".toList then some (some 443)
  else if scheme = "ftp".toList then some (some 21)
  else if scheme = "file".toList then some none
  else none

/-- The scheme has rules of its own. -/
def isSpecial (scheme : List Char) : Bool := (specialPort? scheme).isSome

/-- The port that is left out when it is given. -/
def defaultPort? (scheme : List Char) : Option Nat := (specialPort? scheme).bind id

/-! ## Characters that are percent-encoded -/

def isControl (c : Char) : Bool := c.toNat < 0x20 || c.toNat == 0x7F

def inFragment (c : Char) : Bool :=
  isControl c || c == ' ' || c == '"' || c == '<' || c == '>' || c == '\u0060'

def inQuery (c : Char) : Bool :=
  isControl c || c == ' ' || c == '"' || c == '#' || c == '<' || c == '>'

def inSpecialQuery (c : Char) : Bool := inQuery c || c == '\''

def inPath (c : Char) : Bool :=
  inFragment c || c == '#' || c == '?' || c == '\x7b' || c == '\x7d'

def inUserinfo (c : Char) : Bool :=
  inPath c || c == '/' || c == ':' || c == ';' || c == '=' || c == '@' || c == '[' || c == '\\' ||
    c == ']' || c == '^' || c == '|'

end Url

/-- The components of a URL. -/
structure Url where
  scheme : List Char
  username : List Char
  password : List Char
  /-- A URL without host, or with an empty one, has none. -/
  host : Option Url.Host
  /-- Two slashes stand in front of host and path. -/
  hasAuthority : Bool
  port : Option Nat
  path : List Char
  query : Option (List Char)
  fragment : Option (List Char)
  deriving DecidableEq

namespace Url

/-- User name and password with the sign behind them. -/
def credentials (u : Url) : List Char :=
  if u.username = [] ∧ u.password = [] then []
  else u.username ++ (if u.password = [] then [] else ':' :: u.password) ++ ['@']

/-- The port behind its colon. -/
def portChars (u : Url) : List Char :=
  match u.port with
  | some p => ':' :: digits p
  | none => []

/-- What stands between scheme and path. -/
def authorityChars (u : Url) : List Char :=
  if u.hasAuthority then
    '/' :: '/' :: u.credentials ++ (u.host.map Host.chars).getD [] ++ u.portChars
  else []

/-- The query behind its sign. -/
def queryChars (u : Url) : List Char :=
  match u.query with
  | some q => '?' :: q
  | none => []

/-- The fragment behind its sign. -/
def fragmentChars (u : Url) : List Char :=
  match u.fragment with
  | some f => '#' :: f
  | none => []

/-- The URL as text. -/
def chars (u : Url) : List Char :=
  u.scheme ++ ':' :: u.authorityChars ++ u.path ++ u.queryChars ++ u.fragmentChars

/-- The URL as text. -/
def text (u : Url) : String := String.ofList u.chars

end Url

end FederatedPresence
