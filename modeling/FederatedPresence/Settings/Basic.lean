import FederatedPresence.Failure

/-!
# Settings

What an operator can set: where the service listens, where it keeps its records, how long the cache
keeps them, whether and how other grids are asked for names, and how the log is written.

`Settings.validate` refuses settings that the service could not run with.
-/

namespace FederatedPresence

/-- Where the service listens. -/
structure ServerSettings where
  host : String
  port : Nat
  deriving DecidableEq

/-- Where the records are kept. -/
structure DatabaseSettings where
  path : String
  deriving DecidableEq

/-- How the cache keeps records, in seconds and entries. -/
structure CacheSettings where
  ttl : Nat
  negativeTtl : Nat
  maxEntries : Nat
  pruneInterval : Nat
  deriving DecidableEq

/-- Whether and how other grids are asked for names. -/
structure NameSettings where
  fetch : Bool
  /-- How many hours a name stays fresh. -/
  expirationHours : Int
  /-- How many seconds another grid may take to answer. -/
  requestTimeout : Nat
  deriving DecidableEq

/-- How the log is written. -/
structure LogSettings where
  level : String
  format : String
  deriving DecidableEq

/-- The settings of the service. -/
structure Settings where
  server : ServerSettings
  database : DatabaseSettings
  cache : CacheSettings
  displayNames : NameSettings
  logging : LogSettings
  deriving DecidableEq

namespace Settings

/-- The most hours that a time span can have, counted in milliseconds in a signed 64-bit word. -/
def mostHours : Int := 9223372036854775807 / 3600 / 1000

/-- Why the service cannot run with some settings. -/
inductive Invalid where
  | capacity
  | ttl
  | timeout
  | expiration
  deriving DecidableEq

def Invalid.message : Invalid → String
  | capacity => "cache.max_entries must be greater than 0"
  | ttl => "cache.ttl_seconds and cache.negative_ttl_seconds must be greater than 0"
  | timeout => "display_names.request_timeout_seconds must be greater than 0"
  | expiration => "display_names.cache_expiration_hours must be between 1 and " ++ mostHours.repr

/-- What is wrong with some settings, if anything; of several things, the first. -/
def invalid? (s : Settings) : Option Invalid :=
  if s.cache.maxEntries = 0 then some .capacity
  else if s.cache.ttl = 0 ∨ s.cache.negativeTtl = 0 then some .ttl
  else if s.displayNames.requestTimeout = 0 then some .timeout
  else if s.displayNames.expirationHours ≤ 0 ∨ mostHours < s.displayNames.expirationHours then
    some .expiration
  else none

/-- The settings, if the service can run with them. -/
def validate (s : Settings) : Except Failure Settings :=
  match s.invalid? with
  | some why => .error (.configuration why.message)
  | none => .ok s

/-- How many seconds a name stays fresh. -/
def expirationSeconds (s : Settings) : Int := s.displayNames.expirationHours * 3600

end Settings

end FederatedPresence
