import FederatedPresence.Settings.Basic
import FederatedPresence.Settings.Path
import FederatedPresence.Text.Utf8
import FederatedPresence.Toml.Document

/-!
# Loading settings

Settings come from defaults, two files and the environment; what comes later counts. A file that is
missing, or that is no text, says nothing. A variable of the environment sets the value at the path
that its name spells, behind `GRIDPRESENCE__` and with `__` between the parts; its text is read as a
truth value or a number if it is one.
-/

namespace FederatedPresence

open Text

namespace Settings

/-! ## Sources -/

/-- A source of settings: values by the names of their places. -/
abbrev Source := List (String × Setting)

/-- The settings when nothing else is said. -/
def defaults : Source :=
  [("server.host", .text "127.0.0.1"), ("server.port", .int 8003),
    ("database.path", .text "data/gridpresence.db"), ("cache.ttl_seconds", .int 300),
    ("cache.negative_ttl_seconds", .int 300), ("cache.max_entries", .int 10000),
    ("cache.prune_interval_seconds", .int 60), ("display_names.fetch", .bool false),
    ("display_names.cache_expiration_hours", .int 12),
    ("display_names.request_timeout_seconds", .int 5), ("logging.level", .text "info"),
    ("logging.format", .text "pretty")]

/-- What a file says, if it is well-formed. -/
def readFile? : Option (List UInt8) → Option Source
  | none => some []
  | some bytes => match Utf8.decode bytes with
    | .ok cs => Toml.readDocument? cs
    | .error _ => some []

/-- What the names of variables begin with, in lower case. -/
def variableStart : List Char := "gridpresence__".toList

/-- A name with a dot in place of each two underscores. -/
def dotted : List Char → List Char
  | '_' :: '_' :: cs => '.' :: dotted cs
  | c :: cs => c :: dotted cs
  | [] => []

/-- The value that a variable has. -/
def variableValue (s : String) : Setting :=
  if Setting.canonicalName s = "true" then .bool true
  else if Setting.canonicalName s = "false" then .bool false
  else match readInt64? s.toList with
    | some n => .int n
    | none => match (Binary.read? s.toList : Option Double) with
      | some x => .float x
      | none => .text s

/-- What a variable sets, if it is one of the service's. -/
def readVariable? (name value : String) : Option (String × Setting) :=
  (after? variableStart (name.toList.map Char.toLower)).map fun rest =>
    (String.ofList (dotted rest), variableValue value)

/-- What the environment says. -/
def readEnvironment (environment : List (String × String)) : Source :=
  environment.filterMap fun v => readVariable? v.1 v.2

/-! ## Reading the settings out of the tree -/

/-- The values of the fields of a section: the entries of those names, or the items of a list in this
order. -/
def fields? (names : List String) : Setting → Option (List Setting)
  | .table es => names.mapM fun name => es.lookup name
  | .list vs => if names.length ≤ vs.length then some (vs.take names.length) else none
  | _ => none

def server? (v : Setting) : Option ServerSettings :=
  match fields? ["host", "port"] v with
  | some [host, port] => do
    return ⟨← host.text?, ← port.word64?.filter (· < 65536)⟩
  | _ => none

def database? (v : Setting) : Option DatabaseSettings :=
  match fields? ["path"] v with
  | some [path] => return ⟨← path.text?⟩
  | _ => none

def cache? (v : Setting) : Option CacheSettings :=
  match fields? ["ttl_seconds", "negative_ttl_seconds", "max_entries", "prune_interval_seconds"] v with
  | some [ttl, negativeTtl, maxEntries, pruneInterval] => do
    return ⟨← ttl.word64?, ← negativeTtl.word64?, ← maxEntries.word64?, ← pruneInterval.word64?⟩
  | _ => none

def displayNames? (v : Setting) : Option NameSettings :=
  match fields? ["fetch", "cache_expiration_hours", "request_timeout_seconds"] v with
  | some [fetch, hours, timeout] => do
    return ⟨← fetch.bool?, ← hours.int64?, ← timeout.word64?⟩
  | _ => none

def logging? (v : Setting) : Option LogSettings :=
  match fields? ["level", "format"] v with
  | some [level, format] => do return ⟨← level.text?, ← format.text?⟩
  | _ => none

/-- The settings that a tree stands for. -/
def ofTree? (tree : Setting) : Option Settings :=
  match fields? ["server", "database", "cache", "display_names", "logging"] tree with
  | some [server, database, cache, displayNames, logging] => do
    return ⟨← server? server, ← database? database, ← cache? cache, ← displayNames? displayNames,
      ← logging? logging⟩
  | _ => none

/-! ## Loading -/

/-- The tree of all sources. They are laid over each other before they are laid over the defaults. -/
def tree (sources : List Source) : Setting :=
  let combined := sources.foldl Setting.layOver (.table [])
  Setting.layOver (Setting.layOver (.table []) defaults) combined.entries

/-- Why there are no settings. -/
inductive LoadError where
  /-- A file is malformed, or a value is of the wrong kind or out of range. -/
  | unreadable
  | refused (e : Failure)
  deriving DecidableEq

/-- The settings that two files and the environment give. -/
def load (first second : Option (List UInt8)) (environment : List (String × String)) :
    Except LoadError Settings :=
  match readFile? first, readFile? second with
  | some a, some b => match ofTree? (tree [a, b, readEnvironment environment]) with
    | some s => match s.validate with
      | .ok s => .ok s
      | .error e => .error (.refused e)
    | none => .error .unreadable
  | _, _ => .error .unreadable

end Settings

end FederatedPresence
