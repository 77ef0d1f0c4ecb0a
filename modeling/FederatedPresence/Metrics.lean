import FederatedPresence.Cache
import FederatedPresence.Failure
import FederatedPresence.Number.Positional

/-!
# Metrics

What the service counts: calls of the store, requests to other grids, how long refreshes of names
took, and failures that clients were told of. A count belongs to the values of some labels.

`exposition` writes all counts, those of the cache included, in the text format of Prometheus:
families by name, samples by the values of their labels, nothing for a family without samples.
-/

namespace FederatedPresence

open Text

/-! ## Counts -/

/-- Counts by the values of labels, in order of the values. -/
structure Tally (α : Type) where
  entries : List (List String × α)
  deriving DecidableEq

namespace Tally

variable {α : Type}

def empty : Tally α := ⟨[]⟩

instance : Inhabited (Tally α) := ⟨empty⟩

/-- The count of some labels. -/
def get? (t : Tally α) (labels : List String) : Option α :=
  (t.entries.find? fun e => e.1 = labels).map (·.2)

/-- Changes the count of some labels; `start` is the count before the first change. -/
def updateEntry (labels : List String) (start : α) (f : α → α) :
    List (List String × α) → List (List String × α)
  | [] => [(labels, f start)]
  | e :: es =>
    if e.1 = labels then (labels, f e.2) :: es
    else if labels < e.1 then (labels, f start) :: e :: es
    else e :: updateEntry labels start f es

/-- Changes the count of some labels; `start` is the count before the first change. -/
def update (t : Tally α) (labels : List String) (start : α) (f : α → α) : Tally α :=
  ⟨updateEntry labels start f t.entries⟩

end Tally

/-- Plain counts. -/
abbrev Counter := Tally Nat

namespace Counter

/-- The count of some labels, zero before the first one. -/
def value (t : Counter) (labels : List String) : Nat := (Tally.get? t labels).getD 0

/-- Counts one more. -/
def increment (t : Counter) (labels : List String) : Counter := Tally.update t labels 0 (· + 1)

end Counter

/-- What the service counts, apart from its cache. -/
structure Metrics where
  /-- Calls of the store, by operation and status. -/
  storeQueries : Counter
  /-- Requests to other grids, by status. -/
  nameRequests : Counter
  /-- The durations of refreshes in milliseconds, by outcome. -/
  refreshes : Tally (List Nat)
  /-- Failures that clients were told of, by kind. -/
  errors : Counter
  deriving DecidableEq

namespace Metrics

def empty : Metrics := ⟨.empty, .empty, .empty, .empty⟩

instance : Inhabited Metrics := ⟨empty⟩

/-- The status of a call of the store. -/
def queryStatus (success : Bool) : String := if success then "success" else "error"

/-- Counts a call of the store. -/
def observeStoreQuery (m : Metrics) (operation : String) (success : Bool) : Metrics :=
  { m with storeQueries := m.storeQueries.increment [operation, queryStatus success] }

/-- Counts a request to another grid. -/
def observeNameRequest (m : Metrics) (status : String) : Metrics :=
  { m with nameRequests := m.nameRequests.increment [status] }

/-- Records the duration of a refresh. -/
def observeRefresh (m : Metrics) (outcome : String) (milliseconds : Nat) : Metrics :=
  { m with refreshes := m.refreshes.update [outcome] [] (· ++ [milliseconds]) }

/-- Counts a failure that a client is told of. -/
def observeFailure (m : Metrics) (e : Failure) : Metrics :=
  { m with errors := m.errors.increment [e.kind] }

/-! ## Samples -/

/-- The names that metrics share the beginning of. -/
def namespacePart : String := "gridpresence_"

/-- What is known of a family of samples. -/
structure Family where
  name : String
  help : String
  labels : List String

def cacheEvictionsFamily : Family :=
  ⟨"cache_evictions_total", "Total number of capacity evictions", ["cache_name"]⟩
def cacheHitsFamily : Family := ⟨"cache_hits_total", "Total number of cache hits", ["cache_name"]⟩
def cacheMissesFamily : Family :=
  ⟨"cache_misses_total", "Total number of cache misses", ["cache_name"]⟩
def cacheSizeFamily : Family :=
  ⟨"cache_size", "Current number of items in cache", ["cache_name"]⟩
def refreshFamily : Family :=
  ⟨"display_name_refresh_duration_seconds", "Wall-clock duration of a display-name refresh batch",
    ["outcome"]⟩
def nameRequestsFamily : Family :=
  ⟨"display_name_requests_total",
    "Total number of display-name requests sent to remote authorities", ["status"]⟩
def errorsFamily : Family := ⟨"errors_total", "Total number of errors", ["error_type"]⟩
def storeQueriesFamily : Family :=
  ⟨"store_queries_total", "Total number of record store queries", ["operation", "status"]⟩

/-- The counts of a cache, as families with their counts. -/
def cacheCounts {α : Type} (c : Cache α) : List (Family × Counter) :=
  let one := fun n => (⟨if n = 0 then [] else [([c.name], n)]⟩ : Counter)
  [(cacheEvictionsFamily, one c.evictions), (cacheHitsFamily, one c.hits),
    (cacheMissesFamily, one c.misses)]

/-- The counts of a cache and its size, as families with their counts. -/
def cacheFamilies {α : Type} (c : Cache α) : List (Family × Counter) :=
  cacheCounts c ++ [(cacheSizeFamily, ⟨[([c.name], c.reportedSize)]⟩)]

/-- How many refreshes there were, by outcome. -/
def refreshCounts (m : Metrics) : Counter := ⟨m.refreshes.entries.map fun e => (e.1, e.2.length)⟩

/-- The counts of the service, as families with their counts. -/
def serviceCounts (m : Metrics) : List (Family × Counter) :=
  [(refreshFamily, m.refreshCounts), (nameRequestsFamily, m.nameRequests),
    (errorsFamily, m.errors), (storeQueriesFamily, m.storeQueries)]

/-- Each count that is not zero, with the family's name and the values of the labels. -/
def summary (families : List (Family × Counter)) : List (String × List String × Nat) :=
  families.flatMap fun (f, counts) =>
    (counts.entries.filter fun e => e.2 ≠ 0).map fun e => (f.name, e.1, e.2)

/-! ## Text format -/

/-- A character in the value of a label. -/
def escapeLabel (c : Char) : List Char :=
  if c = '\\' then ['\\', '\\']
  else if c = '"' then ['\\', '"']
  else if c = '\n' then ['\\', 'n']
  else [c]

/-- Texts with a comma between each two. -/
def commas : List (List Char) → List Char
  | [] => []
  | [x] => x
  | x :: xs => x ++ ',' :: commas xs

/-- Labels with their values, in braces. -/
def labelChars (pairs : List (String × String)) : List Char :=
  '\x7b' :: commas (pairs.map fun (name, value) =>
    name.toList ++ '=' :: '"' :: value.toList.flatMap escapeLabel ++ ['"']) ++ ['\x7d']

/-- A sample. -/
def sampleLine (name : String) (pairs : List (String × String)) (value : List Char) : List Char :=
  namespacePart.toList ++ name.toList ++ labelChars pairs ++ ' ' :: value ++ ['\n']

/-- What stands above the samples of a family. -/
def headLines (f : Family) (type : String) : List Char :=
  let name := namespacePart ++ f.name
  ("# HELP " ++ name ++ " " ++ f.help ++ "\n# TYPE " ++ name ++ " " ++ type ++ "\n").toList

/-- The samples of some counts. -/
def countLines (f : Family) (type : String) (counts : Counter) : List Char :=
  if counts.entries.isEmpty then []
  else headLines f type ++ counts.entries.flatMap fun (values, n) =>
    sampleLine f.name (f.labels.zip values) (digits n)

/-- The upper bounds of the buckets, as they are written. -/
def bucketBounds : List String := ["0.01", "0.05", "0.1", "0.5", "1", "2.5", "5", "10"]

/-- Milliseconds as seconds: the whole seconds and the rest are rounded apart. -/
def toSeconds (milliseconds : Nat) : Double :=
  (Binary.ofNat (milliseconds / 1000)).addMagnitudes
    (.ofUnits false (milliseconds % 1000 * 1000000 * Nat.pow 2 BinaryFormat.double.scale) 1000000000)

/-- How many durations are at most a bound. -/
def countUpTo (bound : String) (durations : List Double) : Nat :=
  match (Binary.read? bound.toList : Option Double) with
  | some b => durations.countP fun d => d.leMagnitude b
  | none => 0

/-- The samples of the durations of one outcome. -/
def histogramLines (f : Family) (values : List String) (milliseconds : List Nat) : List Char :=
  let durations := milliseconds.map toSeconds
  let labels := f.labels.zip values
  let bucket := fun (bound : String) (n : Nat) =>
    sampleLine (f.name ++ "_bucket") (labels ++ [("le", bound)]) (digits n)
  (bucketBounds.flatMap fun b => bucket b (countUpTo b durations)) ++
    bucket "+Inf" durations.length ++
    sampleLine (f.name ++ "_sum") labels
      (durations.foldl Binary.addMagnitudes (.zero false)).toText ++
    sampleLine (f.name ++ "_count") labels (digits durations.length)

/-- The samples of all durations. -/
def refreshLines (m : Metrics) : List Char :=
  if m.refreshes.entries.isEmpty then []
  else headLines refreshFamily "histogram" ++ m.refreshes.entries.flatMap fun (values, ms) =>
    histogramLines refreshFamily values ms

/-- All samples of a cache, its size included. -/
def cacheLines {α : Type} (c : Cache α) : List Char :=
  (cacheCounts c).flatMap (fun (f, counts) => countLines f "counter" counts) ++
    countLines cacheSizeFamily "gauge" ⟨[([c.name], c.reportedSize)]⟩

/-- All samples of the service. -/
def serviceLines (m : Metrics) : List Char :=
  m.refreshLines ++ countLines nameRequestsFamily "counter" m.nameRequests ++
    countLines errorsFamily "counter" m.errors ++
    countLines storeQueriesFamily "counter" m.storeQueries

/-- The metrics of the service, as text. -/
def exposition (m : Metrics) : String := String.ofList m.serviceLines

/-- The metrics of the service and its cache, as text. -/
def expositionWith {α : Type} (m : Metrics) (c : Cache α) : String :=
  String.ofList (cacheLines c ++ m.serviceLines)

end Metrics

end FederatedPresence
