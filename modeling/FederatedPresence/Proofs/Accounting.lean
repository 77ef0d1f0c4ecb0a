import FederatedPresence.Proofs.Eviction
import FederatedPresence.Proofs.Runs

/-!
# What a service counts

The journal of the link says which calls the store got, but not how they went. That can be told by
making the same calls again, on the link as it was before (`StoreLink.makeAll`).

**The books** (`Grid.Balanced`). From one state of a service to a later one, some users are looked
up and some queries are made. Every user with a key is a hit or a miss. Every miss and every query
asks the store for rows once. Every call is counted by its operation and by how it went; and the
store is never asked for a single record.

**Every operation balances** (`Federation.step_balanced`): lookups and writes do, and all else
consists of these. What an operation looks up is said before it happens (`Event.lookups`): the
visitors whose names are stale are looked up again when their names are stored.

**Theorem (`Federation.run_balanced`).** The books balance after every run, whatever goes wrong with
the store, whatever the other grids answer, and whoever else uses the store.
-/

namespace FederatedPresence

/-! ## Calls of the store -/

/-- The label under which a call is counted. -/
def StoreCall.operation : StoreCall → String
  | .get _ => "get"
  | .getAll _ => Grid.lookupOperation
  | .store _ => Grid.writeOperation

/-- A call, and whether it went well. -/
abbrev MadeCall := StoreCall × Bool

namespace StoreLink

variable {σ : Type} [RecordStore σ]

/-- Makes a call, and tells whether it went well. A record must be taken for that. -/
def make (l : StoreLink σ) : StoreCall → Bool × StoreLink σ
  | .get userId => ((l.get userId).1.isOk, (l.get userId).2)
  | .getAll start => ((l.getAll start).1.isOk, (l.getAll start).2)
  | .store r => (match (l.put r).1 with
    | .ok taken => taken
    | .error _ => false, (l.put r).2)

/-- Makes some calls, one after the other. -/
def makeAll (l : StoreLink σ) : List StoreCall → List MadeCall × StoreLink σ
  | [] => ([], l)
  | call :: calls =>
    let (rest, last) := (l.make call).2.makeAll calls
    ((call, (l.make call).1) :: rest, last)

theorem makeAll_append (l : StoreLink σ) (calls calls' : List StoreCall) :
    l.makeAll (calls ++ calls') =
      ((l.makeAll calls).1 ++ ((l.makeAll calls).2.makeAll calls').1,
        ((l.makeAll calls).2.makeAll calls').2) := by
  induction calls generalizing l with
  | nil => rfl
  | cons call calls ih => rw [List.cons_append, makeAll, ih, makeAll, List.cons_append]

theorem journal_make (l : StoreLink σ) (call : StoreCall) :
    (l.make call).2.journal = l.journal ++ [call] := by
  cases call with
  | get userId => rfl
  | getAll start => rfl
  | store r =>
    show (l.put r).2.journal = _
    unfold put
    simp only
    split
    · rfl
    · rfl
    · split
      · rfl
      · rfl

/-- All calls are in the journal. -/
theorem journal_makeAll (l : StoreLink σ) (calls : List StoreCall) :
    (l.makeAll calls).2.journal = l.journal ++ calls := by
  induction calls generalizing l with
  | nil => exact (List.append_nil _).symm
  | cons call calls ih => rw [makeAll, ih, journal_make, List.append_assoc, List.singleton_append]

end StoreLink

/-- Counts a call by its operation and by how it went. -/
def Metrics.countCall (counts : Counter) (c : MadeCall) : Counter :=
  counts.increment [c.1.operation, queryStatus c.2]

/-- The store is asked for rows. -/
def MadeCall.isLoad (c : MadeCall) : Bool :=
  match c.1 with
  | .getAll _ => true
  | .get _ | .store _ => false

namespace Grid

variable {σ : Type} [RecordStore σ]

/-- Users with a key. -/
def keyed (users : List String) : List String := users.filter fun userId => canonicalKey userId ≠ ""

theorem keyed_append (users users' : List String) :
    keyed (users ++ users') = keyed users ++ keyed users' :=
  List.filter_append _ _

/-- The books from one state of a service to a later one, with the calls that were made. -/
structure Books (users queries : List String) (calls : List MadeCall) (g g' : Grid σ) : Prop where
  made : g.link.makeAll (calls.map (·.1)) = (calls, g'.link)
  counted : g'.metrics.storeQueries = calls.foldl Metrics.countCall g.metrics.storeQueries
  consulted : g'.cache.hits + g'.cache.misses =
    g.cache.hits + g.cache.misses + (keyed users).length
  loaded : g.cache.misses + calls.countP MadeCall.isLoad = g'.cache.misses + queries.length
  noGet : ∀ c ∈ calls, ∀ userId, c.1 ≠ .get userId

/-- The books balance with some calls. -/
def Balanced (users queries : List String) (g g' : Grid σ) : Prop :=
  ∃ calls, Books users queries calls g g'

namespace Balanced

variable {g g' g'' : Grid σ} {users users' queries queries' : List String}

/-- Nothing that is counted happens. -/
theorem quiet (hlink : g'.link = g.link)
    (hcounts : g'.metrics.storeQueries = g.metrics.storeQueries)
    (hhits : g'.cache.hits = g.cache.hits) (hmisses : g'.cache.misses = g.cache.misses) :
    Balanced [] [] g g' :=
  ⟨[], by rw [hlink]; rfl, hcounts, by rw [hhits, hmisses]; rfl, by rw [hmisses]; rfl, by simp⟩

theorem refl (g : Grid σ) : Balanced [] [] g g := quiet rfl rfl rfl rfl

theorem trans (h : Balanced users queries g g') (h' : Balanced users' queries' g' g'') :
    Balanced (users ++ users') (queries ++ queries') g g'' := by
  obtain ⟨calls, hmade, hcounted, hconsulted, hloaded, hnoGet⟩ := h
  obtain ⟨calls', hmade', hcounted', hconsulted', hloaded', hnoGet'⟩ := h'
  refine ⟨calls ++ calls', ?_, ?_, ?_, ?_, ?_⟩
  · rw [List.map_append, StoreLink.makeAll_append, hmade, hmade']
  · rw [hcounted', hcounted, List.foldl_append]
  · rw [hconsulted', hconsulted, keyed_append, List.length_append, Nat.add_assoc]
  · rw [List.countP_append, List.length_append]
    omega
  · intro c hc
    rcases List.mem_append.1 hc with hc | hc
    · exact hnoGet c hc
    · exact hnoGet' c hc

theorem before (h : Balanced [] [] g g') (h' : Balanced users queries g' g'') :
    Balanced users queries g g'' :=
  h.trans h'

theorem after (h : Balanced users queries g g') (h' : Balanced [] [] g' g'') :
    Balanced users queries g g'' := by
  simpa using h.trans h'

/-! ## Lookups and writes -/

/-- **A query asks the store once.** -/
theorem load (g : Grid σ) (start : String) : Balanced [] [start] g (g.load start).2 :=
  ⟨[(.getAll start, (g.load start).1.isOk)], rfl, rfl, rfl, rfl, by simp⟩

theorem remember (g : Grid σ) (key : String) (what : CachedPresence) :
    Balanced [] [] g (g.remember key what) :=
  quiet rfl rfl (g.cache.hits_put _ _ _ _) (g.cache.misses_put _ _ _ _)

theorem save (g : Grid σ) (r : Record) : Balanced [] [] g (g.save r).2 :=
  ⟨[(.store r, (g.save r).1)], rfl, rfl, rfl, rfl, by simp⟩

theorem write (g : Grid σ) (key : String) (p : Presence) : Balanced [] [] g (g.write key p).2 := by
  rw [write_eq]
  split
  · exact (save g _).after (remember _ _ _)
  · exact save g _

/-- **A user with a key is a hit, or a miss for which the store is asked once.** -/
theorem lookup (g : Grid σ) (userId : String) : Balanced [userId] [] g (g.lookup userId).2 := by
  by_cases hkey : canonicalKey userId = ""
  · have hkeyed : keyed [userId] = [] := by simp [keyed, hkey]
    rw [Grid.lookup, if_pos hkey]
    exact ⟨[], rfl, rfl, by rw [hkeyed]; rfl, rfl, by simp⟩
  · have hkeyed : keyed [userId] = [userId] := by simp [keyed, hkey]
    cases hpeek : g.cache.peek? (canonicalKey userId) g.clock with
    | some v =>
      rw [lookup_of_peek?_eq_some hkey hpeek, Grid.consultCache, Cache.get_of_peek?_eq_some hpeek]
      refine ⟨[], rfl, rfl, ?_, rfl, by simp⟩
      rw [hkeyed]
      exact Nat.add_right_comm _ _ _
    | none =>
      -- the miss comes before the call that it leads to, so the two balance together only
      have hmiss : (g.consultCache (canonicalKey userId)).2 =
          { g with cache := { g.cache with misses := g.cache.misses + 1 } } := by
        rw [Grid.consultCache, Cache.get_of_peek?_eq_none hpeek]
      have hload : Balanced [userId] [] g
          ((g.consultCache (canonicalKey userId)).2.load (canonicalKey userId)).2 := by
        rw [hmiss]
        refine ⟨[(.getAll (canonicalKey userId), (g.load (canonicalKey userId)).1.isOk)], rfl,
          rfl, ?_, rfl, by simp⟩
        rw [hkeyed]
        rfl
      rw [lookup_of_peek?_eq_none hkey hpeek]
      rcases consultStore_cases (g.consultCache (canonicalKey userId)).2 (canonicalKey userId) with
        ⟨e, -, h⟩ | ⟨rows, -, h⟩
      · rw [h]
        exact hload
      · rw [h]
        exact hload.after (remember _ _ _)

theorem resolve (g : Grid σ) (userId : String) : Balanced [userId] [] g (g.resolve userId).2 := by
  rw [snd_resolve]
  exact lookup g userId

theorem resolveAll (g : Grid σ) (ids : List String) : Balanced ids [] g (g.resolveAll ids).2 := by
  induction ids generalizing g with
  | nil => exact refl g
  | cons id ids ih => exact (resolve g id).trans (ih _)

/-- **A change looks its user up once**, and writes at most once. -/
theorem update (g : Grid σ) (userId : String) (change : Change) :
    Balanced [userId] [] g (g.update userId change).2 := by
  rcases g.update_cases userId change with ⟨h, hkey⟩ | ⟨e, -, h⟩ | ⟨found, p, -, -, -, h⟩
  · have hlookup := lookup g userId
    rw [Grid.lookup, if_pos hkey] at hlookup
    rw [h]
    exact hlookup
  · rw [h]
    exact lookup g userId
  · rw [h]
    exact (lookup g userId).after (write _ _ _)

/-! ## Batches -/

theorem foldl_storeName (g : Grid σ) (ps : List Presence) :
    Balanced (ps.map (·.userId)) [] g (ps.foldl storeName g) := by
  induction ps generalizing g with
  | nil => exact refl g
  | cons p ps ih => exact (update g p.userId _).trans (ih _)

end Balanced

/-- The user keys of the visitors among some entries whose names are to be asked for. -/
def staleKeys (g : Grid σ) (entries : List Presence) : List String :=
  (staleVisitors g.policy.nameLifetime g.now entries).map (·.2)

omit [RecordStore σ] in
/-- The names of these visitors are stored. -/
theorem map_userId_filterMap_renamed? (lifetime : NameLifetime) (now : Timestamp) (names : TextMap)
    (entries : List Presence) : (entries.filterMap (renamed? lifetime now names)).map (·.userId) =
      (staleVisitors lifetime now entries).map (·.2) := by
  rw [staleVisitors, List.map_filterMap, List.map_filterMap]
  refine List.filterMap_congr fun p _ => ?_
  rw [renamed?, Option.map_map, Option.map_map]
  rfl

namespace Balanced

/-- **A refresh looks each stale visitor up once more**, to store the name. -/
theorem refresh (g : Grid σ) (net : Network) (entries : List Presence) :
    Balanced (g.staleKeys entries) [] g (g.refresh net entries).2 := by
  unfold Grid.refresh
  by_cases hnone : g.batchesOf entries = []
  · have hkeys : g.staleKeys entries = [] := by
      have hstale := batchesOf_eq_nil_iff.1 hnone
      rw [staleKeys, List.map_eq_nil_iff, staleVisitors, List.filterMap_eq_nil_iff]
      intro p hp
      rw [Option.map_eq_none_iff]
      exact hstale p hp
    rw [hnone, hkeys]
    exact refl g
  · have hasked : Balanced [] [] g (g.askAll net (g.batchesOf entries)).2 := by
      refine quiet rfl ?_ rfl rfl
      show (List.foldl Metrics.observeVerdict g.metrics _).storeQueries = g.metrics.storeQueries
      rw [foldl_observeVerdict]
    have hstored : Balanced (g.staleKeys entries) [] (g.askAll net (g.batchesOf entries)).2
        (g.storedNames net entries (g.batchesOf entries)) := by
      rw [staleKeys, ← map_userId_filterMap_renamed?]
      exact foldl_storeName _ _
    rw [snd_refreshWith hnone]
    exact (hasked.before hstored).after (quiet rfl rfl rfl rfl)

end Balanced

/-- The users whom a batch looks up: those it is asked about, and when names are refreshed, the
visitors whose names are to be asked for once more. -/
def lookupsOfBatch (g : Grid σ) (ids : List String) (refreshNames : Bool) : List String :=
  if refreshNames ∧ g.policy.fetchesNames then
    ids ++ g.staleKeys (List.zipWith entryOf (g.resolveAll ids).1 ids)
  else ids

theorem Balanced.presenceInfo (g : Grid σ) (net : Network) (ids : List String)
    (refreshNames : Bool) : Balanced (g.lookupsOfBatch ids refreshNames) [] g
      (g.presenceInfo net ids refreshNames).2 := by
  have hlookups := Balanced.resolveAll g ids
  have hframe := g.sameFrame_resolveAll ids
  cases refreshNames with
  | false =>
    rw [lookupsOfBatch, if_neg (by simp)]
    exact hlookups
  | true =>
    rw [presenceInfo_refreshing, lookupsOfBatch]
    by_cases hfetch : g.policy.fetchesNames = true
    · have hstale : ∀ entries, (g.resolveAll ids).2.staleKeys entries = g.staleKeys entries := by
        intro entries
        rw [staleKeys, staleKeys, hframe.policy, hframe.now]
      rw [if_pos ⟨rfl, hfetch⟩, if_pos hfetch, ← hstale]
      exact hlookups.trans (.refresh _ net _)
    · rw [if_neg (fun h => hfetch h.2), if_neg hfetch]
      exact hlookups

end Grid

/-! ## Requests -/

namespace Http.Request

/-- The route of a request, when it serves the method. -/
def served? (r : Request) : Option Route :=
  (Route.ofPath? (path r.target)).filter fun route => route.methods.contains r.method

/-- The users whom a request on a route looks up: those whose names are asked for, or the one in the
path. -/
def lookupsOn (r : Request) : Route → List String
  | .displayNames => match readBody r.body with
    | .ok form => Names.requestedIds form
    | .error _ => []
  | .presence segment => match readUserKey segment with
    | .ok userId => if r.method = "DELETE" then [] else [userId]
    | .error _ => []
  | .health | .metrics | .users | .usersOnline | .cache => []

/-- The texts that a request on a route asks for records by. -/
def queriesOn (r : Request) : Route → List String
  | .users => match readStart (query r.target) with
    | .ok start => if start = "" then [] else [start]
    | .error _ => []
  | .usersOnline => [""]
  | .health | .metrics | .displayNames | .presence _ | .cache => []

def lookups (r : Request) : List String := r.served?.elim [] r.lookupsOn

def queries (r : Request) : List String := r.served?.elim [] r.queriesOn

end Http.Request

namespace Grid

variable {σ : Type} [RecordStore σ]

namespace Balanced

theorem refuse (g : Grid σ) (e : Failure) : Balanced [] [] g (g.refuse e).2 := quiet rfl rfl rfl rfl

theorem namesReply (g : Grid σ) (form : String) :
    Balanced (Names.requestedIds form) [] g (g.namesReply form).2 := by
  unfold Grid.namesReply
  cases Names.requestedIds form with
  | nil => exact refl g
  | cons id ids =>
    show Balanced _ _ g (g.namesFor (id :: ids)).2
    rw [namesFor_eq]
    exact resolveAll g (id :: ids)

theorem usersResponse (g : Grid σ) {start : String} (h : start ≠ "") :
    Balanced [] [start] g (g.usersResponse start).2 := by
  have hload := load g start
  rw [Grid.usersResponse, if_neg h, listRecords]
  rcases hrows : g.load start with ⟨e | records, g'⟩
  · rw [hrows] at hload
    exact hload.after (refuse g' e)
  · rw [hrows] at hload
    exact hload

theorem onlineResponse (g : Grid σ) : Balanced [] [""] g g.onlineResponse.2 := by
  have hload := load g ""
  unfold Grid.onlineResponse countRecentlyOnline
  rcases hrows : g.load "" with ⟨e | rows, g'⟩
  · rw [hrows] at hload
    exact hload.after (refuse g' e)
  · rw [hrows] at hload
    exact hload

theorem presenceResponse (g : Grid σ) (userId : String) :
    Balanced [userId] [] g (g.presenceResponse userId).2 := by
  have hresolve := resolve g userId
  unfold Grid.presenceResponse
  rcases hfound : g.resolve userId with ⟨none | p, g'⟩
  · rw [hfound] at hresolve
    exact hresolve.after (refuse g' _)
  · rw [hfound] at hresolve
    exact hresolve

theorem serve (g : Grid σ) (r : Http.Request) (route : Route) :
    Balanced (r.lookupsOn route) (r.queriesOn route) g (g.serve r route).2 := by
  cases route with
  | health => exact refl g
  | metrics => exact quiet rfl rfl rfl rfl
  | displayNames =>
    rw [Grid.serve, Http.Request.lookupsOn]
    rcases readBody r.body with response | form
    · exact refl g
    · exact namesReply g form
  | users =>
    rw [Grid.serve, Http.Request.queriesOn]
    rcases readStart (Http.query r.target) with response | start
    · exact refl g
    · show Balanced [] (if start = "" then [] else [start]) g (g.usersResponse start).2
      by_cases hstart : start = ""
      · rw [if_pos hstart, Grid.usersResponse, if_pos hstart]
        exact refuse g _
      · rw [if_neg hstart]
        exact usersResponse g hstart
  | usersOnline => exact onlineResponse g
  | presence segment =>
    rw [Grid.serve, Http.Request.lookupsOn]
    rcases readUserKey segment with response | userId
    · exact refl g
    · by_cases hdelete : r.method = "DELETE"
      · simp only [if_pos hdelete]
        exact quiet rfl rfl rfl rfl
      · simp only [if_neg hdelete]
        exact presenceResponse g userId
  | cache => exact quiet rfl rfl rfl rfl

/-- **A request looks up and queries what it does on its route.** -/
theorem handle (g : Grid σ) (r : Http.Request) : Balanced r.lookups r.queries g (g.handle r).2 := by
  unfold Http.Request.lookups Http.Request.queries Http.Request.served? Grid.handle
  rcases Route.ofPath? (Http.path r.target) with _ | route
  · exact refl g
  · by_cases hserved : route.methods.contains r.method = true
    · rw [Option.filter_some, if_pos hserved]
      simp only [if_pos hserved]
      exact serve g r route
    · rw [Option.filter_some, if_neg hserved]
      simp only [if_neg hserved]
      exact refl g

end Balanced

/-- The calls that were made are the ones that came into the journal. -/
theorem Books.makeAll_drop {g g' : Grid σ} {users queries : List String} {calls : List MadeCall}
    (h : Books users queries calls g g') :
    g.link.makeAll (g'.link.journal.drop g.link.journal.length) = (calls, g'.link) := by
  have hjournal : g'.link.journal = g.link.journal ++ calls.map (·.1) := by
    have hmade := StoreLink.journal_makeAll g.link (calls.map (·.1))
    rwa [h.made] at hmade
  rw [hjournal, List.drop_left]
  exact h.made

end Grid

/-! ## Events -/

namespace Event

/-- Somebody else uses the store, or other things go wrong on the way to it. -/
def isOutside : Event → Bool
  | .readStore _ | .writeStore _ | .setFaults _ => true
  | _ => false

variable {σ : Type} [RecordStore σ]

/-- The users whom the service looks up at an event. -/
def lookups (f : Federation σ) : Event → List String
  | .resolve userId | .change userId _ => [userId]
  | .presenceInfo userIds refreshNames => f.grid.lookupsOfBatch userIds refreshNames
  | .refresh entries => f.grid.staleKeys entries
  | .serve request => request.lookups
  | _ => []

/-- The texts that the service is asked for records by. -/
def queries : Event → List String
  | .listRecords start => [start]
  | .countRecentlyOnline => [""]
  | .serve request => request.queries
  | _ => []

end Event

namespace Federation

variable {σ : Type} [RecordStore σ]

/-- The calls of the store that the service makes at an event. -/
def callsAt (f : Federation σ) (e : Event) : List MadeCall :=
  if e.isOutside then []
  else (f.grid.link.makeAll
    ((f.step e).2.grid.link.journal.drop f.grid.link.journal.length)).1

/-- **What the service does at an event balances.** -/
theorem step_balanced (f : Federation σ) {e : Event} (h : e.isOutside = false) :
    Grid.Balanced (e.lookups f) e.queries f.grid (f.step e).2.grid := by
  cases e with
  | resolve userId => exact .resolve f.grid userId
  | change userId change => exact .update f.grid userId change
  | presenceInfo userIds refreshNames => exact .presenceInfo f.grid f.network userIds refreshNames
  | refresh entries => exact .refresh f.grid f.network entries
  | listRecords start => exact .load f.grid start
  | countRecentlyOnline => exact .load f.grid ""
  | serve request => exact .handle f.grid request
  | forget key => exact .quiet rfl rfl rfl rfl
  | forgetAll => exact .quiet rfl rfl rfl rfl
  | prune => exact .quiet rfl rfl rfl rfl
  | advance ms => exact .quiet rfl rfl rfl rfl
  | setWall time => exact .quiet rfl rfl rfl rfl
  | setNetwork network => exact .refl f.grid
  | readStore _ => cases h
  | writeStore _ => cases h
  | setFaults _ => cases h

theorem books_callsAt (f : Federation σ) {e : Event} (h : e.isOutside = false) :
    Grid.Books (e.lookups f) e.queries (f.callsAt e) f.grid (f.step e).2.grid := by
  obtain ⟨calls, hbooks⟩ := f.step_balanced h
  have hcalls : f.callsAt e = calls := by
    rw [callsAt, if_neg (by simp [h]), hbooks.makeAll_drop]
  rw [hcalls]
  exact hbooks

/-- What a service has counted since it started. -/
structure Counted (users queries : List String) (calls : List MadeCall) (g : Grid σ) : Prop where
  counted : g.metrics.storeQueries = calls.foldl Metrics.countCall .empty
  consulted : g.cache.hits + g.cache.misses = (Grid.keyed users).length
  loaded : calls.countP MadeCall.isLoad = g.cache.misses + queries.length
  noGet : ∀ c ∈ calls, ∀ userId, c.1 ≠ .get userId

/-- **Every event is counted.** -/
theorem Counted.step {f : Federation σ} {users queries : List String} {calls : List MadeCall}
    (h : Counted users queries calls f.grid) (e : Event) :
    Counted (users ++ e.lookups f) (queries ++ e.queries) (calls ++ f.callsAt e)
      (f.step e).2.grid := by
  cases houtside : e.isOutside with
  | true =>
    -- nobody but the service counts anything
    have hcalls : f.callsAt e = [] := by rw [callsAt, if_pos houtside]
    have hquiet : e.lookups f = [] ∧ e.queries = [] ∧
        (f.step e).2.grid.metrics = f.grid.metrics ∧ (f.step e).2.grid.cache = f.grid.cache := by
      cases e with
      | readStore _ | writeStore _ | setFaults _ => exact ⟨rfl, rfl, rfl, rfl⟩
      | _ => cases houtside
    obtain ⟨husers, hqueries, hmetrics, hcache⟩ := hquiet
    rw [hcalls, husers, hqueries, List.append_nil, List.append_nil, List.append_nil]
    exact ⟨hmetrics ▸ h.counted, hcache ▸ h.consulted, hcache ▸ h.loaded, h.noGet⟩
  | false =>
    have hbooks := f.books_callsAt houtside
    refine ⟨?_, ?_, ?_, ?_⟩
    · rw [hbooks.counted, h.counted, List.foldl_append]
    · rw [hbooks.consulted, h.consulted, Grid.keyed_append, List.length_append]
    · have hloaded := hbooks.loaded
      have hbefore := h.loaded
      rw [List.countP_append, List.length_append]
      omega
    · intro c hc
      rcases List.mem_append.1 hc with hc | hc
      · exact h.noGet c hc
      · exact hbooks.noGet c hc

/-- The events of a run, each with the state in which it happens. -/
def pastOf (f : Federation σ) (events : List Event) : List (Federation σ × Event) :=
  pastFrom (fun f e => (f.step e).2) f events

/-- **What a run counts.** -/
theorem counted_run (policy : Policy) (maxEntries : Nat) (wall : WallTime) (store : σ)
    (network : Network) (events : List Event) :
    let start : Federation σ := ⟨.start policy maxEntries wall store, network⟩
    Counted ((start.pastOf events).flatMap fun p => p.2.lookups p.1)
      ((start.pastOf events).flatMap fun p => p.2.queries)
      ((start.pastOf events).flatMap fun p => p.1.callsAt p.2) (start.run events).grid := by
  intro start
  induction events using List.reverseRecOn with
  | nil => exact ⟨rfl, rfl, rfl, by simp [pastOf, pastFrom]⟩
  | append_singleton events e ih =>
    have hrun : start.run (events ++ [e]) = ((start.run events).step e).2 := by simp [run]
    rw [hrun, pastOf, pastFrom_append_singleton]
    simp only [List.flatMap_append, List.flatMap_singleton]
    exact ih.step e

/-- **The books balance after every run** from a fresh start. Hits and misses are the lookups of
users with a key. The store was asked for rows once for every miss and once for every query. Its
calls are counted by operation and by how they went, and none of them asked for a single record.
They are the calls that the link got, and they went as the link then says. -/
theorem run_balanced (policy : Policy) (maxEntries : Nat) (wall : WallTime) (store : σ)
    (network : Network) (events : List Event) :
    let start : Federation σ := ⟨.start policy maxEntries wall store, network⟩
    let past := start.pastOf events
    let users := past.flatMap fun p => p.2.lookups p.1
    let queries := past.flatMap fun p => p.2.queries
    let calls := past.flatMap fun p => p.1.callsAt p.2
    let g := (start.run events).grid
    g.cache.hits + g.cache.misses = (Grid.keyed users).length ∧
      calls.countP MadeCall.isLoad = g.cache.misses + queries.length ∧
      (∀ operation ok, g.metrics.storeQueries.value [operation, Metrics.queryStatus ok] =
        calls.countP fun c => c.1.operation = operation ∧ c.2 = ok) ∧
      (∀ c ∈ calls, ∀ userId, c.1 ≠ .get userId) ∧
      ∀ p ∈ past, p.2.isOutside = false → p.1.grid.link.makeAll ((p.1.callsAt p.2).map (·.1)) =
        (p.1.callsAt p.2, (p.1.step p.2).2.grid.link) := by
  intro start past users queries calls g
  have h : Counted users queries calls g := counted_run policy maxEntries wall store network events
  refine ⟨h.consulted, h.loaded, fun operation ok => ?_, h.noGet,
    fun p _ houtside => (p.1.books_callsAt houtside).made⟩
  have hstatus : ∀ b : Bool, Metrics.queryStatus b = Metrics.queryStatus ok ↔ b = ok := by
    intro b
    cases b <;> cases ok <;> decide
  rw [h.counted]
  refine (Counter.value_foldl_increment _ _ Tally.ordered_empty _).trans ?_
  refine (Nat.zero_add _).trans (List.countP_congr fun c _ => ?_)
  simp [hstatus]

/-- One user is looked up twice, and another one when the store fails. -/
example :
    let f : Federation MemoryStore :=
      ⟨.start ⟨1000, 500, ⟨1, by decide⟩, 1000, true⟩ 8 ⟨.epoch, 0⟩ .empty, fun _ => ⟨0, .crash⟩⟩
    let g := (f.run [.resolve "Ann", .change "Ann" .login, .setFaults ⟨false, true, none⟩,
      .resolve "Bob"]).grid
    (g.cache.hits, g.cache.misses, g.metrics.storeQueries.entries) =
      (1, 2, [(["get_all", "error"], 1), (["get_all", "success"], 1),
        (["store", "success"], 1)]) := by
  decide +kernel

end Federation

end FederatedPresence
