import FederatedPresence.Proofs.Eviction
import FederatedPresence.Proofs.Stored

/-!
# What a kept change changes

A change that is kept is made to the record that the lookup gave, or to a new one.

**In the record** it sets the fields that it is about and no others (`Change.Sets`).

**In the store** only the first row of the record's user key changes, or a row is added behind all
others (`Placed`). The row decodes to the changed record and has the fields of other names as they
were.

**In the cache** only the user's entry changes, except that another one may have to make room
(`Cache.SlotChanged`). A change may put two values under the key, that of the lookup and its own; at
the same time, this does the same as putting the second only (`Cache.put_put`). So what has
to make room is what it is for any put.

**Theorem (`kept_change`).** All this holds of every change that is kept, in every state of every
run, whatever the rows are and whoever else writes to the store. -/

namespace FederatedPresence

/-! ## Rows -/

/-- A record is put in the place of the first row of its user key, or behind all rows. -/
inductive Placed (r : Record) : List Record → List Record → Prop where
  | replaced {before after : List Record} {old : Record} :
    (∀ e ∈ before, e.userId ≠ r.userId) → old.userId = r.userId →
      Placed r (before ++ old :: after) (before ++ r :: after)
  | added {rows : List Record} : (∀ e ∈ rows, e.userId ≠ r.userId) → Placed r rows (rows ++ [r])

theorem placed_placeRecord (r : Record) (rows : List Record) :
    Placed r rows (placeRecord r rows) := by
  induction rows with
  | nil => exact .added (by simp)
  | cons e rows ih =>
    rw [placeRecord]
    by_cases he : e.userId = r.userId
    · rw [if_pos he]
      exact @Placed.replaced r [] rows e (by simp) he
    · rw [if_neg he]
      generalize placeRecord r rows = placed at ih
      cases ih with
      | @replaced before after old hbefore hold =>
        have hall : ∀ d ∈ e :: before, d.userId ≠ r.userId :=
          List.forall_mem_cons.2 ⟨he, hbefore⟩
        exact Placed.replaced hall hold
      | added hrows => exact .added (List.forall_mem_cons.2 ⟨he, hrows⟩)

/-! ## Fields -/

namespace Presence

/-- Where the user lives. -/
def homePlace (p : Presence) : Place := ⟨p.homeRegion, p.homePosition, p.homeLookAt⟩

/-- Where the user was last. -/
def latestPlace (p : Presence) : Place := ⟨p.lastRegion, p.lastPosition, p.lastLookAt⟩

end Presence

namespace Change

/-- The home that a change sets. -/
def home? : Change → Option Place
  | home place => some place
  | _ => none

/-- The latest place that a change sets. -/
def latestPlace? : Change → Option Place
  | logout place | lastPlace place => some place
  | _ => none

/-- Whether a change sets the user online. -/
def online? : Change → Option Bool
  | login => some true
  | logout _ => some false
  | _ => none

/-- The time of login that a change sets. -/
def login? (now : Timestamp) : Change → Option Timestamp
  | login => some now
  | _ => none

/-- The time of logout that a change sets. -/
def logout? (now : Timestamp) : Change → Option Timestamp
  | logout _ => some now
  | _ => none

/-- The name that a change sets. -/
def name? : Change → Option String
  | rename name => some name
  | _ => none

/-- The time of the name that a change sets. -/
def nameCached? (now : Timestamp) : Change → Option Timestamp
  | rename _ => some now
  | _ => none

/-- A record is another one with what a change at a time sets, field by field. -/
structure Sets (change : Change) (now : Timestamp) (old new : Presence) : Prop where
  userId : new.userId = old.userId
  homePlace : new.homePlace = change.home?.getD old.homePlace
  latestPlace : new.latestPlace = change.latestPlace?.getD old.latestPlace
  online : new.online = change.online?.getD old.online
  login : new.login = (change.login? now).getD old.login
  logout : new.logout = (change.logout? now).getD old.logout
  displayName : new.displayName = change.name?.getD old.displayName
  nameCached : new.nameCached = (change.nameCached? now).getD old.nameCached
  extra : new.extra = old.extra

theorem sets_apply (change : Change) (now : Timestamp) (old : Presence) :
    change.Sets now old (change.apply now old) := by
  cases change with
  | login => exact ⟨rfl, rfl, rfl, rfl, rfl, rfl, rfl, rfl, rfl⟩
  | logout place => exact ⟨rfl, rfl, rfl, rfl, rfl, rfl, rfl, rfl, rfl⟩
  | home place => exact ⟨rfl, rfl, rfl, rfl, rfl, rfl, rfl, rfl, rfl⟩
  | lastPlace place => exact ⟨rfl, rfl, rfl, rfl, rfl, rfl, rfl, rfl, rfl⟩
  | rename name => exact ⟨rfl, rfl, rfl, rfl, rfl, rfl, rfl, rfl, rfl⟩

end Change

/-! ## Entries -/

namespace Cache

variable {α : Type} {c d : Cache α} {key : String} {now : Nat}

/-- One slot of a cache changes. What else was valid stays, unless the key is new and the cache is
full of valid entries: then one of them makes room. -/
structure SlotChanged (c c' : Cache α) (new : CacheEntry α) (now : Nat) : Prop where
  found : c'.find? new.key = some new
  others : ∀ e ∈ c'.entries, e = new ∨ e.key ≠ new.key ∧ e ∈ c.entries
  stays : ¬(c.NeedsRoom new.key ∧ c.AllValid now) → c'.evictions = c.evictions ∧
    ∀ e ∈ c.entries, e.key ≠ new.key → e.isValid now = true → e ∈ c'.entries
  makesRoom : c.NeedsRoom new.key → c.AllValid now → c'.evictions = c.evictions + 1 ∧
    ∃ o ∈ c.entries, ∀ e ∈ c.entries, e ∈ c'.entries ↔ e ≠ o

/-- **A put changes one slot.** -/
theorem slotChanged_put (hc : c.WellFormed) (key : String) (value : α) (ttl now : Nat) :
    c.SlotChanged (c.put key value ttl now) ⟨key, value, now, now + ttl⟩ now where
  found := find?_put c key value ttl now
  others _ he := mem_entries_put he
  stays hroom := by
    show (c.roomFor key now).evictions = _ ∧ _
    by_cases hneeds : c.NeedsRoom key
    · rw [roomFor_of_expired hneeds fun hall => hroom ⟨hneeds, hall⟩]
      refine ⟨rfl, fun e he hne hvalid => (mem_put_iff value ttl hne).2 ?_⟩
      rw [roomFor_of_expired hneeds fun hall => hroom ⟨hneeds, hall⟩]
      exact List.mem_filter.2 ⟨he, hvalid⟩
    · rw [roomFor_of_not_needsRoom hneeds]
      refine ⟨rfl, fun e he hne _ => (mem_put_iff value ttl hne).2 ?_⟩
      rwa [roomFor_of_not_needsRoom hneeds]
  makesRoom hneeds hall := by
    obtain ⟨o, ho, hevict, -⟩ := evictOldest_eq (hc.entries_ne_nil hneeds)
    have hmem := List.mem_of_mem_take ho
    show (c.roomFor key now).evictions = _ ∧ _
    rw [roomFor_of_allValid hneeds hall]
    refine ⟨rfl, o, hmem, fun e he => ?_⟩
    have hne : e.key ≠ key := fun hkey => hneeds.1 (List.mem_map.2 ⟨e, he, hkey⟩)
    rw [mem_put_iff value ttl hne, roomFor_of_allValid hneeds hall]
    show e ∈ evictOldest c.entries ↔ _
    rw [hevict, without, List.mem_filter, bne_iff_ne]
    constructor
    · rintro ⟨-, hkey⟩ rfl
      exact hkey rfl
    · intro hother
      exact ⟨he, fun hkey => hother (List.inj_on_of_nodup_map hc.nodup he hmem hkey)⟩

/-- What has to make room depends on the entries and on how many there may be. -/
theorem roomFor_congr (hentries : d.entries = c.entries) (hcapacity : d.capacity = c.capacity)
    (hevictions : d.evictions = c.evictions) (key : String) (now : Nat) :
    (d.roomFor key now).entries = (c.roomFor key now).entries ∧
      (d.roomFor key now).evictions = (c.roomFor key now).evictions := by
  have hneeds : d.NeedsRoom key ↔ c.NeedsRoom key := by
    rw [NeedsRoom, NeedsRoom, hcapacity, size, size, hentries]
  have hvalid : d.AllValid now ↔ c.AllValid now := by rw [AllValid, AllValid, hentries]
  by_cases hroom : c.NeedsRoom key
  · by_cases hall : c.AllValid now
    · rw [roomFor_of_allValid hroom hall, roomFor_of_allValid (hneeds.2 hroom) (hvalid.2 hall)]
      exact ⟨congrArg evictOldest hentries, congrArg (· + 1) hevictions⟩
    · rw [roomFor_of_expired hroom hall,
        roomFor_of_expired (hneeds.2 hroom) fun h => hall (hvalid.1 h)]
      exact ⟨congrArg (validEntries now) hentries, hevictions⟩
  · rw [roomFor_of_not_needsRoom hroom, roomFor_of_not_needsRoom fun h => hroom (hneeds.1 h)]
    exact ⟨hentries, hevictions⟩

theorem put_congr (hentries : d.entries = c.entries) (hcapacity : d.capacity = c.capacity)
    (hevictions : d.evictions = c.evictions) (key : String) (value : α) (ttl now : Nat) :
    (d.put key value ttl now).entries = (c.put key value ttl now).entries ∧
      (d.put key value ttl now).evictions = (c.put key value ttl now).evictions := by
  obtain ⟨hroom, hcount⟩ := roomFor_congr hentries hcapacity hevictions key now
  refine ⟨?_, hcount⟩
  rw [entries_put, hroom, entries_put]

/-- **Of two values put under a key at the same time, the second one is all that counts.** -/
theorem put_put (c : Cache α) (key : String) (first second : α) (ttl ttl' now : Nat) :
    ((c.put key first ttl now).put key second ttl' now).entries =
        (c.put key second ttl' now).entries ∧
      ((c.put key first ttl now).put key second ttl' now).evictions =
        (c.put key second ttl' now).evictions := by
  have hold : ¬(c.put key first ttl now).NeedsRoom key := by
    rintro ⟨hnew, -⟩
    rw [entries_put, List.map_append] at hnew
    exact hnew (List.mem_append_right _ List.mem_cons_self)
  constructor
  · rw [entries_put, roomFor_of_not_needsRoom hold, entries_put, entries_put, without, without,
      List.filter_append, List.filter_filter]
    simp
  · show ((c.put key first ttl now).roomFor key now).evictions = _
    rw [roomFor_of_not_needsRoom hold]
    rfl

theorem SlotChanged.congr {c' c'' : Cache α} {new : CacheEntry α} (h : c.SlotChanged c' new now)
    (hentries : c''.entries = c'.entries) (hevictions : c''.evictions = c'.evictions) :
    c.SlotChanged c'' new now where
  found := by
    rw [find?, hentries]
    exact h.found
  others := hentries ▸ h.others
  stays := by
    rw [hentries, hevictions]
    exact h.stays
  makesRoom := by
    rw [hentries, hevictions]
    exact h.makesRoom

end Cache

namespace Grid

variable {σ : Type} [RecordStore σ]

/-! ## The cache of a service -/

/-- A lookup only counts, or puts what the store said. -/
theorem cache_lookup_cases (g : Grid σ) {userId : String} (hkey : canonicalKey userId ≠ "") :
    (g.lookup userId).2.cache = (g.cache.get (canonicalKey userId) g.clock).2 ∨
      ∃ what, (g.lookup userId).2.cache = (g.cache.get (canonicalKey userId) g.clock).2.put
        (canonicalKey userId) what (g.policy.ttlOf what) g.clock := by
  rcases g.lookup_cases userId with ⟨hempty, -⟩ | ⟨v, -, -, h⟩ | ⟨-, h⟩
  · exact absurd hempty hkey
  · exact .inl (by rw [h]; rfl)
  · rcases consultStore_cases (g.consultCache (canonicalKey userId)).2 (canonicalKey userId) with
      ⟨e, -, hc⟩ | ⟨rows, -, hc⟩
    · exact .inl (by rw [h, hc]; rfl)
    · exact .inr ⟨_, by rw [h, hc]; rfl⟩

theorem wellFormed_lookup {g : Grid σ} (h : g.cache.WellFormed) (userId : String) :
    (g.lookup userId).2.cache.WellFormed := by
  by_cases hkey : canonicalKey userId = ""
  · rw [lookup, if_pos hkey]
    exact h
  · rcases g.cache_lookup_cases hkey with hcache | ⟨what, hcache⟩
    · rw [hcache]
      exact h.get _ _
    · rw [hcache]
      exact (h.get _ _).put _ _ _ _

theorem wellFormed_update {g : Grid σ} (h : g.cache.WellFormed) (userId : String)
    (change : Change) : (g.update userId change).2.cache.WellFormed := by
  rcases g.update_kept_cases userId change with ⟨-, hcache⟩ | ⟨_, p, -, -, -, -, -, hcache⟩
  · rw [hcache]
    exact wellFormed_lookup h userId
  · rw [hcache]
    exact (wellFormed_lookup h userId).put _ _ _ _

theorem keptBySteps_wellFormed :
    KeptBySteps (fun _ => True) (fun _ => True) fun g : Grid σ => g.cache.WellFormed where
  users _ _ := trivial
  lookup _ h userId := wellFormed_lookup h userId
  update _ h userId _ change := wellFormed_update h userId change
  outside _ h _ _ := h
  quiet _ _ h _ _ hcache _ := h.of_dropsTo hcache

/-- **The cache of a service is well-formed in every state of every run.** -/
theorem wellFormed_run (policy : Policy) (maxEntries : Nat) (wall : WallTime) (store : σ)
    (network : Network) (events : List Event) :
    ((⟨.start policy maxEntries wall store, network⟩ : Federation σ).run
      events).grid.cache.WellFormed :=
  keptBySteps_wellFormed.run (f := ⟨.start policy maxEntries wall store, network⟩)
    (Cache.WellFormed.empty cacheName maxEntries) fun e _ => e.within_true

/-- **A change that is kept changes one slot**, even if the lookup before it had to ask. -/
theorem slotChanged_update {g : Grid σ} (hc : g.cache.WellFormed) {userId : String}
    {change : Change} {p : Presence} (hp : (g.update userId change).1 = some p) :
    g.cache.SlotChanged (g.update userId change).2.cache
      ⟨canonicalKey userId, .found p, g.clock, g.clock + g.policy.ttl⟩ g.clock := by
  rcases g.update_kept_cases userId change with
    ⟨hnone, -⟩ | ⟨found, q, hkey, -, -, hsome, -, hcache⟩
  · rw [hnone] at hp
    cases hp
  · obtain rfl : q = p := by
      rw [hsome] at hp
      injection hp
    have hput := Cache.slotChanged_put hc (canonicalKey userId) (.found q) g.policy.ttl g.clock
    have hget := Cache.put_congr (g.cache.entries_get (canonicalKey userId) g.clock)
      (g.cache.capacity_get _ _) (g.cache.evictions_get _ _) (canonicalKey userId)
      (CachedPresence.found q) g.policy.ttl g.clock
    rcases g.cache_lookup_cases hkey with hlookup | ⟨what, hlookup⟩
    · rw [hlookup] at hcache
      rw [hcache]
      exact hput.congr hget.1 hget.2
    · have htwice := (g.cache.get (canonicalKey userId) g.clock).2.put_put (canonicalKey userId)
        what (.found q) (g.policy.ttlOf what) g.policy.ttl g.clock
      rw [hlookup] at hcache
      rw [hcache]
      exact hput.congr (htwice.1.trans hget.1) (htwice.2.trans hget.2)

end Grid

/-! ## Kept changes -/

/-- **What a kept change changes.** The record that it is made to is the one that the lookup gave,
or a new one. The store has the changed record in one row, which decodes to it and carries the
fields of other names; all other rows and their order are as before. The cache has it in the user's
slot, valid for as long as the policy says. -/
theorem kept_change (policy : Policy) (maxEntries : Nat) (wall : WallTime) (rows : List Record)
    (network : Network) (events : List Event) (userId : String) (change : Change) (p : Presence) :
    let start : Federation MemoryStore := ⟨.start policy maxEntries wall ⟨rows⟩, network⟩
    let g := (start.run events).grid
    let g' := (g.update userId change).2
    (g.update userId change).1 = some p →
      ∃ found row, (g.lookup userId).1 = .ok found ∧
        change.Sets g.wall.second (found.getD (.new userId)) p ∧
        Placed row g.link.store.rows g'.link.store.rows ∧ row.userId = p.userId ∧
        Presence.ofRecord row = p ∧
        (∀ name ∉ Presence.fieldNames, row.get? name = (found.getD (.new userId)).extra.get? name) ∧
        g.cache.SlotChanged g'.cache
          ⟨canonicalKey userId, .found p, g.clock, g.clock + policy.ttl⟩ g.clock := by
  intro start g g' hp
  have hremembers : g.Remembers fun _ p => p.ExtraOnly :=
    Grid.Remembers.run Grid.fromRows_extraOnly policy maxEntries wall _ network events
  have hpolicy : g.policy = policy := Grid.policy_run policy maxEntries wall _ network events
  have hcache := Grid.slotChanged_update
    (Grid.wellFormed_run policy maxEntries wall _ network events) hp
  rcases g.update_memory_cases userId change with
    ⟨hnone, -⟩ | ⟨found, q, -, hfound, rfl, hsome, hstore, -⟩
  · rw [hnone] at hp
    cases hp
  · obtain rfl : change.apply g.now (found.getD (.new userId)) = p := by
      rw [hsome] at hp
      injection hp
    have hextra : (found.getD (.new userId)).ExtraOnly :=
      hremembers.getD_lookup Grid.fromRows_extraOnly hfound
    have hchanged := Change.extraOnly_apply g.now hextra change
    refine ⟨found, _, hfound, change.sets_apply g.now _, ?_, rfl,
      Presence.ofRecord_toRecord hchanged, fun name hname => ?_, hpolicy ▸ hcache⟩
    · show Placed _ _ (g.update userId change).2.link.store.rows
      rw [hstore]
      exact placed_placeRecord _ _
    · rw [Presence.get?_toRecord_extra _ hname, Change.extra_apply]

/-- A visitor with two rows logs out, and takes the only slot of the cache from another user. -/
theorem kept_change_visitor :
    let user := "11111111-1111-1111-1111-111111111111"
    let visitor := "22222222-2222-2222-2222-222222222222@grid.example.org"
    let first : Record := ⟨visitor, .ofList [("Login", "7"), ("Mood", "calm")]⟩
    let second : Record := ⟨visitor, .ofList [("Login", "5")]⟩
    let start : Federation MemoryStore :=
      ⟨.start ⟨1000, 500, ⟨1, by decide⟩, 1000, true⟩ 1 ⟨⟨60, by decide, by decide⟩, 5⟩
        ⟨[first, second]⟩, fun _ => ⟨0, .crash⟩⟩
    let g := (start.run [.change user .login]).grid
    let g' := (g.update visitor (.logout ⟨.nil, .zero, .zero⟩)).2
    ∃ p row, (g.update visitor (.logout ⟨.nil, .zero, .zero⟩)).1 = some p ∧
      Placed row g.link.store.rows g'.link.store.rows ∧ Presence.ofRecord row = p ∧
      row.get? "Mood" = some "calm" ∧ p.online = false ∧ p.logout.seconds = 60 ∧
      g'.link.store.rows.length = 3 ∧ g'.cache.evictions = 1 := by
  intro user visitor first second start g g'
  have hkept : (g.update visitor (.logout ⟨.nil, .zero, .zero⟩)).1.isSome = true := by
    decide +kernel
  obtain ⟨p, hp⟩ := Option.isSome_iff_exists.1 hkept
  obtain ⟨found, row, hfound, hsets, hplaced, -, hdecoded, hextra, hslot⟩ :=
    kept_change _ _ _ _ _ [.change user .login] visitor (.logout ⟨.nil, .zero, .zero⟩) p hp
  have hcalm : (match (g.lookup visitor).1 with
      | .ok found => (found.getD (.new visitor)).extra.get? "Mood"
      | .error _ => none) = some "calm" := by
    decide +kernel
  have hneeds : g.cache.NeedsRoom (canonicalKey visitor) := ⟨by decide +kernel, by decide +kernel⟩
  have hall : g.cache.AllValid g.clock := by
    unfold Cache.AllValid
    decide +kernel
  refine ⟨p, row, hp, hplaced, hdecoded, ?_, hsets.online, ?_, by decide +kernel, ?_⟩
  · rw [hextra "Mood" (by decide)]
    rwa [hfound] at hcalm
  · have hwall : g.wall.second.seconds = 60 := by decide +kernel
    rw [hsets.logout]
    exact hwall
  · rw [(hslot.makesRoom hneeds hall).1]
    decide +kernel

end FederatedPresence
