import FederatedPresence.Proofs.Coherence

/-!
# Properties that runs keep

A property of a grid lasts when each thing that can happen to rows and cache keeps it: a lookup, a
change, a record from another writer, and whatever only drops cache entries or lets time pass. Every
event is made of these, requests of other grids and operators included.

**Theorem (`KeptBySteps.run`).** A property that the steps keep holds after every run from a state
in which it holds. The steps may be restricted: to changes of some user keys, among them all that
begin with a UUID, and to some records of other writers.

**Theorem (`KeptByParts.handle`).** A request changes nobody. What its parts keep, it keeps; these say
what each part counts as well, which the steps leave open.
-/

namespace FederatedPresence

/-- User keys may be changed when `Users` says so, and other writers store records that satisfy
`Rows`. -/
def Event.Within (Users : String → Prop) (Rows : Record → Prop) : Event → Prop
  | .change userId _ => Users userId
  | .writeStore record => Rows record
  | _ => True

/-- Without restrictions every event is allowed. -/
theorem Event.within_true (e : Event) : e.Within (fun _ => True) fun _ => True := by
  cases e <;> trivial

namespace Grid

variable {σ : Type} [RecordStore σ]

/-- What a reply says of a user who was looked up, if it says anything. -/
def namedPair? : Option Presence → Option (String × String)
  | some p => if p.displayName = "" then none else some (canonicalKey p.userId, p.displayName)
  | none => none

/-- **A reply names those of the users who are found with a name**, one after the other. -/
theorem namesFor_eq (g : Grid σ) (ids : List String) :
    g.namesFor ids = ((g.resolveAll ids).1.filterMap namedPair?, (g.resolveAll ids).2) := by
  induction ids generalizing g with
  | nil => rfl
  | cons id ids ih =>
    rw [namesFor, resolveAll]
    simp only [ih, List.filterMap_cons]
    rcases (g.resolve id).1 with _ | p
    · rfl
    · by_cases hname : p.displayName = ""
      · simp [namedPair?, hname]
      · simp [namedPair?, hname]

/-- What is left when another writer gave the store a record. -/
def afterOutside (g : Grid σ) (r : Record) : Grid σ := { g with link := (g.link.put r).2 }

/-! ## Requests -/

/-- A property that the parts of requests keep. -/
structure KeptByParts (I : Grid σ → Prop) : Prop where
  lookup : ∀ g, I g → ∀ userId, I (g.lookup userId).2
  load : ∀ g, I g → ∀ start, I (g.load start).2
  refuse : ∀ g, I g → ∀ e, I (g.refuse e).2
  forget : ∀ g, I g → ∀ key, I (g.forget key).2
  forgetAll : ∀ g, I g → I g.forgetAll.2
  report : ∀ g, I g → I { g with cache := g.cache.report }

namespace KeptByParts

variable {I : Grid σ → Prop} {g : Grid σ}

theorem resolve (hI : KeptByParts I) (h : I g) (userId : String) : I (g.resolve userId).2 := by
  rw [g.snd_resolve userId]
  exact hI.lookup g h userId

theorem resolveAll (hI : KeptByParts I) (h : I g) (ids : List String) : I (g.resolveAll ids).2 := by
  induction ids generalizing g with
  | nil => exact h
  | cons id ids ih => exact ih (hI.resolve h id)

theorem namesFor (hI : KeptByParts I) (h : I g) (ids : List String) : I (g.namesFor ids).2 := by
  rw [g.namesFor_eq]
  exact hI.resolveAll h ids

theorem namesReply (hI : KeptByParts I) (h : I g) (form : String) : I (g.namesReply form).2 := by
  unfold Grid.namesReply
  split
  · exact h
  · exact hI.namesFor h _

theorem usersResponse (hI : KeptByParts I) (h : I g) (start : String) :
    I (g.usersResponse start).2 := by
  have hload := hI.load g h start
  unfold Grid.usersResponse listRecords
  split
  · exact hI.refuse g h _
  · generalize g.load start = loaded at hload ⊢
    rcases loaded with ⟨e | records, g'⟩
    · exact hI.refuse g' hload e
    · exact hload

theorem onlineResponse (hI : KeptByParts I) (h : I g) : I g.onlineResponse.2 := by
  have hload := hI.load g h ""
  unfold Grid.onlineResponse countRecentlyOnline
  generalize g.load "" = loaded at hload ⊢
  rcases loaded with ⟨e | rows, g'⟩
  · exact hI.refuse g' hload e
  · exact hload

theorem presenceResponse (hI : KeptByParts I) (h : I g) (userId : String) :
    I (g.presenceResponse userId).2 := by
  have hresolve := hI.resolve h userId
  unfold Grid.presenceResponse
  generalize g.resolve userId = resolved at hresolve ⊢
  rcases resolved with ⟨none | p, g'⟩
  · exact hI.refuse g' hresolve _
  · exact hresolve

omit [RecordStore σ] in
theorem afterReading {α : Type} {answer : α → Http.Response × Grid σ} (h : I g)
    (hanswer : ∀ a, I (answer a).2) (read : Except Http.Response α) :
    I (g.afterReading read answer).2 := by
  cases read with
  | error r => exact h
  | ok a => exact hanswer a

theorem serve (hI : KeptByParts I) (h : I g) (r : Http.Request) (route : Route) :
    I (g.serve r route).2 := by
  cases route with
  | health => exact h
  | metrics => exact hI.report g h
  | displayNames => exact afterReading h (fun form => hI.namesReply h form) _
  | users => exact afterReading h (fun start => hI.usersResponse h start) _
  | usersOnline => exact hI.onlineResponse h
  | presence segment =>
    refine afterReading h (fun userId => ?_) _
    split
    · exact hI.forget g h (canonicalKey userId)
    · exact hI.presenceResponse h userId
  | cache => exact hI.forgetAll g h

/-- **A request keeps what its parts keep.** -/
theorem handle (hI : KeptByParts I) (h : I g) (r : Http.Request) : I (g.handle r).2 := by
  unfold Grid.handle
  split
  · exact h
  · split
    · exact hI.serve h r _
    · exact h

end KeptByParts

/-! ## Steps -/

/-- A property that the steps keep. -/
structure KeptBySteps (Users : String → Prop) (Rows : Record → Prop) (I : Grid σ → Prop) : Prop where
  /-- Visitors' names are stored under user keys that begin with a UUID. -/
  users : ∀ userId, HasUuidKey userId → Users userId
  lookup : ∀ g, I g → ∀ userId, I (g.lookup userId).2
  update : ∀ g, I g → ∀ userId, Users userId → ∀ change, I (g.update userId change).2
  outside : ∀ g, I g → ∀ r, Rows r → I (g.afterOutside r)
  /-- Cache entries may go, and time may pass. -/
  quiet : ∀ g g', I g → g'.policy = g.policy → g'.link.store = g.link.store →
    g.cache.DropsTo g'.cache → g.clock ≤ g'.clock → I g'

namespace KeptBySteps

variable {Users : String → Prop} {Rows : Record → Prop} {I : Grid σ → Prop} {g g' : Grid σ}

/-- Counts, faults, the wall clock and the requests to other grids do not matter. -/
theorem same (hI : KeptBySteps Users Rows I) (h : I g) (hpolicy : g'.policy = g.policy)
    (hstore : g'.link.store = g.link.store) (hcache : g'.cache = g.cache)
    (hclock : g'.clock = g.clock) : I g' :=
  hI.quiet g g' h hpolicy hstore (hcache ▸ .refl _) (Nat.le_of_eq hclock.symm)

/-- The parts of requests are steps. -/
theorem parts (hI : KeptBySteps Users Rows I) : KeptByParts I where
  lookup := hI.lookup
  load _ h _ := hI.same h rfl rfl rfl rfl
  refuse _ h _ := hI.same h rfl rfl rfl rfl
  forget g h key := hI.quiet g _ h rfl rfl (g.cache.dropsTo_invalidate key) (Nat.le_refl _)
  forgetAll g h := hI.quiet g _ h rfl rfl g.cache.dropsTo_clear (Nat.le_refl _)
  report g h := hI.quiet g _ h rfl rfl g.cache.dropsTo_report (Nat.le_refl _)

/-! ## Refreshing names -/

theorem refresh (hI : KeptBySteps Users Rows I) (h : I g) (net : Network) (entries : List Presence) :
    I (g.refresh net entries).2 :=
  refresh_induction net entries h
    (fun _ => hI.quiet g _ h rfl rfl (.refl _) (Nat.le_add_right _ _))
    (fun g' p hg' hp => hI.update g' hg' p.userId (hI.users p.userId hp) _)
    (fun _ _ hg' => hI.same hg' rfl rfl rfl rfl)

theorem presenceInfo (hI : KeptBySteps Users Rows I) (h : I g) (net : Network) (ids : List String)
    (refreshNames : Bool) : I (g.presenceInfo net ids refreshNames).2 := by
  rcases g.snd_presenceInfo_cases net ids refreshNames with hsnd | ⟨entries, hsnd⟩
  · rw [hsnd]
    exact hI.parts.resolveAll h ids
  · rw [hsnd]
    exact hI.refresh (hI.parts.resolveAll h ids) net entries

/-! ## Events -/

/-- **An event keeps what the steps keep.** -/
theorem step (hI : KeptBySteps Users Rows I) {f : Federation σ} (h : I f.grid) {e : Event}
    (he : e.Within Users Rows) : I (f.step e).2.grid := by
  cases e with
  | resolve userId => exact hI.parts.resolve h userId
  | change userId change => exact hI.update f.grid h userId he change
  | presenceInfo userIds refreshNames => exact hI.presenceInfo h f.network userIds refreshNames
  | refresh entries => exact hI.refresh h f.network entries
  | listRecords start => exact hI.parts.load f.grid h start
  | countRecentlyOnline => exact hI.parts.load f.grid h ""
  | serve request => exact hI.parts.handle h request
  | forget key => exact hI.parts.forget f.grid h key
  | forgetAll => exact hI.parts.forgetAll f.grid h
  | prune => exact hI.quiet f.grid _ h rfl rfl (Cache.dropsTo_prune _ _) (Nat.le_refl _)
  | advance ms => exact hI.quiet f.grid _ h rfl rfl (.refl _) (Nat.le_add_right _ _)
  | setWall time => exact hI.same h rfl rfl rfl rfl
  | setFaults faults => exact hI.same h rfl rfl rfl rfl
  | setNetwork network => exact h
  | readStore userId => exact hI.same h rfl rfl rfl rfl
  | writeStore record => exact hI.outside f.grid h record he

/-- **A run keeps what the steps keep.** -/
theorem run (hI : KeptBySteps Users Rows I) {f : Federation σ} (h : I f.grid) {events : List Event}
    (hevents : ∀ e ∈ events, e.Within Users Rows) : I (f.run events).grid := by
  induction events generalizing f with
  | nil => exact h
  | cons e es ih =>
    exact ih (hI.step h (hevents e List.mem_cons_self)) fun d hd =>
      hevents d (List.mem_cons_of_mem _ hd)

end KeptBySteps

/-- No event changes the policy. -/
theorem policy_run (policy : Policy) (maxEntries : Nat) (wall : WallTime) (store : σ)
    (network : Network) (events : List Event) :
    ((⟨.start policy maxEntries wall store, network⟩ : Federation σ).run events).grid.policy =
      policy := by
  have hkept : KeptBySteps (fun _ => True) (fun _ => True) fun g : Grid σ => g.policy = policy :=
    { users _ _ := trivial
      lookup g h userId := (g.sameFrame_lookup userId).policy.trans h
      update g h userId _ change := (g.sameFrame_update userId change).policy.trans h
      outside _ h _ _ := h
      quiet _ _ h hpolicy _ _ _ := hpolicy.trans h }
  exact hkept.run (f := ⟨.start policy maxEntries wall store, network⟩) rfl fun e _ => e.within_true

end Grid

end FederatedPresence
