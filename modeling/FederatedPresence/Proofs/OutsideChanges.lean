import FederatedPresence.Proofs.Room
import Mathlib.Data.List.Induction

/-!
# How far behind a lookup is

While a grid only looks users up, others may change its store in whatever way. A lookup may then
answer from the cache, with what the store said some time ago.

**Theorem (`lookup_is_of_recent_moment`).** What a lookup finds is what counted among the user's
rows as the store was at some moment of the run: now, or less than the time ago for which such an
answer is remembered. The cache was not cleared since then, and the user was not forgotten.

**Invariant** (`Grid.SaidAt`). Every cache entry says what the store said of its key at some moment
of the run, and expires the time after that moment for which the policy remembers such an answer.
Nothing since then has ended the entry. Lookups add one such entry at the present moment, and all
else only drops entries; so it does not matter which ones an eviction or pruning drops. -/

namespace FederatedPresence

/-- What may happen to a grid that only looks users up, while others change its store. An eviction of
another entry than the oldest one is a `forget` of that entry before the lookup that needs the room. -/
inductive Occurrence (σ : Type) where
  | lookup (userId : String)
  /-- Others leave the store in some state, whatever it was before. -/
  | outside (store : σ)
  | forget (key : String)
  | forgetAll
  | prune
  | advance (ms : Nat)

/-- What is remembered under a key does not outlast this. -/
def Occurrence.Ends {σ : Type} (key : String) : Occurrence σ → Prop
  | forget other => other = key
  | forgetAll => True
  | lookup _ | outside _ | prune | advance _ => False

theorem Occurrence.ne_forget_of_not_ends {σ : Type} {key : String} {event : Occurrence σ}
    (h : ¬event.Ends key) : event ≠ .forget key := by
  rintro rfl
  exact h rfl

theorem Occurrence.ne_forgetAll_of_not_ends {σ : Type} {key : String} {event : Occurrence σ}
    (h : ¬event.Ends key) : event ≠ .forgetAll := by
  rintro rfl
  exact h trivial

namespace Grid

variable {σ : Type} [RecordStore σ]

/-- Lets something happen. -/
def meet (g : Grid σ) : Occurrence σ → Grid σ
  | .lookup userId => (g.resolve userId).2
  | .outside store => { g with link := { g.link with store := store } }
  | .forget key => (g.forget key).2
  | .forgetAll => g.forgetAll.2
  | .prune => g.prune.2
  | .advance ms => g.advance ms

/-- Lets some things happen, one after the other. -/
def meetAll (g : Grid σ) (events : List (Occurrence σ)) : Grid σ := events.foldl meet g

theorem meetAll_concat (g : Grid σ) (events : List (Occurrence σ)) (e : Occurrence σ) :
    g.meetAll (events ++ [e]) = (g.meetAll events).meet e := by
  rw [meetAll, List.foldl_append, List.foldl_cons, List.foldl_nil, meetAll]

/-- Nothing of this changes the policy, or goes wrong on the way to the store. -/
theorem policy_and_faults_meetAll (g : Grid σ) (events : List (Occurrence σ)) :
    (g.meetAll events).policy = g.policy ∧ (g.meetAll events).link.faults = g.link.faults := by
  induction events using List.reverseRecOn with
  | nil => exact ⟨rfl, rfl⟩
  | append_singleton events e ih =>
    rw [meetAll_concat, ← ih.1, ← ih.2]
    cases e with
    | lookup userId =>
      have hframe := (g.meetAll events).sameFrame_resolve userId
      exact ⟨hframe.policy, hframe.faults⟩
    | outside store => exact ⟨rfl, rfl⟩
    | forget key => exact ⟨rfl, rfl⟩
    | forgetAll => exact ⟨rfl, rfl⟩
    | prune => exact ⟨rfl, rfl⟩
    | advance ms => exact ⟨rfl, rfl⟩

/-- **One step**: entries that are left were there before, and were not ended; a lookup adds what
the store says now. -/
theorem entries_meet_cases {g : Grid σ} {event : Occurrence σ} {e : CacheEntry CachedPresence}
    (he : e ∈ (g.meet event).cache.entries) :
    (e ∈ g.cache.entries ∧ ¬event.Ends e.key) ∨
      ∃ userId rows, event = .lookup userId ∧ RecordStore.getAll g.link.store e.key = .ok rows ∧
        e.value = .ofLookup (authoritative rows) ∧ e.expiresAt = g.clock + g.policy.ttlOf e.value := by
  cases event with
  | lookup userId =>
    have he : e ∈ (g.resolve userId).2.cache.entries := he
    rw [snd_resolve] at he
    rcases g.entries_lookup_cases userId with hsame | ⟨rows, what, -, rfl, hrows, -, hadded⟩
    · rw [hsame] at he
      exact .inl ⟨he, not_false⟩
    · rcases hadded e he with rfl | ⟨-, he⟩
      · exact .inr ⟨userId, rows, rfl, hrows, rfl, rfl⟩
      · exact .inl ⟨he, not_false⟩
  | outside store => exact .inl ⟨he, not_false⟩
  | forget key =>
    obtain ⟨he, hkey⟩ := List.mem_filter.1 he
    exact .inl ⟨he, fun hends => bne_iff_ne.1 hkey hends.symm⟩
  | forgetAll => exact absurd he List.not_mem_nil
  | prune => exact .inl ⟨Cache.entries_prune_subset _ _ he, not_false⟩
  | advance ms => exact .inl ⟨he, not_false⟩

/-- The store said at some moment of a run what is remembered under a key until a time, and nothing
has ended that since. -/
def SaidAt (start : Grid σ) (events : List (Occurrence σ)) (key : String) (what : CachedPresence)
    (expiry : Nat) : Prop :=
  ∃ before after rows, events = before ++ after ∧
    RecordStore.getAll (start.meetAll before).link.store key = .ok rows ∧
    what = .ofLookup (authoritative rows) ∧
    expiry = (start.meetAll before).clock + start.policy.ttlOf what ∧
    ∀ event ∈ after, ¬event.Ends key

/-- **Every entry of a run says what the store said**, if there was none at its start. -/
theorem saidAt_of_mem_entries (start : Grid σ) (hempty : start.cache.entries = [])
    {events : List (Occurrence σ)} {e : CacheEntry CachedPresence}
    (he : e ∈ (start.meetAll events).cache.entries) :
    start.SaidAt events e.key e.value e.expiresAt := by
  induction events using List.reverseRecOn with
  | nil =>
    have he : e ∈ start.cache.entries := he
    rw [hempty] at he
    exact absurd he List.not_mem_nil
  | append_singleton events event ih =>
    rw [meetAll_concat] at he
    rcases entries_meet_cases he with ⟨he, hkeeps⟩ | ⟨userId, rows, rfl, hrows, hvalue, hexpiry⟩
    · obtain ⟨before, after, rows, rfl, hrows, hvalue, hexpiry, hafter⟩ := ih he
      refine ⟨before, after ++ [event], rows, List.append_assoc .., hrows, hvalue, hexpiry, ?_⟩
      intro d hd
      rcases List.mem_append.1 hd with hd | hd
      · exact hafter d hd
      · rwa [List.mem_singleton.1 hd]
    · rw [(policy_and_faults_meetAll start events).1] at hexpiry
      refine ⟨events, [.lookup userId], rows, rfl, hrows, hvalue, hexpiry, ?_⟩
      intro d hd
      rw [List.mem_singleton.1 hd]
      exact not_false

/-- **A lookup is never further behind than the policy says.** For every run from an empty cache in
which users are looked up, others change the store in whatever way, operators forget one user or
all, the cache is pruned and time passes: a lookup finds what counted among the rows that the store
had for the user at some moment of the run. That moment is now, or less than `ttl` ago when a record
is found, and less than `negativeTtl` ago when there is none; and it is not before the user was last
forgotten, or all were. -/
theorem lookup_is_of_recent_moment (policy : Policy) (maxEntries : Nat) (wall : WallTime) (store : σ)
    (events : List (Occurrence σ)) (userId : String) (hkey : canonicalKey userId ≠ "")
    (hasked : ∃ rows, RecordStore.getAll
      ((Grid.start policy maxEntries wall store).meetAll events).link.store (canonicalKey userId) =
        .ok rows) :
    let start := Grid.start policy maxEntries wall store
    let g := start.meetAll events
    ∃ before after rows, events = before ++ after ∧
      RecordStore.getAll (start.meetAll before).link.store (canonicalKey userId) = .ok rows ∧
      (g.resolve userId).1 = authoritative rows ∧
      (after = [] ∨ g.clock <
        (start.meetAll before).clock + policy.ttlOf (.ofLookup (g.resolve userId).1)) ∧
      ∀ event ∈ after, event ≠ .forget (canonicalKey userId) ∧ event ≠ .forgetAll := by
  intro start g
  cases hpeek : g.cache.peek? (canonicalKey userId) g.clock with
  | some what =>
    -- the cache answers
    have hfound : (g.resolve userId).1 = what.presence? := by
      rw [fst_resolve, if_neg hkey, hpeek]
    obtain ⟨e, he, hekey, hvalid, rfl⟩ := Cache.exists_entry_of_peek? hpeek
    obtain ⟨before, after, rows, hsplit, hrows, hvalue, hexpiry, hafter⟩ :=
      saidAt_of_mem_entries start rfl he
    rw [hekey] at hrows hafter
    rw [hvalue, CachedPresence.presence?_ofLookup] at hfound
    have hlive : g.clock < e.expiresAt := of_decide_eq_true hvalid
    rw [hexpiry, hvalue, ← hfound] at hlive
    exact ⟨before, after, rows, hsplit, hrows, hfound, .inr hlive, fun event h =>
      ⟨Occurrence.ne_forget_of_not_ends (hafter event h),
        Occurrence.ne_forgetAll_of_not_ends (hafter event h)⟩⟩
  | none =>
    -- the store answers
    obtain ⟨rows, hrows⟩ := hasked
    have hfaults : g.link.faults = .none := (policy_and_faults_meetAll start events).2
    have hload : (g.load (canonicalKey userId)).1 = .ok rows := by
      rw [fst_load, hfaults]
      exact hrows
    have hfound : (g.resolve userId).1 = authoritative rows := by
      rw [fst_resolve, if_neg hkey, hpeek, stored, hload]
    exact ⟨events, [], rows, (List.append_nil _).symm, hrows, hfound, .inl rfl, fun _ h =>
      absurd h List.not_mem_nil⟩

/-- A user is looked up before others store a row of the user, and again before the cache has
forgotten that there was none. -/
theorem lookup_is_of_recent_moment_outdated :
    let user := "11111111-1111-1111-1111-111111111111"
    let policy : Policy := ⟨1000, 500, ⟨1, by decide⟩, 1000, true⟩
    let start := Grid.start policy 10 ⟨.epoch, 0⟩ MemoryStore.empty
    let events := [.lookup user, .advance 300, .outside ⟨[.new user]⟩, .prune, .advance 100]
    let g := start.meetAll events
    canonicalKey user ≠ "" ∧
      (∃ rows, RecordStore.getAll g.link.store (canonicalKey user) = .ok rows) ∧
      g.link.store.startingWith (canonicalKey user) ≠ [] ∧ (g.resolve user).1 = none ∧
      ((g.meet (.forget (canonicalKey user))).resolve user).1 = some (.new user) ∧
      ∃ before after rows, events = before ++ after ∧
        RecordStore.getAll (start.meetAll before).link.store (canonicalKey user) = .ok rows ∧
        (g.resolve user).1 = authoritative rows ∧
        (after = [] ∨ g.clock <
          (start.meetAll before).clock + policy.ttlOf (.ofLookup (g.resolve user).1)) ∧
        ∀ event ∈ after, event ≠ .forget (canonicalKey user) ∧ event ≠ .forgetAll := by
  intro user policy start events g
  have hkey : canonicalKey user ≠ "" := by decide +kernel
  have hasked : ∃ rows, RecordStore.getAll g.link.store (canonicalKey user) = .ok rows := ⟨_, rfl⟩
  exact ⟨hkey, hasked, by decide +kernel, by decide +kernel, by decide +kernel,
    lookup_is_of_recent_moment policy 10 ⟨.epoch, 0⟩ MemoryStore.empty events user hkey hasked⟩

end Grid

end FederatedPresence
