import FederatedPresence.Proofs.NewEntries
import FederatedPresence.Proofs.Runs

/-!
# What holds of every remembered record

A record gets into the cache in two ways: it is decoded from a row that was looked up, or it comes
about by a change of a record that was found, or of a new one. What holds of records from rows and of
new records, and is kept by changes (`FromRows`), holds of every record in the cache, in every state
of every run (`Remembers.run`), and so of every record that is found (`Remembers.fst_lookup`).

Two such properties are used elsewhere: the extra fields have names of their own
(`fromRows_extraOnly`), and the user key begins with the key that the record is filed under
(`fromRows_beginsWith`).
-/

namespace FederatedPresence.Grid

variable {σ : Type} [RecordStore σ]

/-- A property of records under canonical keys that rows and new records have and changes keep. -/
structure FromRows (σ : Type) [RecordStore σ] (P : String → Presence → Prop) : Prop where
  loaded : ∀ (s : σ) key rows p, RecordStore.getAll s key = .ok rows →
    authoritative rows = some p → P key p
  new : ∀ userId, P (canonicalKey userId) (.new userId)
  change : ∀ key now p (c : Change), P key p → P key (c.apply now p)

/-- Cached records have a property, under the keys that they are filed under. -/
def Remembers (P : String → Presence → Prop) (g : Grid σ) : Prop :=
  ∀ e ∈ g.cache.entries, ∀ p, e.value = .found p → P e.key p

namespace Remembers

variable {P : String → Presence → Prop} {g g' : Grid σ}

omit [RecordStore σ] in
theorem start (P : String → Presence → Prop) (policy : Policy) (maxEntries : Nat) (wall : WallTime)
    (store : σ) : Remembers P (Grid.start policy maxEntries wall store) := by
  intro e he
  exact absurd he List.not_mem_nil

omit [RecordStore σ] in
theorem of_subset (h : Remembers P g) (hentries : g'.cache.entries ⊆ g.cache.entries) :
    Remembers P g' := fun e he => h e (hentries he)

theorem lookup (hP : FromRows σ P) (h : Remembers P g) (userId : String) :
    Remembers P (g.lookup userId).2 := by
  rcases g.entries_lookup_cases userId with hsame | ⟨rows, what, -, rfl, hrows, -, hentries⟩
  · exact h.of_subset (hsame ▸ List.Subset.refl _)
  · intro e he p hp
    rcases hentries e he with rfl | ⟨-, he⟩
    · cases hfound : authoritative rows with
      | none => simp [hfound, CachedPresence.ofLookup] at hp
      | some q =>
        obtain rfl : q = p := by simpa [hfound, CachedPresence.ofLookup] using hp
        exact hP.loaded _ _ _ _ hrows hfound
    · exact h e he p hp

theorem resolve (hP : FromRows σ P) (h : Remembers P g) (userId : String) :
    Remembers P (g.resolve userId).2 := by
  rw [g.snd_resolve userId]
  exact h.lookup hP userId

/-- **What holds of every remembered record holds of every record that is found.** -/
theorem fst_lookup (hP : FromRows σ P) (h : Remembers P g) {userId : String} {p : Presence}
    (hp : (g.lookup userId).1 = .ok (some p)) : P (canonicalKey userId) p := by
  rcases g.lookup_cases userId with ⟨-, hl⟩ | ⟨v, -, hpeek, hl⟩ | ⟨-, hl⟩
  · rw [hl] at hp
    exact absurd hp (by simp)
  · rw [hl] at hp
    obtain ⟨e, he, hkey, -, rfl⟩ := Cache.exists_entry_of_peek? hpeek
    cases hvalue : e.value with
    | missing => simp [hvalue, CachedPresence.presence?] at hp
    | found q =>
      obtain rfl : q = p := by simpa [hvalue, CachedPresence.presence?] using hp
      exact hkey ▸ h e he q hvalue
  · rw [hl] at hp
    rcases consultStore_cases (g.consultCache (canonicalKey userId)).2 (canonicalKey userId) with
      ⟨e, -, hc⟩ | ⟨rows, hrows, hc⟩
    · rw [hc] at hp
      exact absurd hp (by simp)
    · rw [hc] at hp
      injection hp with hp
      exact hP.loaded _ _ _ _ (getAll_of_load hrows) hp

/-- It holds of the record that a change is made to. -/
theorem getD_lookup (hP : FromRows σ P) (h : Remembers P g) {userId : String}
    {found : Option Presence} (hfound : (g.lookup userId).1 = .ok found) :
    P (canonicalKey userId) (found.getD (.new userId)) := by
  cases found with
  | none => exact hP.new userId
  | some p => exact h.fst_lookup hP hfound

theorem update (hP : FromRows σ P) (h : Remembers P g) (userId : String) (change : Change) :
    Remembers P (g.update userId change).2 := by
  rcases g.update_kept_cases userId change with
    ⟨-, hcache⟩ | ⟨found, p, -, hfound, rfl, -, -, hcache⟩
  · exact (h.lookup hP userId).of_subset (hcache ▸ List.Subset.refl _)
  · intro e he q hq
    rw [hcache] at he
    rcases Cache.mem_entries_put he with rfl | ⟨-, he⟩
    · injection hq with hq
      exact hq ▸ hP.change _ g.now _ change (h.getD_lookup hP hfound)
    · exact h.lookup hP userId e he q hq

theorem keptBySteps (hP : FromRows σ P) :
    KeptBySteps (fun _ => True) (fun _ => True) fun g : Grid σ => Remembers P g where
  users _ _ := trivial
  lookup _ h userId := h.lookup hP userId
  update _ h userId _ change := h.update hP userId change
  outside _ h _ _ := h
  quiet _ _ h _ _ hcache _ := h.of_subset hcache.entries.subset

/-- **It holds in every state of every run** of a service that starts with an empty cache. -/
theorem run (hP : FromRows σ P) (policy : Policy) (maxEntries : Nat) (wall : WallTime) (store : σ)
    (network : Network) (events : List Event) :
    Remembers P ((⟨.start policy maxEntries wall store, network⟩ : Federation σ).run events).grid :=
  (keptBySteps hP).run (f := ⟨.start policy maxEntries wall store, network⟩)
    (start P policy maxEntries wall store) fun e _ => e.within_true

end Remembers

/-- Rows are decoded to records whose extra fields have names of their own, and no change touches
them. -/
theorem fromRows_extraOnly : FromRows σ fun _ p => p.ExtraOnly where
  loaded _ _ _ _ _ hp := by
    obtain ⟨r, -, rfl⟩ := exists_mem_of_authoritative hp
    exact Presence.extraOnly_ofRecord r
  new := Presence.extraOnly_new
  change _ now _ c h := Change.extraOnly_apply now h c

/-- Rows in memory are looked up by an initial part of their user keys, which no change touches. -/
theorem fromRows_beginsWith : FromRows MemoryStore fun key p => beginsWith key p.userId = true where
  loaded s key rows p hrows hp := by
    obtain rfl : s.startingWith key = rows := by injection hrows
    exact MemoryStore.beginsWith_of_winner hp
  new := beginsWith_canonicalKey
  change _ now p c h := by rwa [Change.userId_apply]

end FederatedPresence.Grid
