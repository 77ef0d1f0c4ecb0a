import FederatedPresence.Proofs.GridSteps
import FederatedPresence.Store.Table

/-!
# Changes that fail

A change first looks the user up, which may fill the cache, and may drop entries to make room. Only
then is the changed record given to the store, and it is remembered only when the store kept it.

**Theorem (`update_failed`).** A change that gives no record leaves rows and cache as looking the
user up leaves them. Either there was nothing to change, since the user key is empty or the lookup
failed, and then rows and cache entries are those from before; or the store refused the changed
record.

The store may be of any kind and in any state, and anything may go wrong on the way to it; it is
only assumed that a record that the store does not take leaves no trace in it (`RefusesCleanly`).
-/

namespace FederatedPresence

/-- A record that is not taken changes nothing in the store. -/
def RefusesCleanly (σ : Type) [RecordStore σ] : Prop :=
  ∀ (s s' : σ) (r : Record), RecordStore.store s r = .ok (false, s') → s' = s

theorem MemoryStore.refusesCleanly : RefusesCleanly MemoryStore := by
  intro s s' r h
  exact absurd h (by simp [RecordStore.store])

theorem TableStore.refusesCleanly : RefusesCleanly TableStore := by
  intro s s' r h
  exact absurd h (by simp [RecordStore.store])

/-! ## Records that are refused -/

namespace StoreLink

variable {σ : Type} [RecordStore σ] {l : StoreLink σ} {r : Record}

/-- A record does not get into the store: the write fails, or the record is not taken. -/
def Refuses (l : StoreLink σ) (r : Record) : Prop := (l.put r).1 ≠ .ok true

/-- A refused record leaves no trace. -/
theorem store_put_of_refuses (hclean : RefusesCleanly σ) (h : l.Refuses r) :
    (l.put r).2.store = l.store := by
  unfold Refuses put at h
  unfold put
  rcases hfault : l.faults.write with _ | _ | _
  · simp only [note, hfault] at h ⊢
    rcases hstore : RecordStore.store l.store r with e | ⟨_ | _, s⟩
    · rfl
    · exact hclean l.store s r hstore
    · simp [hstore] at h
  · simp [note, hfault]
  · simp [note, hfault]

end StoreLink

namespace Grid

variable {σ : Type} [RecordStore σ] {g : Grid σ}

theorem refuses_of_save_eq_false {r : Record} (h : (g.save r).1 = false) : g.link.Refuses r := by
  intro htaken
  simp [save, htaken] at h

/-- A record that is not kept leaves rows and cache as they are. -/
theorem snd_write_of_fst_eq_none (hclean : RefusesCleanly σ) {key : String} {p : Presence}
    (h : (g.write key p).1 = none) :
    g.link.Refuses p.toRecord ∧ (g.write key p).2.link.store = g.link.store ∧
      (g.write key p).2.cache = g.cache := by
  rw [write_eq] at h ⊢
  cases hkept : (g.save p.toRecord).1 with
  | true => simp [hkept] at h
  | false =>
    have hrefuses := refuses_of_save_eq_false hkept
    exact ⟨hrefuses, StoreLink.store_put_of_refuses hclean hrefuses, rfl⟩

/-! ## Lookups that fail -/

/-- A lookup that fails leaves the cache entries as they are. -/
theorem entries_lookup_of_error {userId : String} {e : Failure} (h : (g.lookup userId).1 = .error e) :
    (g.lookup userId).2.cache.entries = g.cache.entries := by
  rcases g.lookup_cases userId with ⟨-, hl⟩ | ⟨v, -, -, hl⟩ | ⟨-, hl⟩
  · rw [hl]
  · rw [hl]
    exact Cache.entries_get ..
  · rw [hl] at h ⊢
    rcases consultStore_cases (g.consultCache (canonicalKey userId)).2 (canonicalKey userId) with
      ⟨e', -, hc⟩ | ⟨rows, -, hc⟩
    · rw [hc]
      exact Cache.entries_get ..
    · rw [hc] at h
      exact absurd h (by simp)

/-! ## Changes that fail -/

/-- **A change that fails is only a lookup**, and changes nothing at all when there is nobody to look
up or the lookup fails. -/
theorem update_failed (hclean : RefusesCleanly σ) (g : Grid σ) (userId : String) (change : Change)
    (hfailed : (g.update userId change).1 = none) :
    ((g.update userId change).2.link.store = (g.resolve userId).2.link.store ∧
        (g.update userId change).2.cache = (g.resolve userId).2.cache) ∧
      ((userId = "" ∨ ∃ e, (g.lookup userId).1 = .error e) ∧
          (g.update userId change).2.link.store = g.link.store ∧
          (g.update userId change).2.cache.entries = g.cache.entries ∨
        userId ≠ "" ∧ ∃ found, (g.lookup userId).1 = .ok found ∧
          (g.lookup userId).2.link.Refuses
            (change.apply g.now (found.getD (.new userId))).toRecord) := by
  rw [g.snd_resolve userId]
  rcases g.update_cases userId change with ⟨h, hkey⟩ | ⟨e, he, h⟩ | ⟨found, p, hkey, hfound, rfl, h⟩
  · have hlookup : g.lookup userId = (.ok none, g) := by simp [lookup, hkey]
    rw [h, hlookup]
    exact ⟨⟨rfl, rfl⟩, .inl ⟨.inl (canonicalKey_eq_empty_iff.1 hkey), rfl, rfl⟩⟩
  · rw [h]
    exact ⟨⟨rfl, rfl⟩, .inl ⟨.inr ⟨e, he⟩, g.store_lookup userId, entries_lookup_of_error he⟩⟩
  · rw [h] at hfailed ⊢
    obtain ⟨hrefuses, hstore, hcache⟩ := snd_write_of_fst_eq_none hclean hfailed
    have huser : userId ≠ "" := fun h => hkey (canonicalKey_eq_empty_iff.2 h)
    exact ⟨⟨hstore, hcache⟩, .inr ⟨huser, found, hfound, hrefuses⟩⟩

/-- A visitor logs in at a store that declines the record; the lookup has taken the place of another
user in the cache. -/
theorem update_failed_declined :
    let user := "11111111-1111-1111-1111-111111111111"
    let visitor := "11111111-1111-1111-1111-111111111111@grid.example.org"
    let other := "22222222-2222-2222-2222-222222222222"
    let started := Grid.start ⟨1000, 500, ⟨1, by decide⟩, 1000, true⟩ 1 ⟨.epoch, 0⟩
      (⟨[.new other, .new visitor]⟩ : MemoryStore)
    let looked := (started.resolve other).2
    let g := { looked with link := { looked.link with faults := ⟨false, false, some .declines⟩ } }
    (g.update user .login).1 = none ∧ g.cache.entries.map (·.key) = [other] ∧
      (g.update user .login).2.cache.entries.map (·.key) = [user] ∧
      (g.update user .login).2.cache = (g.resolve user).2.cache := by
  intro user visitor other started looked g
  have hfailed : (g.update user .login).1 = none := by decide +kernel
  exact ⟨hfailed, by decide +kernel, by decide +kernel,
    (update_failed MemoryStore.refusesCleanly g user .login hfailed).1.2⟩

end Grid

end FederatedPresence
