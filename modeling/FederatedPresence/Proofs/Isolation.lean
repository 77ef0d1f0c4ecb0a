import FederatedPresence.Proofs.Coherence

/-!
# Whose rows a lookup and a change touch

A user is looked up, and a record is changed, by an initial part of user keys.

**Theorem (`lookups_and_changes_isolated`).** When the cache says nothing false about a user, a
lookup gives a record of the same canonical key exactly if that key has the length of a UUID or the
record is stored under the very user key that was looked up. A change goes to such a record, or to a
new one under the given user key, and the rows of all other user keys stay as they are.

So users with UUIDs are isolated from one another. A shorter user key, or one without a cut behind
its UUID, is not: it finds the most recently active of all users whose keys begin with it
(`short_key_changes_other_user`).
-/

namespace FederatedPresence.Grid

variable {g : Grid MemoryStore} {userId : String}

/-- A record that is found is the one that counts. -/
theorem winner_of_fst_resolve (h : g.CoherentOn fun key => key = canonicalKey userId) {p : Presence}
    (hp : (g.resolve userId).1 = some p) : g.link.store.winner (canonicalKey userId) = some p := by
  have hfound := fst_lookup_of_resolve hp
  rcases g.fst_lookup_cases hfound with ⟨-, hnone⟩ | ⟨hkey, -⟩
  · exact absurd hnone (by simp)
  · exact (h.fst_lookup rfl hkey hfound).symm

/-- **A change goes to a row that a lookup would find**, or to a new row of the user. -/
theorem store_update_cases (h : g.CoherentOn fun key => key = canonicalKey userId) (change : Change) :
    (g.update userId change).2.link.store = g.link.store ∨
      ∃ r, (g.update userId change).2.link.store = g.link.store.place r ∧
        beginsWith (canonicalKey userId) r.userId = true ∧
        (g.link.store.startingWith (canonicalKey userId) = [] → r.userId = userId) := by
  rcases g.update_memory_cases userId change with
    ⟨-, hstore, -⟩ | ⟨found, p, hkey, hfound, rfl, -, hstore, -⟩
  · exact .inl hstore
  · obtain rfl := h.fst_lookup rfl hkey hfound
    refine .inr ⟨_, hstore, ?_, fun hnil => ?_⟩
    · rw [Presence.userId_toRecord, Change.userId_apply]
      exact g.link.store.beginsWith_getD_winner userId
    · rw [Presence.userId_toRecord, Change.userId_apply, MemoryStore.winner_eq_none_iff.2 hnil]
      rfl

/-- **Lookups and changes are isolated** to a canonical key of the length of a UUID, and otherwise to
the very user key. -/
theorem lookups_and_changes_isolated (g : Grid MemoryStore) (userId : String)
    (h : g.CoherentOn fun key => key = canonicalKey userId) :
    (g.resolve userId).2.link.store = g.link.store ∧
      (∀ p, (g.resolve userId).1 = some p →
        (canonicalKey p.userId = canonicalKey userId ↔ HasUuidKey userId ∨ p.userId = userId)) ∧
      ∀ change, (g.update userId change).2.link.store = g.link.store ∨
        ∃ r, (g.update userId change).2.link.store = g.link.store.place r ∧
          (canonicalKey r.userId = canonicalKey userId ↔ HasUuidKey userId ∨ r.userId = userId) ∧
          (g.link.store.startingWith (canonicalKey userId) = [] → r.userId = userId) ∧
          ∀ p : String → Bool, p r.userId = false →
            (g.update userId change).2.link.store.rows.filter (fun e => p e.userId) =
              g.link.store.rows.filter fun e => p e.userId := by
  refine ⟨?_, fun p hp => ?_, fun change => ?_⟩
  · rw [g.store_resolve userId]
  · exact canonicalKey_eq_iff_of_beginsWith
      (MemoryStore.beginsWith_of_winner (winner_of_fst_resolve h hp))
  · rcases store_update_cases h change with hstore | ⟨r, hstore, hstart, hnew⟩
    · exact .inl hstore
    · refine .inr ⟨r, hstore, canonicalKey_eq_iff_of_beginsWith hstart, hnew, fun p hp => ?_⟩
      rw [hstore, MemoryStore.place, filter_placeRecord, if_neg (by simp [hp])]

/-- A visitor with a row, in a service that has just started. -/
theorem lookups_and_changes_isolated_visitor :
    let user := "11111111-1111-1111-1111-111111111111"
    let visitor := "11111111-1111-1111-1111-111111111111@grid.example.org"
    let other := "22222222-2222-2222-2222-222222222222"
    let g := Grid.start ⟨1000, 500, ⟨1, by decide⟩, 1000, true⟩ 10 ⟨.epoch, 0⟩
      (⟨[.new other, .new visitor]⟩ : MemoryStore)
    g.CoherentOn (fun key => key = canonicalKey user) ∧
      ∀ p, (g.resolve user).1 = some p →
        (canonicalKey p.userId = canonicalKey user ↔ HasUuidKey user ∨ p.userId = user) := by
  intro user visitor other g
  have hempty : g.CoherentOn fun key => key = canonicalKey user := CoherentOn.of_entries_eq_nil rfl
  exact ⟨hempty, (lookups_and_changes_isolated g user hempty).2.1⟩

/-- A key that is shorter than a UUID finds and changes another user's record. -/
theorem short_key_changes_other_user :
    let user := "11111111-1111-1111-1111-111111111111"
    let g := Grid.start ⟨1000, 500, ⟨1, by decide⟩, 1000, true⟩ 10 ⟨.epoch, 0⟩
      (⟨[.new user]⟩ : MemoryStore)
    (g.resolve "1111").1 = some (.new user) ∧ canonicalKey user ≠ canonicalKey "1111" ∧
      ((g.update "1111" .login).2.link.store.rows.map fun r => (r.userId, r.get? "Online")) =
        [(user, some "True")] := by
  decide +kernel

end FederatedPresence.Grid
