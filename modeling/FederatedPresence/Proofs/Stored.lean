import FederatedPresence.Proofs.Remembered

/-!
# What is remembered is what is stored

A presence is written field by field, and read back so. That loses nothing as long as the extra
fields have other names than the fields that presence is made of (`Presence.ExtraOnly`). Times are
whole seconds of the calendar by their type; the part of a second that the wall clock shows does not
get into a record (`fst_update_withWall`).

Every record in the cache is of this kind: it was decoded from a row, which takes only such fields,
or it came about by changes, which touch none (`Grid.fromRows_extraOnly`).

**Theorem (`encoding_keeps_presences`).** Decoding takes back what encoding wrote. What a service of
any history remembers after a change is what the row that the store took decodes to.
-/

namespace FederatedPresence

/-! ## Stores that find what they took -/

/-- A record that is taken is found under its user key. -/
def FindsStored (σ : Type) [RecordStore σ] : Prop :=
  ∀ (s s' : σ) (r : Record), RecordStore.store s r = .ok (true, s') →
    RecordStore.get s' r.userId = .ok (some r)

theorem MemoryStore.findsStored : FindsStored MemoryStore := by
  intro s s' r h
  obtain rfl : s.place r = s' := by simpa [RecordStore.store] using h
  show Except.ok ((placeRecord r s.rows).find? fun e => e.userId = r.userId) = _
  rw [find?_placeRecord, if_pos rfl]

/-! ## Numeric equality -/

theorem Binary.numEq_self {F : BinaryFormat} {b : Binary F} (h : b ≠ .nan) : b.numEq b = true := by
  cases b with
  | nan => exact absurd rfl h
  | infinite negative => simp [numEq]
  | finite negative rank => simp [numEq]

theorem Vector3.numEq_self {v : Vector3} (h : v.isNumeric = true) : v.numEq v = true := by
  simp only [isNumeric, Bool.and_eq_true, decide_eq_true_eq] at h
  obtain ⟨⟨hx, hy⟩, hz⟩ := h
  simp [numEq, Binary.numEq_self hx, Binary.numEq_self hy, Binary.numEq_self hz]

namespace Presence

/-- No component of a vector is NaN. -/
def isNumeric (p : Presence) : Bool :=
  p.homePosition.isNumeric && p.homeLookAt.isNumeric && p.lastPosition.isNumeric &&
    p.lastLookAt.isNumeric

theorem numEq_self {p : Presence} (h : p.isNumeric = true) : p.numEq p = true := by
  simp only [isNumeric, Bool.and_eq_true] at h
  obtain ⟨⟨⟨hhome, hhomeLook⟩, hlast⟩, hlastLook⟩ := h
  simp [numEq, Vector3.numEq_self hhome, Vector3.numEq_self hhomeLook, Vector3.numEq_self hlast,
    Vector3.numEq_self hlastLook]

end Presence

namespace Grid

variable {σ : Type}

/-! ## Parts of a second -/

/-- The grid with another reading of the wall clock. -/
def withWall (g : Grid σ) (wall : WallTime) : Grid σ := { g with wall := wall }

variable [RecordStore σ]

/-- No step on cache or store looks at the wall clock. -/
theorem isView_withWall (wall : WallTime) : IsView fun g : Grid σ => g.withWall wall where
  consultCache _ _ := rfl
  remember _ _ _ := rfl
  load _ _ := rfl
  save _ _ := rfl

/-- **The part of a second does not get into a record.** -/
theorem fst_update_withWall (g : Grid σ) (wall : WallTime) (hwall : wall.second = g.wall.second)
    (userId : String) (change : Change) :
    ((g.withWall wall).update userId change).1 = (g.update userId change).1 := by
  rw [(isView_withWall wall).update hwall]
  rfl

/-! ## Changes -/

/-- **What is remembered after a change is what the stored record decodes to.** -/
theorem update_stored {g : Grid σ} (h : g.Remembers fun _ p => p.ExtraOnly) {userId : String}
    {change : Change} {p : Presence} (hp : (g.update userId change).1 = some p) :
    p.ExtraOnly ∧
      (g.update userId change).2.cache.find? (canonicalKey userId) =
        some ⟨canonicalKey userId, .found p, g.clock, g.clock + g.policy.ttl⟩ ∧
      ∃ r, RecordStore.store g.link.store r = .ok (true, (g.update userId change).2.link.store) ∧
        Presence.ofRecord r = p ∧
        (FindsStored σ →
          RecordStore.get (g.update userId change).2.link.store p.userId = .ok (some r)) := by
  rcases g.update_kept_cases userId change with
    ⟨hnone, -⟩ | ⟨found, q, -, hfound, rfl, hsome, hstore, hcache⟩
  · rw [hnone] at hp
    exact absurd hp (by simp)
  · obtain rfl : change.apply g.now (found.getD (.new userId)) = p := by
      rw [hsome] at hp
      injection hp
    have hextra := Change.extraOnly_apply g.now (h.getD_lookup fromRows_extraOnly hfound) change
    refine ⟨hextra, ?_, _, hstore, Presence.ofRecord_toRecord hextra, fun hfinds => ?_⟩
    · rw [hcache]
      exact Cache.find?_put ..
    · exact hfinds _ _ _ hstore

end Grid

/-- **Nothing is lost between a presence and its record**: decoding takes back what encoding wrote,
what decoding needs holds of all that is decoded and is kept by every change, and so the cache of a
service, after whatever happened to it, holds after a change what the stored row decodes to. -/
theorem encoding_keeps_presences {σ : Type} [RecordStore σ] :
    (∀ p : Presence, p.ExtraOnly → Presence.ofRecord p.toRecord = p ∧
        (p.isNumeric = true → (Presence.ofRecord p.toRecord).numEq p = true)) ∧
      (∀ r, (Presence.ofRecord r).ExtraOnly) ∧
      (∀ (now : Timestamp) (p : Presence) (change : Change), p.ExtraOnly →
        (change.apply now p).ExtraOnly) ∧
      ∀ (policy : Policy) (maxEntries : Nat) (wall : WallTime) (store : σ) (network : Network)
        (events : List Event) (userId : String) (change : Change),
        let f : Federation σ := ⟨.start policy maxEntries wall store, network⟩
        let g := (f.run events).grid
        (∀ nanos, ((g.withWall ⟨g.wall.second, nanos⟩).update userId change).1 =
            (g.update userId change).1) ∧
          ∀ p, (g.update userId change).1 = some p → p.ExtraOnly ∧
            (g.update userId change).2.cache.find? (canonicalKey userId) =
              some ⟨canonicalKey userId, .found p, g.clock, g.clock + g.policy.ttl⟩ ∧
            ∃ r, RecordStore.store g.link.store r =
                .ok (true, (g.update userId change).2.link.store) ∧
              Presence.ofRecord r = p ∧
              (FindsStored σ →
                RecordStore.get (g.update userId change).2.link.store p.userId = .ok (some r)) := by
  refine ⟨fun p hp => ?_, Presence.extraOnly_ofRecord, fun now p change hp => ?_, ?_⟩
  · have hdecoded := Presence.ofRecord_toRecord hp
    exact ⟨hdecoded, fun hnum => by rw [hdecoded, Presence.numEq_self hnum]⟩
  · exact Change.extraOnly_apply now hp change
  · intro policy maxEntries wall store network events userId change f g
    have hg : g.Remembers fun _ p => p.ExtraOnly :=
      Grid.Remembers.run Grid.fromRows_extraOnly policy maxEntries wall store network events
    exact ⟨fun nanos => g.fst_update_withWall ⟨_, nanos⟩ rfl userId change, fun p hp =>
      Grid.update_stored hg hp⟩

/-- A visitor is renamed by another writer, is looked up, and then logs in. -/
theorem encoding_keeps_presences_visitor :
    let user := "11111111-1111-1111-1111-111111111111"
    let visitor := "11111111-1111-1111-1111-111111111111@grid.example.org"
    let row : Record := ⟨visitor, .ofList [("DisplayName", "Ann"), ("Mood", "calm")]⟩
    let f : Federation MemoryStore :=
      ⟨.start ⟨1000, 500, ⟨1, by decide⟩, 1000, true⟩ 1 ⟨.epoch, 5⟩ .empty, fun _ => ⟨0, .crash⟩⟩
    let g := (f.run [.resolve user, .forget user, .writeStore row, .resolve user]).grid
    ∃ p, (g.update user .login).1 = some p ∧ p.displayName = "Ann" ∧ p.ExtraOnly ∧
      (Presence.ofRecord p.toRecord).numEq p = true ∧
      ∃ r, RecordStore.get (g.update user .login).2.link.store visitor = .ok (some r) ∧
        Presence.ofRecord r = p := by
  intro user visitor row f g
  have hname : (g.update user .login).1.map (fun p => (p.displayName, p.userId, p.isNumeric)) =
      some ("Ann", visitor, true) := by decide +kernel
  obtain ⟨p, hp, hparts⟩ := Option.map_eq_some_iff.1 hname
  injection hparts with hann hparts
  injection hparts with huser hnumeric
  obtain ⟨hround, -, -, hruns⟩ := @encoding_keeps_presences MemoryStore _
  obtain ⟨-, hall⟩ := hruns _ _ _ _ _
    [.resolve user, .forget user, .writeStore row, .resolve user] user .login
  obtain ⟨hextra, -, r, -, hdecoded, hget⟩ := hall p hp
  refine ⟨p, hp, hann, hextra, (hround p hextra).2 hnumeric, r, ?_, hdecoded⟩
  rw [← huser]
  exact hget MemoryStore.findsStored

end FederatedPresence
