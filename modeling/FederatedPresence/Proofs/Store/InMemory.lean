import FederatedPresence.Proofs.Operation
import FederatedPresence.Proofs.Refresh

/-!
# Grids with their rows in memory

To the service, a store that keeps its rows as a store in memory does (`KeepsRows`) is that store in
memory (`Grid.inMemory`): whatever the service does, the answers are the same, and so are cache,
counts, journal and requests, whatever goes wrong on the way to the store.

Loading and saving do the same (`load_inMemory`, `save_inMemory`), no other step looks at the store,
and every operation consists of such steps (`isView_inMemory`). -/

namespace FederatedPresence.Grid

variable {σ : Type}

/-- The grid with its rows in memory. -/
def inMemory (rows : σ → MemoryStore) (g : Grid σ) : Grid MemoryStore :=
  { g with link := { g.link with store := rows g.link.store } }

variable [RecordStore σ] {rows : σ → MemoryStore}

/-! ## Steps -/

/-- **The same rows are loaded.** -/
theorem load_inMemory (h : KeepsRows rows) (g : Grid σ) (start : String) :
    (g.inMemory rows).load start = mapGrid (inMemory rows) (g.load start) := by
  have hgetAll : (g.inMemory rows).link.getAll start =
      ((g.link.getAll start).1, { g.link.note (.getAll start) with store := rows g.link.store }) := by
    unfold StoreLink.getAll
    rw [h.getAll]
    rfl
  unfold load
  rw [hgetAll]
  rfl

/-- **The same records are kept**, in the same places. -/
theorem save_inMemory (h : KeepsRows rows) (g : Grid σ) (r : Record) :
    (g.inMemory rows).save r = mapGrid (inMemory rows) (g.save r) := by
  obtain ⟨store, hstore, hplace⟩ := h.store g.link.store r
  unfold save StoreLink.put
  simp only [StoreLink.note, inMemory, mapGrid]
  rcases g.link.faults.write with _ | _ | _
  · simp only [hstore, hplace]
    rfl
  · rfl
  · rfl

/-- **Steps on cache and store do the same** with the rows in memory. -/
theorem isView_inMemory (h : KeepsRows rows) : IsView (inMemory rows : Grid σ → Grid MemoryStore) where
  consultCache _ _ := rfl
  remember _ _ _ := rfl
  load := load_inMemory h
  save := save_inMemory h

/-! ## Batches -/

theorem refresh_inMemory (h : KeepsRows rows) (g : Grid σ) (net : Network) (entries : List Presence) :
    (g.inMemory rows).refresh net entries = mapGrid (inMemory rows) (g.refresh net entries) := by
  have hbatches : (g.inMemory rows).batchesOf entries = g.batchesOf entries := rfl
  unfold refresh
  rw [hbatches]
  cases g.batchesOf entries with
  | nil => rfl
  | cons b bs =>
    have hasked : (g.inMemory rows).askAll net (b :: bs) =
      mapGrid (inMemory rows) (g.askAll net (b :: bs)) := rfl
    simp only [refreshWith]
    rw [hasked]
    simp only [mapGrid, (isView_inMemory h).foldl_storeName rfl]
    rfl

/-- **A batch is answered the same, and leaves the same**, with its rows in memory. -/
theorem presenceInfo_inMemory (h : KeepsRows rows) (g : Grid σ) (net : Network) (ids : List String)
    (refreshNames : Bool) : (g.inMemory rows).presenceInfo net ids refreshNames =
      mapGrid (inMemory rows) (g.presenceInfo net ids refreshNames) := by
  unfold presenceInfo
  rw [(isView_inMemory h).resolveAll]
  rcases g.resolveAll ids with ⟨found, g'⟩
  simp only [mapGrid, refresh_inMemory h]
  split
  · have hfetches : (g'.inMemory rows).policy.fetchesNames = g'.policy.fetchesNames := rfl
    rw [hfetches]
    split
    · rfl
    · rfl
  · rfl

end FederatedPresence.Grid
