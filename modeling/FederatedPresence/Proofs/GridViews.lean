import FederatedPresence.Proofs.GridSteps

/-!
# Grids seen in another way

A grid may be seen with something about it changed: with other requests in its list, with another
reading of the wall clock, or with its rows kept in another store. Where the steps on cache and
store do the same to both (`Grid.IsView`), every operation that consists of them does: lookups
(`IsView.lookup`), changes (`IsView.update`) and names that are stored (`IsView.foldl_storeName`).

Changes read the wall clock, so these need the same second on both sides. -/

namespace FederatedPresence.Grid

variable {σ τ : Type}

/-- What a step does, and what it leaves in another view. -/
def mapGrid {α : Type} (view : Grid σ → Grid τ) (r : α × Grid σ) : α × Grid τ := (r.1, view r.2)

variable [RecordStore σ] [RecordStore τ]

/-- The steps on cache and store do the same to a grid and to the view of it. -/
structure IsView (view : Grid σ → Grid τ) : Prop where
  consultCache : ∀ g key, (view g).consultCache key = mapGrid view (g.consultCache key)
  remember : ∀ g key what, (view g).remember key what = view (g.remember key what)
  load : ∀ g start, (view g).load start = mapGrid view (g.load start)
  save : ∀ g r, (view g).save r = mapGrid view (g.save r)

namespace IsView

variable {view : Grid σ → Grid τ}

/-! ## Lookups -/

theorem consultStore (h : IsView view) (g : Grid σ) (key : String) :
    (view g).consultStore key = mapGrid view (g.consultStore key) := by
  unfold Grid.consultStore
  rw [h.load]
  rcases g.load key with ⟨e | rows, g'⟩
  · rfl
  · exact congrArg (Prod.mk _) (h.remember g' key _)

theorem lookup (h : IsView view) (g : Grid σ) (userId : String) :
    (view g).lookup userId = mapGrid view (g.lookup userId) := by
  unfold Grid.lookup
  simp only
  split
  · rfl
  · rw [h.consultCache]
    rcases g.consultCache (canonicalKey userId) with ⟨none | v, g'⟩
    · exact h.consultStore g' _
    · rfl

theorem resolve (h : IsView view) (g : Grid σ) (userId : String) :
    (view g).resolve userId = mapGrid view (g.resolve userId) := by
  unfold Grid.resolve
  rw [h.lookup]
  rcases g.lookup userId with ⟨e | found, g'⟩
  · rfl
  · rfl

theorem resolveAll (h : IsView view) (g : Grid σ) (ids : List String) :
    (view g).resolveAll ids = mapGrid view (g.resolveAll ids) := by
  induction ids generalizing g with
  | nil => rfl
  | cons id ids ih =>
    unfold Grid.resolveAll
    rw [h.resolve]
    simp only [mapGrid, ih]

/-! ## Changes -/

theorem write (h : IsView view) (g : Grid σ) (key : String) (p : Presence) :
    (view g).write key p = mapGrid view (g.write key p) := by
  unfold Grid.write
  rw [h.save]
  rcases g.save p.toRecord with ⟨_ | _, g'⟩
  · rfl
  · exact congrArg (Prod.mk _) (h.remember g' key _)

theorem update (h : IsView view) {g : Grid σ} (hnow : (view g).now = g.now) (userId : String)
    (change : Change) : (view g).update userId change = mapGrid view (g.update userId change) := by
  have hlookup := h.lookup g userId
  have hsame : (view (g.lookup userId).2).now = (g.lookup userId).2.now := by
    have hframe := ((view g).sameFrame_lookup userId).now
    rw [hlookup] at hframe
    exact (hframe.trans hnow).trans (g.sameFrame_lookup userId).now.symm
  unfold Grid.update
  simp only
  split
  · rfl
  · rw [hlookup]
    generalize g.lookup userId = looked at hsame ⊢
    rcases looked with ⟨e | found, g'⟩
    · rfl
    · show (view g').write _ (change.apply (view g').now _) = _
      rw [show (view g').now = g'.now from hsame]
      exact h.write g' _ _

theorem foldl_storeName (h : IsView view) {g : Grid σ} (hnow : (view g).now = g.now)
    (ps : List Presence) : ps.foldl storeName (view g) = view (ps.foldl storeName g) := by
  induction ps generalizing g with
  | nil => rfl
  | cons p ps ih =>
    have hp : storeName (view g) p = view (storeName g p) :=
      congrArg Prod.snd (h.update hnow p.userId (.rename p.displayName))
    have hnow' : (view (storeName g p)).now = (storeName g p).now := by
      have hframe : SameFrame (view g) (storeName (view g) p) := sameFrame_update _ _ _
      have hframe' : SameFrame g (storeName g p) := g.sameFrame_update _ _
      rw [← hp, hframe.now, hnow, hframe'.now]
    rw [List.foldl_cons, hp, ih hnow', List.foldl_cons]

end IsView

end FederatedPresence.Grid
