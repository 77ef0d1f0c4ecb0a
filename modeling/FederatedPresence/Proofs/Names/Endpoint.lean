import FederatedPresence.Names.Exchange
import FederatedPresence.Proofs.Url.Longer
import FederatedPresence.User.Authority

/-!
# Where names are asked for

An authority is kept as the text of a URL with a slash at its end, and its endpoint is written by
putting `get_display_names` behind it.

**Theorem (`wireRequest_of_normalizeAuthority`).** What is asked has scheme, host and port of the
authority. If the authority has neither query nor fragment, the path is that of the authority with the
endpoint's name behind its slash; and only then: a query or a fragment gets the slash and the name,
and the path stays that of the authority, so a user key can aim the request at any path of the host.
-/

namespace FederatedPresence.Names

theorem getLast?_of_normalizeAuthority {raw authority : String}
    (h : normalizeAuthority? raw = some authority) : authority.toList.getLast? = some '/' := by
  unfold normalizeAuthority? at h
  dsimp only at h
  split at h
  · exact absurd h (by simp)
  · split at h
    · exact absurd h (by simp)
    · split at h
      · exact absurd h (by simp)
      · cases h
        rw [String.toList_ofList]
        exact getLast?_withSlash _

theorem withSlash_of_getLast? {cs : List Char} (h : cs.getLast? = some '/') : withSlash cs = cs :=
  if_pos h

/-- **What is asked has the scheme, host and port of the authority**, and the endpoint's path exactly
if the authority has neither query nor fragment. -/
theorem wireRequest_of_normalizeAuthority {raw authority : String} {a : Url}
    (h : normalizeAuthority? raw = some authority) (ha : Url.ofChars? authority.toList = some a)
    (hscheme : a.scheme = "http".toList ∨ a.scheme = "https".toList) {ids : List Uuid}
    (hids : ids ≠ []) :
    ∃ u : Url,
      wireRequest authority ids = (if isUsable u then .ok (some ⟨u, encodeRequest ids⟩)
        else .error (.federation ("Failed to reach " ++ endpoint authority ++ ": " ++
          (EndpointError.unusable u).message))) ∧
      u.scheme = a.scheme ∧ u.host = a.host ∧ u.port = a.port ∧
      ((u.path = withSlash a.path ++ endpointPath.toList ∧ u.query = none ∧ u.fragment = none) ↔
        a.query = none ∧ a.fragment = none) ∧
      (¬(a.query = none ∧ a.fragment = none) → u.path = a.path) := by
  obtain ⟨hspecial, hfile⟩ : Url.isSpecial a.scheme = true ∧ a.scheme ≠ "file".toList := by
    rcases hscheme with hs | hs
    · rw [hs]
      decide
    · rw [hs]
      decide
  obtain ⟨hextend, hslash⟩ := Url.ofChars?_append (by decide : Url.IsPlain endpointPath.toList)
    (getLast?_of_normalizeAuthority h) ha hspecial hfile
  obtain ⟨hsame, hhost, hport⟩ := a.extend_front endpointPath.toList
  refine ⟨withoutCredentials (a.extend endpointPath.toList), ?_, hsame, hhost, hport, ?_, ?_⟩
  · rw [wireRequest, if_neg hids, endpointUrl, endpoint, String.toList_append, hextend]
    cases hu : isUsable (withoutCredentials (a.extend endpointPath.toList)) with
    | true => simp only [hu, if_true]
    | false => simp only [hu, Bool.false_eq_true, if_false]
  · by_cases hnone : a.query = none ∧ a.fragment = none
    · refine iff_of_true ?_ hnone
      rw [Url.extend_of_path hnone.1 hnone.2, withSlash_of_getLast? (hslash hnone.1 hnone.2)]
      exact ⟨rfl, hnone⟩
    · exact iff_of_false (fun hu => (Url.extend_of_tail hnone _).2 hu.2) hnone
  · exact fun hsome => (Url.extend_of_tail hsome _).1

/-- A bare host name is asked at the endpoint's path. -/
theorem wireRequest_of_host :
    let authority := "http://grid.example.org/"
    let a : Url := ⟨"http".toList, [], [], some (.domain "grid.example.org".toList), true, none, ['/'],
      none, none⟩
    normalizeAuthority? "grid.example.org" = some authority ∧
      Url.ofChars? authority.toList = some a ∧ [Uuid.nil] ≠ [] ∧
      ∃ u : Url, wireRequest authority [Uuid.nil] = .ok (some ⟨u, encodeRequest [Uuid.nil]⟩) ∧
        u.path = "/get_display_names".toList ∧ u.query = none ∧ u.fragment = none := by
  intro authority a
  have h : normalizeAuthority? "grid.example.org" = some authority := by decide +kernel
  have ha : Url.ofChars? authority.toList = some a := by decide +kernel
  have hids : [Uuid.nil] ≠ [] := by simp
  refine ⟨h, ha, hids, ?_⟩
  obtain ⟨u, hrequest, hscheme, hhost, -, hpath, -⟩ :=
    wireRequest_of_normalizeAuthority h ha (.inl rfl) hids
  have husable : isUsable u = true := by
    rw [isUsable, hscheme, hhost]
    decide
  rw [if_pos husable] at hrequest
  exact ⟨u, hrequest, hpath.2 ⟨rfl, rfl⟩⟩

/-- **An authority with a query aims the request at another path**: here at the root of the host,
with the endpoint's name in the query. -/
theorem not_endpoint_of_every_authority :
    ¬∀ (raw authority : String) (a : Url) (ids : List Uuid) (r : WireRequest),
      normalizeAuthority? raw = some authority → Url.ofChars? authority.toList = some a →
      (a.scheme = "http".toList ∨ a.scheme = "https".toList) → ids ≠ [] →
      wireRequest authority ids = .ok (some r) →
      r.url.scheme = a.scheme ∧ r.url.host = a.host ∧ r.url.port = a.port ∧
        r.url.path = withSlash a.path ++ endpointPath.toList ∧ r.url.query = none ∧
        r.url.fragment = none := by
  intro h
  let host : Option Url.Host := some (.domain "grid.example.org".toList)
  let a : Url := ⟨"http".toList, [], [], host, true, none, ['/'], some "x=/".toList, none⟩
  let u : Url := { a with query := some "x=/get_display_names".toList }
  have hpath := h "grid.example.org/?x=" "http://grid.example.org/?x=/" a [Uuid.nil]
    ⟨u, encodeRequest [Uuid.nil]⟩ (by decide +kernel) (by decide +kernel) (.inl rfl) (by simp)
    (by decide +kernel)
  exact absurd hpath.2.2.2.1 (by decide)

end FederatedPresence.Names
