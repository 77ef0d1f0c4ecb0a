import FederatedPresence.Proofs.Text.Cut
import FederatedPresence.Proofs.Text.Extension
import FederatedPresence.Url.Parser

/-!
# URLs with a name put behind them

An endpoint is written by putting a name behind a URL that ends in a slash. This module says what
that makes of the URL.

**Theorem (`ofChars?_append`).** The name gets behind the component that the URL ends in: the
fragment if there is one, else the query if there is one, else the path. All other components stay
(`Url.extend`).

The slash ends the authority, so scheme, credentials, host and port are read as before, part by part
of the reader. Behind a path, the name is a segment in place of the empty last one.
-/

namespace FederatedPresence.Url

open Text

/-! ## Names -/

/-- Letters, digits and low lines. Nothing in such a text is a separator, white space or a dot, and
nothing is percent-encoded. -/
def IsPlain (cs : List Char) : Prop := ∀ c ∈ cs, (c.isAlphanum || c = '_') = true

-- By name: a search may find the instance that tries every character there is.
instance (cs : List Char) : Decidable (IsPlain cs) := List.decidableBAll _ cs

namespace IsPlain

variable {more : List Char}

theorem ne_of_mem (h : IsPlain more) {c d : Char} (hc : c ∈ more)
    (hd : (d.isAlphanum || d = '_') = false) : c ≠ d := by
  rintro rfl
  rw [h c hc] at hd
  exact absurd hd (by decide)

theorem toNat_bounds (h : IsPlain more) {c : Char} (hc : c ∈ more) :
    0x20 < c.toNat ∧ c.toNat < 0x7F := by
  have hplain : (c.isAlphanum || c = '_') = true := h c hc
  delta Char.isAlphanum Char.isAlpha Char.isUpper Char.isLower at hplain
  simp only [Char.isDigit, Bool.or_eq_true, Bool.and_eq_true, decide_eq_true_eq, ge_iff_le,
    UInt32.le_iff_toNat_le] at hplain
  rcases hplain with ((h | h) | h) | rfl
  · simp at h
    omega
  · simp at h
    omega
  · simp at h
    omega
  · decide

/-- Nothing of it has to be percent-encoded. -/
theorem not_encoded (h : IsPlain more) {c : Char} (hc : c ∈ more) :
    inPath c = false ∧ inSpecialQuery c = false := by
  obtain ⟨hlow, hhigh⟩ := h.toNat_bounds hc
  simp only [inPath, inSpecialQuery, inFragment, inQuery, isControl, Bool.or_eq_false_iff,
    beq_eq_false_iff_ne, decide_eq_false_iff_not]
  and_intros <;> first
    | omega
    | exact h.ne_of_mem hc (by decide)

theorem inside (h : IsPlain more) : ∀ c ∈ more, (decide (c ≠ '?') && decide (c ≠ '#')) = true :=
  fun c hc => by simp [h.ne_of_mem hc (d := '?') (by decide), h.ne_of_mem hc (d := '#') (by decide)]

theorem not_slash (h : IsPlain more) :
    ∀ c ∈ more, (decide (c = '/') || (true && decide (c = '\\'))) = false :=
  fun c hc => by simp [h.ne_of_mem hc (d := '/') (by decide), h.ne_of_mem hc (d := '\\') (by decide)]

theorem dots?_ne (h : IsPlain more) : dots? more ≠ some 1 ∧ dots? more ≠ some 2 := by
  cases more with
  | nil => decide
  | cons c cs =>
    have hdot : c ≠ '.' := h.ne_of_mem List.mem_cons_self (by decide)
    have hpercent : c ≠ '%' := h.ne_of_mem List.mem_cons_self (by decide)
    have hnone : dots? (c :: cs) = none := by
      unfold dots?
      split <;> simp_all
    rw [hnone]
    exact ⟨by simp, by simp⟩

end IsPlain

theorem encode_append (p : Char → Bool) (a b : List Char) :
    Percent.encode p (a ++ b) = Percent.encode p a ++ Percent.encode p b := by
  rw [Percent.encode, List.flatMap_append]
  rfl

theorem encode_of_isPlain {p : Char → Bool} {more : List Char} (h : IsPlain more)
    (hp : ∀ c ∈ more, p c = false) : Percent.encode p more = more := by
  have hkept : ∀ c ∈ more, (p c || decide (0x7F < c.toNat)) = false := by
    intro c hc
    have hascii := (h.toNat_bounds hc).2
    rw [hp c hc, Bool.false_or, decide_eq_false_iff_not]
    omega
  clear h hp
  rw [Percent.encode]
  induction more with
  | nil => rfl
  | cons c cs ih =>
    rw [List.flatMap_cons, hkept c List.mem_cons_self,
      ih fun d hd => hkept d (List.mem_cons_of_mem _ hd)]
    rfl

/-! ## The longer URL -/

/-- The URL with a text behind the component that it ends in. -/
def extend (u : Url) (more : List Char) : Url :=
  match u.query, u.fragment with
  | none, none => { u with path := u.path ++ more }
  | some q, none => { u with query := some (q ++ more) }
  | _, some f => { u with fragment := some (f ++ more) }

/-- Where neither query nor fragment follows, the path ends in a slash. -/
def EndsInSlash (u : Url) : Prop :=
  u.query = none → u.fragment = none → u.path.getLast? = some '/'

/-- Only what follows the port changes. -/
theorem extend_front (u : Url) (more : List Char) :
    (u.extend more).scheme = u.scheme ∧ (u.extend more).host = u.host ∧
      (u.extend more).port = u.port := by
  unfold extend
  split <;> exact ⟨rfl, rfl, rfl⟩

theorem extend_of_path {u : Url} (hquery : u.query = none) (hfragment : u.fragment = none)
    (more : List Char) : u.extend more = { u with path := u.path ++ more } := by
  rw [extend, hquery, hfragment]

/-- A query or a fragment stays, and keeps the path as it is. -/
theorem extend_of_tail {u : Url} (h : ¬(u.query = none ∧ u.fragment = none)) (more : List Char) :
    (u.extend more).path = u.path ∧
      ¬((u.extend more).query = none ∧ (u.extend more).fragment = none) := by
  unfold extend
  split
  · rename_i hquery hfragment
    exact absurd ⟨hquery, hfragment⟩ h
  · exact ⟨rfl, by simp⟩
  · exact ⟨rfl, by simp⟩

variable {cs more : List Char}

/-! ## In front of the path -/

theorem significant_append (h : IsPlain more) (hlast : cs.getLast? = some '/') :
    significant (cs ++ more) = significant cs ++ more ∧ (significant cs).getLast? = some '/' := by
  let isWhite : Char → Bool := fun c => c.toNat ≤ 0x20
  let isKept : Char → Bool := fun c => c ≠ '\t' && c ≠ '\n' && c ≠ '\r'
  obtain ⟨-, hfront, hdropped⟩ := span_append_of_getLast? (p := isWhite) hlast (by decide) more
  obtain ⟨ds, hds⟩ := List.getLast?_eq_some_iff.1 hdropped
  have hback : dropTailWhile isWhite (cs.dropWhile isWhite ++ more) = cs.dropWhile isWhite ++ more := by
    cases hm : more.getLast? with
    | none =>
      rw [List.getLast?_eq_none_iff.1 hm, List.append_nil]
      exact dropTailWhile_of_getLast? hdropped (by decide)
    | some z =>
      have hz := (h.toNat_bounds (List.mem_of_getLast? hm)).1
      exact dropTailWhile_of_getLast? (z := z) (by rw [List.getLast?_append, hm]; rfl)
        (by simp [isWhite]; omega)
  have hstrip : strip isWhite cs = ds ++ ['/'] := by
    rw [strip, dropTailWhile_of_getLast? hdropped (by decide), hds]
  have hkept : more.filter isKept = more := List.filter_eq_self.2 fun c hc => by
    simp [isKept, h.ne_of_mem hc (d := '\t') (by decide), h.ne_of_mem hc (d := '\n') (by decide),
      h.ne_of_mem hc (d := '\r') (by decide)]
  constructor
  · show (strip isWhite (cs ++ more)).filter isKept = (strip isWhite cs).filter isKept ++ more
    rw [hstrip, strip, hfront, hback, hds, List.filter_append, hkept]
  · show ((strip isWhite cs).filter isKept).getLast? = some '/'
    rw [hstrip, List.filter_append, List.getLast?_append]
    rfl

theorem readScheme?_eq_some_iff {scheme rest : List Char} :
    readScheme? cs = some (scheme, rest) ↔ cs.head?.any Char.isAlpha = true ∧
      cs.dropWhile isSchemeChar = ':' :: rest ∧
      (cs.takeWhile isSchemeChar).map Char.toLower = scheme := by
  cases cs with
  | nil => simp [readScheme?]
  | cons c ds =>
    rw [readScheme?]
    by_cases halpha : c.isAlpha = true
    · rw [if_pos halpha]
      generalize (c :: ds).takeWhile isSchemeChar = lead
      generalize (c :: ds).dropWhile isSchemeChar = behind
      split
      · simp [halpha, and_comm]
      · rename_i hcolon
        simp only [reduceCtorEq, false_iff, not_and]
        exact fun _ h => absurd h (hcolon rest)
    · simp [halpha]

theorem readScheme?_append {scheme rest : List Char} (hlast : cs.getLast? = some '/')
    (h : readScheme? cs = some (scheme, rest)) (more : List Char) :
    readScheme? (cs ++ more) = some (scheme, rest ++ more) ∧ rest.getLast? = some '/' := by
  obtain ⟨halpha, hdrop, htake⟩ := readScheme?_eq_some_iff.1 h
  obtain ⟨htake', hdrop', hend⟩ := span_append_of_getLast? (p := isSchemeChar) hlast (by decide) more
  have hhead : (cs ++ more).head? = cs.head? := by
    cases cs with
    | nil => exact absurd hlast (by simp)
    | cons c ds => rfl
  rw [hdrop] at hdrop' hend
  exact ⟨readScheme?_eq_some_iff.2 ⟨hhead ▸ halpha, hdrop', htake' ▸ htake⟩,
    getLast?_of_cons hend (by decide)⟩

theorem spanHost_append {stop : Char → Bool} (hstop : stop '/' = true) (inBrackets : Bool)
    (hlast : cs.getLast? = some '/') (more : List Char) :
    spanHost stop inBrackets (cs ++ more) =
        ((spanHost stop inBrackets cs).1, (spanHost stop inBrackets cs).2 ++ more) ∧
      (spanHost stop inBrackets cs).2.getLast? = some '/' := by
  induction cs generalizing inBrackets with
  | nil => exact absurd hlast (by simp)
  | cons c cs ih =>
    rw [List.cons_append, spanHost, spanHost]
    split
    · exact ⟨rfl, hlast⟩
    · rename_i hgoes
      have hc : c ≠ '/' := by
        rintro rfl
        exact hgoes (by simp [hstop])
      obtain ⟨hmore, hend⟩ := ih _ (getLast?_of_cons hlast hc)
      exact ⟨by rw [hmore], hend⟩

theorem readCredentials_append {stop : Char → Bool} (hstop : stop '/' = true)
    {name word rest : List Char} (hlast : cs.getLast? = some '/')
    (h : readCredentials stop cs = some (name, word, rest)) (more : List Char) :
    readCredentials stop (cs ++ more) = some (name, word, rest ++ more) ∧
      rest.getLast? = some '/' := by
  obtain ⟨htake, hdrop, hend⟩ :=
    span_append_of_getLast? (p := fun c => !stop c) hlast (by simp [hstop]) more
  unfold readCredentials at h ⊢
  dsimp only at h ⊢
  rw [htake, hdrop]
  generalize cs.takeWhile (fun c => !stop c) = authority at h ⊢
  generalize (authority.reverse.takeWhile (· ≠ '@')).reverse = host at h ⊢
  generalize cs.dropWhile (fun c => !stop c) = behind at h hend ⊢
  have hbehind : behind ≠ [] := by
    rintro rfl
    exact absurd hend (by simp)
  have hlast' : (host ++ behind).getLast? = some '/' := by
    rw [List.getLast?_append, hend]
    rfl
  split at h
  · rename_i hnone
    cases h
    rw [if_pos hnone]
    exact ⟨rfl, hlast⟩
  · rename_i huser
    rw [if_neg huser]
    split at h
    · rename_i hempty
      rw [if_pos hempty]
      cases host with
      | nil =>
        cases behind with
        | nil => exact absurd rfl hbehind
        | cons c cs => exact absurd h (by simp)
      | cons c cs =>
        cases h
        rw [List.append_assoc] at *
        exact ⟨rfl, hlast'⟩
    · rename_i hsome
      cases h
      rw [if_neg hsome, List.append_assoc]
      exact ⟨rfl, hlast'⟩

theorem readPort?_append {scheme rest : List Char} {port : Option Nat}
    (hlast : cs.getLast? = some '/') (h : readPort? scheme cs = some (port, rest))
    (more : List Char) :
    readPort? scheme (cs ++ more) = some (port, rest ++ more) ∧ rest.getLast? = some '/' := by
  obtain ⟨htake, hdrop, hend⟩ := span_append_of_getLast? (p := Char.isDigit) hlast (by decide) more
  unfold readPort? at h ⊢
  dsimp only at h ⊢
  rw [htake, hdrop]
  generalize cs.dropWhile Char.isDigit = behind at h hend ⊢
  cases behind with
  | nil => exact absurd hend (by simp)
  | cons c ds =>
    rw [List.cons_append]
    dsimp only at h ⊢
    split at h
    · exact absurd h (by simp)
    · rename_i hended
      cases h
      rw [if_neg hended]
      exact ⟨rfl, hend⟩

/-! ## Paths -/

theorem walkSegments_cons {rest : List (List Char)} (h : rest ≠ []) (done : List (List Char))
    (s : List Char) :
    walkSegments done (s :: rest) =
      if dots? s = some 2 then walkSegments (dropSegment done) rest
      else if dots? s = some 1 then walkSegments done rest
      else walkSegments (s :: done) rest := by
  cases rest with
  | nil => exact absurd rfl h
  | cons t ts => rfl

/-- A last segment that is not dots is kept as it is. -/
theorem walkSegments_append (done ws : List (List Char)) :
    ∃ kept, ∀ s, dots? s ≠ some 1 → dots? s ≠ some 2 →
      walkSegments done (ws ++ [s]) = kept ++ [s] := by
  induction ws generalizing done with
  | nil =>
    refine ⟨done.reverse, fun s hone htwo => ?_⟩
    rw [List.nil_append, walkSegments, if_neg htwo, if_neg hone, List.reverse_cons]
  | cons w ws ih =>
    have hne : ∀ s : List Char, ws ++ [s] ≠ [] := fun s => by simp
    by_cases htwo : dots? w = some 2
    · obtain ⟨kept, hkept⟩ := ih (dropSegment done)
      refine ⟨kept, fun s hs₁ hs₂ => ?_⟩
      rw [List.cons_append, walkSegments_cons (hne s), if_pos htwo, hkept s hs₁ hs₂]
    · by_cases hone : dots? w = some 1
      · obtain ⟨kept, hkept⟩ := ih done
        refine ⟨kept, fun s hs₁ hs₂ => ?_⟩
        rw [List.cons_append, walkSegments_cons (hne s), if_neg htwo, if_pos hone, hkept s hs₁ hs₂]
      · obtain ⟨kept, hkept⟩ := ih (w :: done)
        refine ⟨kept, fun s hs₁ hs₂ => ?_⟩
        rw [List.cons_append, walkSegments_cons (hne s), if_neg htwo, if_neg hone, hkept s hs₁ hs₂]

/-- A text that ends in a slash, or is empty, has an empty last segment, and a name takes its
place. -/
theorem pieces_append_name {isSlash : Char → Bool} (hslash : isSlash '/' = true)
    (hplain : ∀ c ∈ more, isSlash c = false) (hlast : ∀ z ∈ cs.getLast?, z = '/') :
    ∃ ws, pieces isSlash cs = ws ++ [[]] ∧ pieces isSlash (cs ++ more) = ws ++ [more] := by
  cases hz : cs.getLast? with
  | none =>
    rw [List.getLast?_eq_none_iff.1 hz]
    exact ⟨[], rfl, pieces_of_forall hplain⟩
  | some z =>
    obtain rfl := hlast z hz
    obtain ⟨ds, rfl⟩ := List.getLast?_eq_some_iff.1 hz
    refine ⟨pieces isSlash ds, pieces_append_separator hslash ds [], ?_⟩
    rw [List.append_assoc, List.singleton_append, pieces_append_separator hslash, pieces_of_forall hplain]

/-- The path that some segments make. -/
def pathOf (segments : List (List Char)) : List Char := joinSegments (walkSegments [] segments)

theorem joinSegments_concat (segments : List (List Char)) (s : List Char) :
    joinSegments (segments ++ [s]) = joinSegments segments ++ '/' :: s := by
  rw [joinSegments, List.flatMap_append, List.flatMap_singleton]
  rfl

/-- **Behind a path that ends in a slash, a name is the last segment**; behind what follows a path,
it changes nothing of the path. -/
theorem readPath_append (h : IsPlain more) (hlast : ∀ z ∈ cs.getLast?, z = '/') :
    (readPath true cs).2 ≠ [] ∧
        readPath true (cs ++ more) = ((readPath true cs).1, (readPath true cs).2 ++ more) ∨
      (readPath true cs).2 = [] ∧ (readPath true (cs ++ more)).2 = [] ∧
        pathOf (readPath true (cs ++ more)).1 = pathOf (readPath true cs).1 ++ more ∧
        (pathOf (readPath true cs).1).getLast? = some '/' := by
  let inside : Char → Bool := fun c => c ≠ '?' && c ≠ '#'
  let isSlash : Char → Bool := fun c => c = '/' || (true && c = '\\')
  have hread : ∀ ds, readPath true ds =
      ((pieces isSlash (ds.takeWhile inside)).map (Percent.encode inPath), ds.dropWhile inside) :=
    fun _ => rfl
  rw [hread, hread]
  rcases takeWhile_append_cases inside cs more with ⟨hdrop, htake, hmore⟩ | ⟨hall, hdrop, htake, -⟩
  · exact .inl ⟨hdrop, by rw [htake, hmore]⟩
  · have hall' : ∀ c ∈ cs ++ more, inside c = true := fun c hc =>
      (List.mem_append.1 hc).elim (hall c) (h.inside c)
    obtain ⟨ws, hcs, hlonger⟩ := pieces_append_name (by decide : isSlash '/' = true) h.not_slash hlast
    obtain ⟨kept, hkept⟩ := walkSegments_append [] (ws.map (Percent.encode inPath))
    have hempty : pathOf ((pieces isSlash cs).map (Percent.encode inPath)) =
        joinSegments kept ++ ['/'] := by
      rw [hcs, List.map_append, pathOf, List.map_singleton]
      rw [show Percent.encode inPath [] = [] from rfl, hkept [] (by decide) (by decide),
        joinSegments_concat]
    have hname : pathOf ((pieces isSlash (cs ++ more)).map (Percent.encode inPath)) =
        joinSegments kept ++ '/' :: more := by
      rw [hlonger, List.map_append, pathOf, List.map_singleton,
        encode_of_isPlain h fun c hc => (h.not_encoded hc).1, hkept more h.dots?_ne.1 h.dots?_ne.2,
        joinSegments_concat]
    refine .inr ⟨hdrop, List.dropWhile_eq_nil_iff.2 hall', ?_, ?_⟩
    · rw [htake, List.takeWhile_eq_self_iff.2 hall', hempty, hname]
      simp
    · rw [htake, hempty, List.getLast?_append]
      rfl

theorem readPathStart_append (h : IsPlain more) (hlast : cs.getLast? = some '/') :
    ∃ path tail, readPathStart true cs = (path, tail) ∧
      (readPathStart true (cs ++ more) = (path, tail ++ more) ∧
          (∃ t, tail = '?' :: t ∨ tail = '#' :: t) ∨
        readPathStart true (cs ++ more) = (path ++ more, []) ∧ tail = [] ∧
          path.getLast? = some '/') := by
  -- the path is read behind its first slash
  obtain ⟨ds, hsuffix, hread⟩ : ∃ ds, ds <:+ cs ∧ ∀ m, readPathStart true (cs ++ m) =
      (pathOf (readPath true (ds ++ m)).1, (readPath true (ds ++ m)).2) := by
    cases cs with
    | nil => exact absurd hlast (by simp)
    | cons c r =>
      by_cases hc : c = '/' ∨ c = '\\'
      · exact ⟨r, List.suffix_cons c r, fun m => by simp [readPathStart, hc, pathOf]⟩
      · exact ⟨c :: r, List.suffix_rfl, fun m => by simp [readPathStart, hc, pathOf]⟩
  have hends : ∀ z ∈ ds.getLast?, z = '/' := by
    intro z hz
    have hne : ds ≠ [] := by
      rintro rfl
      exact absurd hz (by simp)
    rw [getLast?_of_suffix hlast hsuffix hne] at hz
    exact (Option.some.inj hz).symm
  have hnow := hread []
  rw [List.append_nil, List.append_nil] at hnow
  refine ⟨_, _, hnow, ?_⟩
  rw [hread more]
  rcases readPath_append h hends with ⟨hne, hmore⟩ | ⟨hnil, hnil', hpath, hslash⟩
  · refine .inl ⟨by rw [hmore], ?_⟩
    cases htail : (readPath true ds).2 with
    | nil => exact absurd htail hne
    | cons c t =>
      have hc : (decide (c ≠ '?') && decide (c ≠ '#')) = false := not_of_dropWhile_eq_cons htail
      by_cases hquery : c = '?'
      · exact ⟨t, .inl (by rw [hquery])⟩
      · have hfragment : c = '#' := by simpa [hquery] using hc
        exact ⟨t, .inr (by rw [hfragment])⟩
  · exact .inr ⟨by rw [hpath, hnil'], hnil, hslash⟩

/-! ## Behind the path -/

/-- The fragment behind a query. -/
def fragmentBehind (cs : List Char) : Option (List Char) :=
  match cs with
  | '#' :: f => some (Percent.encode inFragment f)
  | _ => none

theorem withTail_fragment (u : Url) (r : List Char) :
    withTail u ('#' :: r) =
      { u with query := none, fragment := some (Percent.encode inFragment r) } := rfl

theorem withTail_query {u : Url} (hspecial : isSpecial u.scheme = true) (r : List Char) :
    withTail u ('?' :: r) =
      { u with
        query := some (Percent.encode inSpecialQuery (r.takeWhile fun c => c ≠ '#'))
        fragment := fragmentBehind (r.dropWhile fun c => c ≠ '#') } := by
  rw [withTail, hspecial]
  rfl

/-- Behind a query or a fragment, a name goes into it. -/
theorem withTail_append {u : Url} (h : IsPlain more) (hspecial : isSpecial u.scheme = true)
    {t : List Char} (ht : ∃ r, t = '?' :: r ∨ t = '#' :: r) :
    withTail u (t ++ more) = (withTail u t).extend more ∧
      ((withTail u t).query ≠ none ∨ (withTail u t).fragment ≠ none) := by
  have hfragment : Percent.encode inFragment more = more :=
    encode_of_isPlain h fun c hc => by
      have hpath := (h.not_encoded hc).1
      simp only [inPath, Bool.or_eq_false_iff] at hpath
      exact hpath.1.1.1.1
  have hquery : Percent.encode inSpecialQuery more = more :=
    encode_of_isPlain h fun c hc => (h.not_encoded hc).2
  obtain ⟨r, rfl | rfl⟩ := ht
  · rw [List.cons_append, withTail_query hspecial, withTail_query hspecial]
    refine ⟨?_, .inl (by simp)⟩
    rcases takeWhile_append_cases (fun c => decide (c ≠ '#')) r more with
      ⟨hdrop, htake, hmore⟩ | ⟨hall, hdrop, htake, -⟩
    · -- the fragment behind the query
      rw [htake, hmore]
      cases hd : r.dropWhile fun c => decide (c ≠ '#') with
      | nil => exact absurd hd hdrop
      | cons c f =>
        obtain rfl : c = '#' := by simpa using not_of_dropWhile_eq_cons hd
        rw [List.cons_append, fragmentBehind, fragmentBehind, encode_append, hfragment]
        rfl
    · have hall' : ∀ c ∈ r ++ more, decide (c ≠ '#') = true := by
        intro c hc
        rcases List.mem_append.1 hc with hc | hc
        · exact hall c hc
        · exact decide_eq_true (h.ne_of_mem hc (by decide))
      rw [htake, hdrop, List.takeWhile_eq_self_iff.2 hall', List.dropWhile_eq_nil_iff.2 hall',
        encode_append, hquery]
      rfl
  · rw [List.cons_append, withTail_fragment, withTail_fragment, encode_append, hfragment]
    exact ⟨rfl, .inr (by simp)⟩

/-! ## From the authority on -/

/-- The port and what follows it, from the end of the host on. -/
def readPortOn? (scheme cs : List Char) : Option (Option Nat × List Char) :=
  match cs with
  | ':' :: r => readPort? scheme r
  | _ => some (none, cs)

theorem readPortOn?_append {scheme rest : List Char} {port : Option Nat}
    (hlast : cs.getLast? = some '/') (h : readPortOn? scheme cs = some (port, rest))
    (more : List Char) :
    readPortOn? scheme (cs ++ more) = some (port, rest ++ more) ∧ rest.getLast? = some '/' := by
  cases cs with
  | nil => exact absurd hlast (by simp)
  | cons c r =>
    by_cases hc : c = ':'
    · subst hc
      exact readPort?_append (getLast?_of_cons hlast (by decide)) h more
    · have hnone : ∀ ds, readPortOn? scheme (c :: ds) = some (none, c :: ds) := by
        intro ds
        unfold readPortOn?
        split
        · rename_i hcolon
          exact absurd (List.cons.inj hcolon).1 hc
        · rfl
      rw [hnone] at h
      cases h
      exact ⟨hnone _, hlast⟩

/-- The end of an authority, in a special scheme. -/
def endsAuthority (c : Char) : Bool := c = '/' || c = '?' || c = '#' || (true && c = '\\')

/-- The URL with the path and all behind it that a text gives. -/
def withPath (u : Url) (cs : List Char) : Url :=
  withTail { u with path := (readPathStart true cs).1 } (readPathStart true cs).2

/-- A URL of a special scheme, from its authority on: its parts are read one behind the other. -/
theorem readAuthority_eq {scheme : List Char} (hspecial : isSpecial scheme = true) (cs : List Char) :
    readAuthority scheme cs =
      (readCredentials endsAuthority cs).bind fun (name, word, behind) =>
        (Host.ofSpecial? (spanHost endsAuthority false behind).1).bind fun host =>
          (readPortOn? scheme (spanHost endsAuthority false behind).2).map fun (port, pathOn) =>
            withPath ⟨scheme, name, word, some host, true, port, [], none, none⟩ pathOn := by
  have hstop : (fun c : Char => decide (c = '/') || decide (c = '?') || decide (c = '#') ||
      (true && decide (c = '\\'))) = endsAuthority := rfl
  rw [readAuthority, hspecial]
  dsimp only
  rw [hstop]
  cases readCredentials endsAuthority cs with
  | none => rfl
  | some found =>
    obtain ⟨name, word, behind⟩ := found
    dsimp only [Option.bind_some]
    cases Host.ofSpecial? (spanHost endsAuthority false behind).1 with
    | none => rfl
    | some host =>
      simp only [if_true, Option.map_some, Option.isNone_some, Bool.false_and, Bool.false_eq_true,
        if_false, Option.bind_some]
      cases hport : readPortOn? scheme (spanHost endsAuthority false behind).2 with
      | none =>
        split
        · rfl
        · rename_i hfound
          exact absurd (hport.symm.trans hfound) (by simp)
      | some found =>
        split
        · rename_i hnone
          exact absurd (hport.symm.trans hnone) (by simp)
        · rename_i hfound
          cases hport.symm.trans hfound
          rfl

theorem withPath_append {u : Url} (h : IsPlain more) (hspecial : isSpecial u.scheme = true)
    (hlast : cs.getLast? = some '/') :
    withPath u (cs ++ more) = (withPath u cs).extend more ∧ (withPath u cs).EndsInSlash := by
  obtain ⟨path, tail, hpath, ⟨hmore, htail⟩ | ⟨hmore, rfl, hslash⟩⟩ := readPathStart_append h hlast
  · obtain ⟨hextend, hsome⟩ := withTail_append (u := { u with path := path }) h hspecial htail
    rw [withPath, withPath, hmore, hpath]
    exact ⟨hextend, fun hquery hfragment => absurd hsome (by simp [hquery, hfragment])⟩
  · rw [withPath, withPath, hmore, hpath]
    exact ⟨rfl, fun _ _ => hslash⟩

theorem readAuthority_append {scheme : List Char} (h : IsPlain more)
    (hspecial : isSpecial scheme = true) (hlast : cs.getLast? = some '/') {u : Url}
    (hu : readAuthority scheme cs = some u) :
    readAuthority scheme (cs ++ more) = some (u.extend more) ∧ u.EndsInSlash := by
  rw [readAuthority_eq hspecial] at hu ⊢
  obtain ⟨⟨name, word, behind⟩, hcredentials, hu⟩ := Option.bind_eq_some_iff.1 hu
  obtain ⟨host, hhost, hu⟩ := Option.bind_eq_some_iff.1 hu
  obtain ⟨⟨port, pathOn⟩, hport, rfl⟩ := Option.map_eq_some_iff.1 hu
  obtain ⟨hcredentials', hbehind⟩ := readCredentials_append (by decide) hlast hcredentials more
  obtain ⟨hspan, hend⟩ := spanHost_append (by decide : endsAuthority '/' = true) false hbehind more
  obtain ⟨hport', hpath⟩ := readPortOn?_append hend hport more
  obtain ⟨hextend, hslash⟩ := withPath_append
    (u := ⟨scheme, name, word, some host, true, port, [], none, none⟩) h hspecial hpath
  refine ⟨?_, hslash⟩
  rw [hcredentials', Option.bind_some]
  dsimp only
  rw [hspan]
  dsimp only
  rw [hhost, Option.bind_some, hport', Option.map_some, hextend]

/-- Behind slashes alone there is no URL. -/
theorem readAuthority_nil {scheme : List Char} (hspecial : isSpecial scheme = true) :
    readAuthority scheme [] = none := by
  have hhost : Host.ofSpecial? [] = none := by decide +kernel
  have hcredentials : readCredentials endsAuthority [] = some ([], [], []) := rfl
  rw [readAuthority_eq hspecial, hcredentials, Option.bind_some]
  dsimp only [spanHost]
  rw [hhost]
  rfl

/-! ## Schemes -/

theorem scheme_readAuthority {scheme : List Char} {u : Url} (h : readAuthority scheme cs = some u) :
    u.scheme = scheme := by
  unfold readAuthority at h
  dsimp only at h
  split at h
  · exact absurd h (by simp)
  · split at h
    · exact absurd h (by simp)
    · split at h
      · exact absurd h (by simp)
      · split at h
        · exact absurd h (by simp)
        · cases h
          rfl

theorem scheme_readPlain (scheme cs : List Char) : (readPlain scheme cs).scheme = scheme := by
  unfold readPlain
  split
  · rfl
  · rfl

theorem scheme_readFile {u : Url} (h : readFile cs = some u) : u.scheme = "file".toList := by
  have hfile : ∀ host path, (fileUrl host path).scheme = "file".toList := fun _ _ => rfl
  unfold readFile at h
  dsimp only at h
  split at h
  · split at h
    · split at h
      · cases h
        exact hfile _ _
      · split at h
        · cases h
          exact hfile _ _
        · split at h
          · exact absurd h (by simp)
          · cases h
            exact hfile _ _
    · cases h
      exact hfile _ _
  · cases h
    exact hfile _ _
  · cases h
    exact hfile _ _

/-! ## The whole URL -/

/-- **A name put behind a URL that ends in a slash** gets behind the component that the URL ends in,
and all other components stay. -/
theorem ofChars?_append {u : Url} (h : IsPlain more) (hlast : cs.getLast? = some '/')
    (hu : ofChars? cs = some u) (hspecial : isSpecial u.scheme = true)
    (hfile : u.scheme ≠ "file".toList) :
    ofChars? (cs ++ more) = some (u.extend more) ∧ u.EndsInSlash := by
  obtain ⟨hsignificant, hlast⟩ := significant_append h hlast
  unfold ofChars? at hu ⊢
  rw [hsignificant]
  generalize significant cs = cs at hlast hu ⊢
  cases hscheme : readScheme? cs with
  | none =>
    rw [hscheme] at hu
    exact absurd hu (by simp)
  | some found =>
    obtain ⟨scheme, rest⟩ := found
    obtain ⟨hscheme', hrest⟩ := readScheme?_append hlast hscheme more
    rw [hscheme] at hu
    rw [hscheme']
    dsimp only at hu ⊢
    by_cases hf : scheme = "file".toList
    · rw [if_pos hf] at hu
      exact absurd (scheme_readFile hu) hfile
    · rw [if_neg hf] at hu ⊢
      by_cases hs : isSpecial scheme = true
      · rw [if_pos hs] at hu ⊢
        have hne : rest.dropWhile (fun c => c = '/' || c = '\\') ≠ [] := by
          intro hnil
          rw [hnil, readAuthority_nil hs] at hu
          exact absurd hu (by simp)
        rw [List.dropWhile_append, if_neg (by simpa using hne)]
        exact readAuthority_append h hs
          (getLast?_of_suffix hrest (List.dropWhile_suffix _) hne) hu
      · rw [if_neg hs] at hu
        split at hu
        · rw [scheme_readAuthority hu] at hspecial
          exact absurd hspecial hs
        · cases hu
          rw [scheme_readPlain] at hspecial
          exact absurd hspecial hs

end FederatedPresence.Url
