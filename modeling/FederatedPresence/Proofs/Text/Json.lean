import FederatedPresence.Text.Json
import FederatedPresence.Text.Json.Reader

/-!
# Maps are read back from JSON

**Theorem (`map?_ofMap`).** A map from text to text is read back from the object that it is written as.

Strings are read back character by character (`readString_escapeChar`), whatever follows the closing
quote; then members, one after the other (`readMembers_members`). The members come in the order of their
names, so reading inserts each behind the others, and the map is built up as it was
(`TextMap.ofList_entries`).
-/

namespace FederatedPresence

/-! ## Maps from ascending bindings -/

namespace TextMap

/-- A binding behind all others comes last. -/
theorem insertEntry_of_forall_lt {k v : String} {es : List (String × String)}
    (h : ∀ e ∈ es, e.1 < k) : insertEntry k v es = es ++ [(k, v)] := by
  induction es with
  | nil => rfl
  | cons e es ih =>
    have he : e.1 < k := h e List.mem_cons_self
    have hlt : ¬k < e.1 := fun hk => String.lt_irrefl k (String.lt_trans hk he)
    have hne : ¬k = e.1 := fun hk => String.lt_irrefl k (hk ▸ he)
    rw [insertEntry, if_neg hlt, if_neg hne, ih fun d hd => h d (List.mem_cons_of_mem _ hd)]
    rfl

theorem entries_foldl_insert {es : List (String × String)} {m : TextMap}
    (h : (m.entries ++ es).Pairwise fun a b => a.1 < b.1) :
    (es.foldl (fun m e => m.insert e.1 e.2) m).entries = m.entries ++ es := by
  induction es generalizing m with
  | nil => simp
  | cons e es ih =>
    have hlast : ∀ d ∈ m.entries, d.1 < e.1 := fun d hd =>
      (List.pairwise_append.1 h).2.2 d hd e List.mem_cons_self
    have hinsert : (m.insert e.1 e.2).entries = m.entries ++ [e] := insertEntry_of_forall_lt hlast
    rw [List.foldl_cons, ih (by simpa [hinsert] using h), hinsert]
    simp

/-- **A map is what its bindings make up.** -/
theorem ofList_entries (m : TextMap) : ofList m.entries = m := by
  have h : (ofList m.entries).entries = m.entries := entries_foldl_insert (m := empty) m.ascending
  cases hm : ofList m.entries
  cases m
  simp_all

end TextMap

namespace Json

open Text

/-! ## Strings -/

theorem hexValue?_digitChar : ∀ d : Fin 16, hexValue? (Nat.digitChar d) = some d := by
  decide

/-- A control character is read back from its number. -/
theorem unit?_control {n : Nat} (h : n < 0x20) :
    unit? '0' '0' (Nat.digitChar (n / 16)) (Nat.digitChar (n % 16)) = some n := by
  have hzero : hexValue? '0' = some 0 := by decide
  have hhigh := hexValue?_digitChar ⟨n / 16, by omega⟩
  have hlow := hexValue?_digitChar ⟨n % 16, by omega⟩
  simp only at hhigh hlow
  rw [unit?, hzero, hhigh, hlow]
  have hsum : n / 16 * 16 + n % 16 = n := Nat.div_add_mod' n 16
  simp [hsum]

/-- **A character is read back** from how it is written inside a string. -/
theorem readString_escapeChar (c : Char) (done rest : List Char) :
    readString done (escapeChar c ++ rest) = readString (c :: done) rest := by
  unfold escapeChar
  by_cases hquote : c = '"'
  · subst c; simp [readString, escaped?]
  by_cases hslash : c = '\\'
  · subst c; simp [readString, escaped?]
  by_cases hb : c = '\x08'
  · subst c; simp [readString, escaped?]
  by_cases hf : c = '\x0c'
  · subst c; simp [readString, escaped?]
  by_cases hn : c = '\n'
  · subst c; simp [readString, escaped?]
  by_cases hr : c = '\r'
  · subst c; simp [readString, escaped?]
  by_cases ht : c = '\t'
  · subst c; simp [readString, escaped?]
  by_cases hcontrol : c.toNat < 0x20
  · have hsmall : c.toNat < 0xD800 := by omega
    simp [hquote, hslash, hb, hf, hn, hr, ht, hcontrol, readString, unit?_control, hsmall]
  · simp [hquote, hslash, hb, hf, hn, hr, ht, hcontrol, readString]

/-- **A text is read back** up to its closing quote. -/
theorem readString_string (cs done rest : List Char) :
    readString done (cs.flatMap escapeChar ++ '"' :: rest) = .ok (done.reverse ++ cs, rest) := by
  induction cs generalizing done with
  | nil => simp [readString]
  | cons c cs ih =>
    rw [List.flatMap_cons, List.append_assoc, readString_escapeChar, ih]
    simp

/-! ## Members -/

theorem skipSpace_cons {c : Char} (h : isSpace c = false) (cs : List Char) :
    skipSpace (c :: cs) = c :: cs := by
  rw [skipSpace, List.dropWhile_cons_of_neg (by simp [h])]

/-- A member of an object of strings. -/
def member (e : String × String) : List Char := string e.1 ++ ':' :: string e.2

theorem string_append (s : String) (rest : List Char) :
    string s ++ rest = '"' :: (s.toList.flatMap escapeChar ++ '"' :: rest) := by
  simp [string]

theorem member_append (e : String × String) (rest : List Char) :
    member e ++ rest = '"' :: (e.1.toList.flatMap escapeChar ++ '"' :: ':' :: '"' ::
      (e.2.toList.flatMap escapeChar ++ '"' :: rest)) := by
  rw [member, List.append_assoc, string_append, List.cons_append, string_append]

/-- How reading goes on behind a member. -/
def readBehindMember (m : TextMap) (limit : Nat) (rest : List Char) :
    Except Failed (TextMap × List Char) :=
  match skipSpace rest with
  | '\x7d' :: r => .ok (m, r)
  | ',' :: r => readMembers false m limit r
  | [] => .error (failBefore .endInObject [])
  | cs => .error (failAt .expectedCommaOrEnd cs)

/-- The closing brace ends the object. -/
theorem readBehindMember_brace (m : TextMap) (limit : Nat) (rest : List Char) :
    readBehindMember m limit ('\x7d' :: rest) = .ok (m, rest) := by
  rw [readBehindMember, skipSpace_cons (by decide)]
  rfl

/-- A comma leads to the next member. -/
theorem readBehindMember_comma (m : TextMap) (limit : Nat) (rest : List Char) :
    readBehindMember m limit (',' :: rest) = readMembers false m limit rest := by
  rw [readBehindMember, skipSpace_cons (by decide)]
  rfl

/-- A member is read back and entered. -/
theorem readMembers_member (first : Bool) (m : TextMap) (limit : Nat) (e : String × String)
    (rest : List Char) :
    readMembers first m (limit + 1) (member e ++ rest) =
      readBehindMember (m.insert e.1 e.2) limit rest := by
  rw [member_append, readMembers, skipSpace_cons (by decide)]
  simp only [readString_string]
  rw [skipSpace_cons (by decide)]
  simp only
  rw [skipSpace_cons (by decide)]
  simp only [readString_string, List.reverse_nil, List.nil_append, String.ofList_toList]
  rfl

/-- **Members are read back**, one after the other. -/
theorem readMembers_members (first : Bool) (m : TextMap) {limit : Nat} (e : String × String)
    (es : List (String × String)) (hlimit : es.length < limit) (rest : List Char) :
    readMembers first m limit (commas ((e :: es).map member) ++ '\x7d' :: rest) =
      .ok ((e :: es).foldl (fun m e => m.insert e.1 e.2) m, rest) := by
  induction es generalizing first m limit e with
  | nil =>
    obtain ⟨limit, rfl⟩ : ∃ l, limit = l + 1 := ⟨limit - 1, by omega⟩
    rw [List.map_singleton, commas, readMembers_member, readBehindMember_brace]
    rfl
  | cons d es ih =>
    obtain ⟨limit, rfl⟩ : ∃ l, limit = l + 1 := ⟨limit - 1, by omega⟩
    have hcommas : commas ((e :: d :: es).map member) =
        member e ++ ',' :: commas ((d :: es).map member) := rfl
    rw [hcommas, List.append_assoc, List.cons_append, readMembers_member, readBehindMember_comma,
      ih false (m.insert e.1 e.2) d (by simpa using hlimit)]
    rfl

theorem length_le_length_commas (xs : List (List Char)) : xs.length ≤ (commas xs).length + 1 := by
  induction xs with
  | nil => exact Nat.zero_le _
  | cons x xs ih =>
    cases xs with
    | nil => exact Nat.le_add_left _ _
    | cons y ys =>
      have hcommas : commas (x :: y :: ys) = x ++ ',' :: commas (y :: ys) := rfl
      simp only [hcommas, List.length_append, List.length_cons] at ih ⊢
      omega

/-! ## Maps -/

theorem ofMap_eq (m : TextMap) : ofMap m = '\x7b' :: (commas (m.entries.map member) ++ ['\x7d']) := by
  rw [ofMap, object, List.map_map]
  rfl

/-- **A map is read back from the object that it is written as.** -/
theorem map?_ofMap (m : TextMap) : map? (String.ofList (ofMap m)) = some m := by
  have hread : readMembers true .empty (commas (m.entries.map member) ++ ['\x7d']).length.succ
      (commas (m.entries.map member) ++ ['\x7d']) = .ok (m, []) := by
    have hlength := length_le_length_commas (m.entries.map member)
    have hofList := m.ofList_entries
    cases hentries : m.entries with
    | nil =>
      rw [hentries] at hofList
      rw [← hofList]
      rfl
    | cons e es =>
      rw [hentries] at hlength hofList
      have hlimit : es.length < (commas ((e :: es).map member) ++ ['\x7d']).length.succ := by
        simp only [List.length_map, List.length_cons, List.length_append] at hlength ⊢
        omega
      rw [readMembers_members true .empty e es hlimit, ← hofList]
      rfl
  rw [map?, String.toList_ofList, ofMap_eq, readMap, skipSpace_cons (by decide)]
  simp only [hread]
  rfl

end Json

end FederatedPresence
