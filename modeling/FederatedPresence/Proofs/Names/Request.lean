import FederatedPresence.Names.Request
import FederatedPresence.Proofs.Encoding
import FederatedPresence.Proofs.Text.Ascii
import FederatedPresence.Proofs.Text.Cut

/-!
# Requests are read as they were written

**Theorem (`requestedIds_encodeRequest`).** The form that asks for some users is read as asking for
these users, in their order, each by the hyphenated text of the UUID.

The texts of UUIDs consist of characters that stand for themselves, so the form falls apart where its
pairs were joined, each pair at its sign, and only the brackets of the key are encoded.

**Theorem (`requests_read_behind_forms`).** The same holds behind any other form: what that form asks
for comes first, and nothing in it changes how the request is read. A form is read pair by pair, and
no pair reaches beyond an ampersand (`Form.parse_append_ampersand`).
-/

namespace FederatedPresence

open Text

/-! ## UUIDs in forms -/

namespace Uuid

theorem isPlain_of_mem_chars {u : Uuid} {c : Char} (h : c ∈ u.chars) : Form.isPlain c = true := by
  have hhex : ∀ d : Fin 16, Form.isPlain (hexDigit d) = true := by decide
  rcases mem_chars h with rfl | ⟨d, rfl⟩
  · decide
  · exact hhex d

theorem chars_ne_nil (u : Uuid) : u.chars ≠ [] := by
  intro h
  have := u.length_chars
  rw [h] at this
  exact absurd this (by decide)

end Uuid

/-! ## Forms behind forms -/

/-- **The pairs of two forms** that an ampersand joins are those of the one and those of the other. -/
theorem Form.parse_append_ampersand (a b : List Char) :
    parse (a ++ '&' :: b) = parse a ++ parse b := by
  rw [parse, pieces_append_separator (by decide), List.filter_append, List.map_append]
  rfl

namespace Names

/-! ## Pairs -/

/-- **Joined pairs fall apart where they were joined.** -/
theorem pieces_joinPairs {ps : List (List Char)} (hne : ps ≠ [])
    (h : ∀ p ∈ ps, ∀ c ∈ p, decide (c = '&') = false) : pieces (· = '&') (joinPairs ps) = ps := by
  induction ps with
  | nil => exact absurd rfl hne
  | cons p ps ih =>
    have hp := h p List.mem_cons_self
    cases ps with
    | nil => exact pieces_of_forall hp
    | cons q qs =>
      rw [joinPairs, pieces_append_cons hp (by decide), ih (by simp) fun r hr =>
        h r (List.mem_cons_of_mem _ hr)]
      simp

/-- The key of a request, as it is read. -/
def idKey : List Char := "AgentIDs[]".toList

theorem encodedKey_eq : encodedKey = "AgentIDs%5B%5D".toList ++ ['='] := by decide

theorem isAscii_of_mem_encodedKey : ∀ c ∈ encodedKey, isAscii c = true :=
  List.all_eq_true.1 (by decide)

/-- The brackets of the key are read back. -/
theorem decodePart_encodedKey : Form.decodePart "AgentIDs%5B%5D".toList = idKey := by
  have hbytes : Percent.decode ("AgentIDs%5B%5D".toList.map fun c => if c = '+' then ' ' else c) =
      Utf8.encode idKey := by decide +kernel
  rw [Form.decodePart, hbytes, Utf8.decodeLossy_encode (List.all_eq_true.1 (by decide))]

/-- **A pair of a request is read as the key and the user.** -/
theorem readPair_encodedKey (id : Uuid) :
    Form.readPair (encodedKey ++ id.chars) = (idKey, id.chars) := by
  have hcut : cutAt (· = '=') (encodedKey ++ id.chars) =
      some ("AgentIDs%5B%5D".toList, id.chars) := by
    rw [encodedKey_eq, List.append_assoc]
    exact cutAt_append_cons (no_match_of_not_mem (by decide)) (by decide) _
  have hid : Form.decodePart id.chars = id.chars :=
    Form.decodePart_of_plain fun _ => Uuid.isPlain_of_mem_chars
  rw [Form.readPair, hcut]
  show (Form.decodePart _, Form.decodePart _) = _
  rw [decodePart_encodedKey, hid]

theorem not_ampersand_of_mem {id : Uuid} {c : Char} (h : c ∈ encodedKey ++ id.chars) :
    decide (c = '&') = false := by
  have hkey : ∀ c ∈ encodedKey, decide (c = '&') = false := no_match_of_not_mem (by decide)
  rcases List.mem_append.1 h with h | h
  · exact hkey c h
  · obtain ⟨-, -, hc, -⟩ := Form.isPlain_iff.1 (Uuid.isPlain_of_mem_chars h)
    exact decide_eq_false hc

theorem parse_requestChars (ids : List Uuid) :
    Form.parse (requestChars ids) = ids.map fun id => (idKey, id.chars) := by
  cases ids with
  | nil => rfl
  | cons id ids =>
    have hpairs : ∀ p ∈ (id :: ids).map fun id => encodedKey ++ id.chars,
        ∀ c ∈ p, decide (c = '&') = false := by
      intro p hp c hc
      obtain ⟨i, -, rfl⟩ := List.mem_map.1 hp
      exact not_ampersand_of_mem hc
    have hfilter : ((id :: ids).map fun id => encodedKey ++ id.chars).filter (· ≠ []) =
        (id :: ids).map fun id => encodedKey ++ id.chars := by
      refine List.filter_eq_self.2 fun p hp => ?_
      obtain ⟨i, -, rfl⟩ := List.mem_map.1 hp
      simp [i.chars_ne_nil]
    rw [Form.parse, requestChars, pieces_joinPairs (by simp) hpairs, hfilter, List.map_map]
    exact List.map_congr_left fun i _ => readPair_encodedKey i

/-! ## Requests -/

/-- **A request asks for the users that it was written for.** -/
theorem requestedIds_encodeRequest (ids : List Uuid) :
    requestedIds (encodeRequest ids) = ids.map Uuid.text := by
  have hkeys : (ids.map fun id => (idKey, id.chars)).filter (fun pair => isIdKey pair.1) =
      ids.map fun id => (idKey, id.chars) := by
    refine List.filter_eq_self.2 fun pair hpair => ?_
    obtain ⟨id, -, rfl⟩ := List.mem_map.1 hpair
    show isIdKey idKey = true
    decide
  have hstrip : (ids.map fun id => (idKey, id.chars)).map (fun pair => strip isBlank pair.2) =
      ids.map Uuid.chars := by
    rw [List.map_map]
    exact List.map_congr_left fun id _ => id.strip_chars
  have hwritten : (ids.map Uuid.chars).filter (· ≠ []) = ids.map Uuid.chars := by
    refine List.filter_eq_self.2 fun cs hcs => ?_
    obtain ⟨id, -, rfl⟩ := List.mem_map.1 hcs
    simp [id.chars_ne_nil]
  rw [requestedIds, encodeRequest, String.toList_ofList, requestedChars, parse_requestChars, hkeys,
    hstrip, hwritten, List.map_map]
  rfl

/-- **Two forms ask for the users of the one and then for those of the other.** -/
theorem requestedIds_append_ampersand (a b : String) :
    requestedIds (a ++ "&" ++ b) = requestedIds a ++ requestedIds b := by
  have hjoined : (a ++ "&" ++ b).toList = a.toList ++ '&' :: b.toList := by
    rw [String.toList_append, String.toList_append, List.append_assoc]
    rfl
  rw [requestedIds, hjoined, requestedChars, Form.parse_append_ampersand, List.filter_append,
    List.map_append, List.filter_append, List.map_append]
  rfl

/-- **A request is read as it was written**, alone and behind any other form: the users stand in
their order, as often as they were written, each by the text of the UUID, and what the other form
asks for comes before them. -/
theorem requests_read_behind_forms (ids : List Uuid) :
    requestedIds (encodeRequest ids) = ids.map Uuid.text ∧
      ∀ form : String, requestedIds (form ++ "&" ++ encodeRequest ids) =
        requestedIds form ++ ids.map Uuid.text := by
  have hrequest := requestedIds_encodeRequest ids
  refine ⟨hrequest, fun form => ?_⟩
  rw [requestedIds_append_ampersand, hrequest]

/-- A user is asked for under the key without brackets, and again by the request behind that form. -/
example :
    let id : Uuid := ⟨List.replicate 32 ⟨1, by decide⟩, by decide⟩
    requestedIds ("AgentIDs=+Ada%20&other=x&" ++ encodeRequest [id, id]) =
      ["Ada", id.text, id.text] := by
  decide +kernel

/-- A request is ASCII. -/
theorem isAscii_of_mem_requestChars {ids : List Uuid} {c : Char} (h : c ∈ requestChars ids) :
    isAscii c = true := by
  have hpair : ∀ (id : Uuid), ∀ c ∈ encodedKey ++ id.chars, isAscii c = true := by
    intro id c hc
    rcases List.mem_append.1 hc with hc | hc
    · exact isAscii_of_mem_encodedKey c hc
    · exact (Form.isPlain_iff.1 (Uuid.isPlain_of_mem_chars hc)).1
  have hjoin : ∀ ps : List (List Char), (∀ p ∈ ps, ∀ c ∈ p, isAscii c = true) →
      ∀ c ∈ joinPairs ps, isAscii c = true := by
    intro ps hps
    induction ps with
    | nil => exact fun c hc => absurd hc List.not_mem_nil
    | cons p ps ih =>
      cases ps with
      | nil => exact hps p List.mem_cons_self
      | cons q qs =>
        intro c hc
        rcases List.mem_append.1 hc with hc | hc
        · exact hps p List.mem_cons_self c hc
        · rcases List.mem_cons.1 hc with rfl | hc
          · decide
          · exact ih (fun r hr => hps r (List.mem_cons_of_mem _ hr)) c hc
  refine hjoin _ (fun p hp => ?_) c h
  obtain ⟨id, -, rfl⟩ := List.mem_map.1 hp
  exact hpair id

/-- A request has a key, a sign and a UUID for each user, and an ampersand between each two users. -/
theorem length_requestChars (ids : List Uuid) : (requestChars ids).length = 52 * ids.length - 1 := by
  have hpair (id : Uuid) : (encodedKey ++ id.chars).length = 51 := by
    rw [List.length_append, id.length_chars]
    decide
  induction ids with
  | nil => rfl
  | cons id ids ih =>
    cases ids with
    | nil => exact hpair id
    | cons next ids =>
      have hjoined : requestChars (id :: next :: ids) =
          (encodedKey ++ id.chars) ++ '&' :: requestChars (next :: ids) := rfl
      rw [hjoined, List.length_append, hpair, List.length_cons, ih]
      simp only [List.length_cons]
      omega

end Names

end FederatedPresence
