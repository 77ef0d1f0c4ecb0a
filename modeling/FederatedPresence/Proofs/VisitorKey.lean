import FederatedPresence.Proofs.Text.Cut
import FederatedPresence.Proofs.Uuid
import FederatedPresence.User.Identifier

/-!
# The grammar of visitors' user keys

A visitor's user key is a hyphenated UUID in letters of either case, one of the signs `@` and `;`, an
authority without `;`, and a rest that is empty or begins with `;` (`VisitorKey`). The rest gives the
names (`GivesNames`).

**Theorem (`visitor_keys_parsed`).** The keys that are parsed are the texts of this grammar. What is
read is what the grammar says: the UUID, the home authority, and the names that the rest gives, which
it gives alone. Such a key is a federated one, and its canonical key is the UUID as it is spelled.

Keys are cut behind byte 36. `parseSliced` makes this cut twice: once as a cut that may be
impossible, and once as one that fails where it would fall inside a character or behind the end. It
never does fail (`parseSliced_eq`): the first cut has shown that there is one.
-/

namespace FederatedPresence

open Text

namespace Identifier

/-! ## Names -/

/-- What may follow an authority: nothing, or segments that a `;` begins. -/
def IsRest (rest : List Char) : Prop := rest = [] ∨ ∃ body, rest = ';' :: body

/-- The names that stand behind an authority. -/
inductive GivesNames : List Char → String → String → Prop
  | nobody : GivesNames [] "" ""
  /-- One segment with a single word. -/
  | word {segment : List Char} (hsegment : ';' ∉ segment)
      (hword : ∀ c ∈ strip isBlank segment, ¬(c = ' ' ∨ c = '.')) :
      GivesNames (';' :: segment) (String.ofList (strip isBlank segment)) ""
  /-- One segment with a space or a dot, the first of which ends the first name. -/
  | fullName {segment first last : List Char} {sign : Char} (hsegment : ';' ∉ segment)
      (hname : strip isBlank segment = first ++ sign :: last) (hsign : sign = ' ' ∨ sign = '.')
      (hfirst : ∀ c ∈ first, ¬(c = ' ' ∨ c = '.')) :
      GivesNames (';' :: segment) (String.ofList first) (String.ofList last)
  /-- Two segments or more, of which the first two count. -/
  | firstAndLast {first last more : List Char} (hfirst : ';' ∉ first) (hlast : ';' ∉ last)
      (hmore : IsRest more) :
      GivesNames (';' :: (first ++ ';' :: (last ++ more))) (String.ofList (strip isBlank first))
        (String.ofList (strip isBlank last))

/-- The segments of what follows an authority. -/
def segments : List Char → List (List Char)
  | [] => []
  | _ :: body => pieces (· = ';') body

/-- Behind an authority the segments begin. -/
theorem pieces_append_rest {authority rest : List Char} (hauthority : ';' ∉ authority)
    (hrest : IsRest rest) : pieces (· = ';') (authority ++ rest) = authority :: segments rest := by
  have hplain := no_match_of_not_mem hauthority
  rcases hrest with rfl | ⟨body, rfl⟩
  · rw [List.append_nil, pieces_of_forall hplain, segments]
  · rw [pieces_append_cons hplain (by decide), segments]

/-- A text is what stands before its first `;`, and a rest. -/
theorem exists_rest (cs : List Char) : ∃ a rest, cs = a ++ rest ∧ ';' ∉ a ∧ IsRest rest := by
  rcases separator_cases (· = ';') cs with hall | ⟨a, c, b, rfl, hc, ha⟩
  · exact ⟨cs, [], (List.append_nil cs).symm, fun h => absurd (hall _ h) (by decide), .inl rfl⟩
  · obtain rfl : c = ';' := of_decide_eq_true hc
    exact ⟨a, ';' :: b, rfl, fun h => absurd (ha _ h) (by decide), .inr ⟨b, rfl⟩⟩

theorem splitName_of_forall {segment : List Char}
    (h : ∀ c ∈ strip isBlank segment, ¬(c = ' ' ∨ c = '.')) :
    splitName segment = (String.ofList (strip isBlank segment), "") := by
  have hcut : cutAt (fun c => c = ' ' || c = '.') (strip isBlank segment) = none :=
    cutAt_of_forall fun c hc => by simpa using h c hc
  simp only [splitName, hcut]

theorem splitName_of_eq {segment first last : List Char} {sign : Char}
    (hname : strip isBlank segment = first ++ sign :: last) (hsign : sign = ' ' ∨ sign = '.')
    (hfirst : ∀ c ∈ first, ¬(c = ' ' ∨ c = '.')) :
    splitName segment = (String.ofList first, String.ofList last) := by
  have hcut : cutAt (fun c => c = ' ' || c = '.') (strip isBlank segment) = some (first, last) := by
    rw [hname]
    exact cutAt_append_cons (fun c hc => by simpa using hfirst c hc) (by simpa using hsign) last
  simp only [splitName, hcut]

/-- What the grammar says of names is what is read. -/
theorem GivesNames.names_eq {rest : List Char} {first last : String}
    (h : GivesNames rest first last) : names (segments rest) = (first, last) := by
  cases h with
  | nobody => rfl
  | word hsegment hword =>
    rw [segments, pieces_of_forall (no_match_of_not_mem hsegment), names,
      splitName_of_forall hword]
  | fullName hsegment hname hsign hfirst =>
    rw [segments, pieces_of_forall (no_match_of_not_mem hsegment), names,
      splitName_of_eq hname hsign hfirst]
  | firstAndLast hfirst hlast hmore =>
    rw [segments, pieces_append_rest hfirst (.inr ⟨_, rfl⟩), segments,
      pieces_append_rest hlast hmore, names]

/-- One segment gives the names that it is split into. -/
theorem givesNames_splitName {segment : List Char} (hsegment : ';' ∉ segment) :
    GivesNames (';' :: segment) (splitName segment).1 (splitName segment).2 := by
  rcases separator_cases (fun c => c = ' ' || c = '.') (strip isBlank segment) with
    hall | ⟨first, sign, last, hname, hsign, hfirst⟩
  · have hword : ∀ c ∈ strip isBlank segment, ¬(c = ' ' ∨ c = '.') := by simpa using hall
    rw [splitName_of_forall hword]
    exact .word hsegment hword
  · have hsign : sign = ' ' ∨ sign = '.' := by simpa using hsign
    have hfirst : ∀ c ∈ first, ¬(c = ' ' ∨ c = '.') := by simpa using hfirst
    rw [splitName_of_eq hname hsign hfirst]
    exact .fullName hsegment hname hsign hfirst

/-- **Whatever follows an authority gives names.** -/
theorem givesNames_names {rest : List Char} (h : IsRest rest) :
    GivesNames rest (names (segments rest)).1 (names (segments rest)).2 := by
  rcases h with rfl | ⟨body, rfl⟩
  · exact .nobody
  obtain ⟨first, rest, rfl, hfirst, hrest⟩ := exists_rest body
  rw [segments, pieces_append_rest hfirst hrest]
  rcases hrest with rfl | ⟨body, rfl⟩
  · rw [List.append_nil, segments, names]
    exact givesNames_splitName hfirst
  obtain ⟨last, more, rfl, hlast, hmore⟩ := exists_rest body
  rw [segments, pieces_append_rest hlast hmore, names]
  exact .firstAndLast hfirst hlast hmore

theorem givesNames_iff {rest : List Char} (h : IsRest rest) (first last : String) :
    GivesNames rest first last ↔
      first = (names (segments rest)).1 ∧ last = (names (segments rest)).2 := by
  constructor
  · intro hgives
    rw [hgives.names_eq]
    exact ⟨rfl, rfl⟩
  · rintro ⟨rfl, rfl⟩
    exact givesNames_names h

end Identifier

open Identifier

/-! ## Keys -/

/-- The parts of a visitor's user key. -/
structure VisitorKey where
  /-- The UUID as it is spelled. -/
  head : List Char
  uuid : Uuid
  /-- The spelling is the hyphenated one, in letters of either case. -/
  head_spells : head.map Char.toLower = uuid.chars
  sign : Char
  sign_eq : sign = '@' ∨ sign = ';'
  authority : List Char
  authority_ends : ';' ∉ authority
  /-- The home authority as an address. -/
  home : String
  authority_names : normalizeAuthority? (String.ofList authority) = some home
  rest : List Char
  isRest : IsRest rest

namespace VisitorKey

/-- The key, put together. -/
def text (k : VisitorKey) : String := String.ofList (k.head ++ k.sign :: (k.authority ++ k.rest))

theorem byteLength_head (k : VisitorKey) : byteLength k.head = uuidLength :=
  Uuid.byteLength_of_map_toLower k.head_spells

theorem splitAtByte_text (k : VisitorKey) :
    splitAtByte uuidLength k.text.toList = some (k.head, k.sign :: (k.authority ++ k.rest)) := by
  rw [text, String.toList_ofList, splitAtByte_eq_some_iff]
  exact ⟨rfl, k.byteLength_head⟩

theorem isFederated_text (k : VisitorKey) : isFederated k.text = true := by
  refine decide_eq_true ?_
  have := k.sign.utf8Size_pos
  rw [text, String.toList_ofList, byteLength_append, byteLength_cons, k.byteLength_head]
  omega

end VisitorKey

namespace Identifier

/-! ## Parsing -/

/-- What a key says of which the UUID was read. -/
def parseTail? (uuid : Uuid) (tail : List Char) : Option Identifier :=
  match afterSign? tail with
  | none => none
  | some rest =>
    match pieces (· = ';') rest with
    | [] => none
    | authority :: segments =>
      (normalizeAuthority? (String.ofList authority)).map fun home =>
        ⟨uuid, home, (names segments).1, (names segments).2⟩

theorem parse?_eq (userId : String) :
    parse? userId = (splitAtByte uuidLength userId.toList).bind fun parts =>
      (Uuid.ofChars? parts.1).bind fun uuid => parseTail? uuid parts.2 := by
  unfold parse?
  cases splitAtByte uuidLength userId.toList with
  | none => rfl
  | some parts =>
    obtain ⟨head, tail⟩ := parts
    simp only [Option.bind_some, parseTail?]
    cases Uuid.ofChars? head with
    | none => rfl
    | some uuid =>
      cases afterSign? tail with
      | none => rfl
      | some rest =>
        simp only [Option.bind_some]
        cases pieces (· = ';') rest with
        | nil => rfl
        | cons authority segments =>
          simp only
          cases normalizeAuthority? (String.ofList authority) <;> rfl

theorem afterSign?_eq_some_iff {tail rest : List Char} :
    afterSign? tail = some rest ↔ ∃ sign, (sign = '@' ∨ sign = ';') ∧ tail = sign :: rest := by
  constructor
  · intro h
    unfold afterSign? at h
    split at h
    · cases h
      exact ⟨'@', .inl rfl, rfl⟩
    · cases h
      exact ⟨';', .inr rfl, rfl⟩
    · cases h
  · rintro ⟨sign, rfl | rfl, rfl⟩ <;> rfl

/-- What stands behind the UUID is read as authority and names. -/
theorem parseTail?_append {sign : Char} {authority rest : List Char}
    (hsign : sign = '@' ∨ sign = ';') (hauthority : ';' ∉ authority) (hrest : IsRest rest)
    (uuid : Uuid) :
    parseTail? uuid (sign :: (authority ++ rest)) =
      (normalizeAuthority? (String.ofList authority)).map fun home =>
        ⟨uuid, home, (names (segments rest)).1, (names (segments rest)).2⟩ := by
  simp only [parseTail?, afterSign?_eq_some_iff.2 ⟨sign, hsign, rfl⟩,
    pieces_append_rest hauthority hrest]

/-- **A text of the grammar is read as it says.** -/
theorem parse?_text (k : VisitorKey) :
    parse? k.text =
      some ⟨k.uuid, k.home, (names (segments k.rest)).1, (names (segments k.rest)).2⟩ := by
  have huuid : Uuid.ofChars? k.head = some k.uuid :=
    (Uuid.ofChars?_eq_some_iff_of_byteLength k.byteLength_head).2 k.head_spells
  rw [parse?_eq, k.splitAtByte_text, Option.bind_some, huuid, Option.bind_some,
    parseTail?_append k.sign_eq k.authority_ends k.isRest, k.authority_names, Option.map_some]

/-- **What is read is a text of the grammar.** -/
theorem exists_visitorKey {userId : String} {v : Identifier} (h : parse? userId = some v) :
    ∃ k : VisitorKey, k.text = userId := by
  rw [parse?_eq] at h
  obtain ⟨⟨head, tail⟩, hcut, h⟩ := Option.bind_eq_some_iff.1 h
  obtain ⟨uuid, huuid, h⟩ := Option.bind_eq_some_iff.1 h
  obtain ⟨hparts, hlength⟩ := splitAtByte_eq_some_iff.1 hcut
  have hspells := (Uuid.ofChars?_eq_some_iff_of_byteLength hlength).1 huuid
  cases hbody : afterSign? tail with
  | none => simp [parseTail?, hbody] at h
  | some body =>
    obtain ⟨sign, hsign, rfl⟩ := afterSign?_eq_some_iff.1 hbody
    obtain ⟨authority, rest, rfl, hauthority, hrest⟩ := exists_rest body
    rw [parseTail?_append hsign hauthority hrest] at h
    obtain ⟨home, hhome, -⟩ := Option.map_eq_some_iff.1 h
    refine ⟨⟨head, uuid, hspells, sign, hsign, authority, hauthority, home, hhome, rest, hrest⟩, ?_⟩
    rw [VisitorKey.text, ← hparts, String.ofList_toList]

/-- A user key that is parsed begins with a UUID. -/
theorem hasUuidKey_of_parse? {userId : String} {v : Identifier} (h : parse? userId = some v) :
    HasUuidKey userId := by
  obtain ⟨k, rfl⟩ := exists_visitorKey h
  exact HasUuidKey.of_splitAtByte k.splitAtByte_text

/-! ## Slices -/

/-- A slice was asked for that begins inside a character, or behind the end. -/
structure BadSlice where
  offset : Nat

/-- The text up to an offset in bytes, if there is a cut. -/
def slice? (n : Nat) (cs : List Char) : Option (List Char) := (splitAtByte n cs).map Prod.fst

/-- The text from an offset in bytes on, for which there must be a cut. -/
def sliceFrom (n : Nat) (cs : List Char) : Except BadSlice (List Char) :=
  match splitAtByte n cs with
  | some (_, tail) => .ok tail
  | none => .error ⟨n⟩

/-- Parses a key step by step, with the slices that this takes. -/
def parseSliced (userId : String) : Except BadSlice (Option Identifier) :=
  if isFederated userId then
    match (slice? uuidLength userId.toList).bind Uuid.ofChars? with
    | none => .ok none
    | some uuid => (sliceFrom uuidLength userId.toList).map (parseTail? uuid)
  else .ok none

/-- A key that is not longer than a UUID is none of a visitor. -/
theorem parse?_of_not_isFederated {userId : String} (h : ¬isFederated userId = true) :
    parse? userId = none := by
  rw [Option.eq_none_iff_forall_ne_some]
  intro v hv
  obtain ⟨k, rfl⟩ := exists_visitorKey hv
  exact h k.isFederated_text

/-- **No slice is a bad one**: where a UUID was read there is a cut behind it. -/
theorem parseSliced_eq (userId : String) : parseSliced userId = .ok (parse? userId) := by
  unfold parseSliced
  split
  · rw [parse?_eq, slice?, sliceFrom]
    cases splitAtByte uuidLength userId.toList with
    | none => rfl
    | some parts =>
      obtain ⟨head, tail⟩ := parts
      simp only [Option.map_some, Option.bind_some]
      cases Uuid.ofChars? head <;> rfl
  · rename_i h
    rw [parse?_of_not_isFederated h]

/-- **The parser accepts its grammar and nothing else.** No slice that it takes is a bad one. A user
key is accepted exactly when it is the text of a visitor's key, and then it is read as the UUID, the
home and the only names that the grammar gives. It is a federated key, and its canonical key is the
UUID as it is spelled, of the length of a UUID. -/
theorem visitor_keys_parsed :
    (∀ userId, parseSliced userId = .ok (parse? userId)) ∧
      (∀ userId, (parse? userId).isSome = true ↔ ∃ k : VisitorKey, k.text = userId) ∧
      ∀ k : VisitorKey,
        (∃ first last, parse? k.text = some ⟨k.uuid, k.home, first, last⟩ ∧
          ∀ f l, GivesNames k.rest f l ↔ f = first ∧ l = last) ∧
        byteLength k.head = uuidLength ∧ isFederated k.text = true ∧
        canonicalKey k.text = String.ofList k.head := by
  refine ⟨parseSliced_eq, fun userId => ⟨fun h => ?_, ?_⟩, fun k => ⟨?_, k.byteLength_head,
    k.isFederated_text, canonicalKey_of_splitAtByte k.splitAtByte_text⟩⟩
  · obtain ⟨v, hv⟩ := Option.isSome_iff_exists.1 h
    exact exists_visitorKey hv
  · rintro ⟨k, rfl⟩
    rw [parse?_text, Option.isSome_some]
  · exact ⟨_, _, parse?_text k, givesNames_iff k.isRest⟩

/-- A key with a UUID in capitals, a bare host name, and a full name between blanks. -/
def adaKey : VisitorKey where
  head := "01234567-89AB-CDEF-0123-456789ABCDEF".toList
  uuid := ⟨List.finRange 16 ++ List.finRange 16, by decide⟩
  head_spells := by decide
  sign := ';'
  sign_eq := .inr rfl
  authority := "grid.example.org".toList
  authority_ends := by decide
  home := "http://grid.example.org/"
  authority_names := by decide +kernel
  rest := "; Ada Lovelace ".toList
  isRest := .inr ⟨" Ada Lovelace ".toList, by decide⟩

/-- The UUID is read in small letters, and stays in capitals in the canonical key. -/
theorem visitor_keys_parsed_capitals :
    let key := "01234567-89AB-CDEF-0123-456789ABCDEF;grid.example.org; Ada Lovelace "
    ∃ uuid : Uuid, parse? key = some ⟨uuid, "http://grid.example.org/", "Ada", "Lovelace"⟩ ∧
      uuid.text = "01234567-89ab-cdef-0123-456789abcdef" ∧ isFederated key = true ∧
      canonicalKey key = "01234567-89AB-CDEF-0123-456789ABCDEF" := by
  intro key
  have htext : adaKey.text = key := by decide +kernel
  have hnames : GivesNames adaKey.rest "Ada" "Lovelace" :=
    @GivesNames.fullName " Ada Lovelace ".toList "Ada".toList "Lovelace".toList ' ' (by decide)
      (by decide) (.inl rfl) (by simp)
  obtain ⟨⟨first, last, hparse, hgives⟩, -, hfederated, hcanonical⟩ :=
    visitor_keys_parsed.2.2 adaKey
  obtain ⟨rfl, rfl⟩ := (hgives "Ada" "Lovelace").1 hnames
  rw [htext] at hparse hfederated hcanonical
  exact ⟨adaKey.uuid, hparse, by decide, hfederated, hcanonical⟩

end Identifier

end FederatedPresence
