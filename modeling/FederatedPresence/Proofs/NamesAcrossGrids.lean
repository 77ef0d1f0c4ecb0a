import FederatedPresence.Proofs.NameOrigin
import FederatedPresence.Proofs.Names.Pairs
import FederatedPresence.Proofs.Names.Request
import FederatedPresence.Proofs.Remembered
import FederatedPresence.Proofs.Room

/-!
# Names across grids

One grid asks another for the names of some users, and reads the reply.

**Theorem (`names_across_grids`).** In every state of every run, the reply of the grid that is asked
can be read, and the table that is read names exactly the users who were asked for and found with a
name. Each has that name without white space of markup at its ends, and otherwise character for
character. The users are looked up one after the other (`Grid.answersTo`); of several answers for one
user, the last one with a name counts. When the cache has room, or says nothing false about a user,
every answer is what a lookup before the request would have given (`Grid.FindsSame`).

**Counterexample (`named_unlike_before_and_after`).** Otherwise a lookup may drop what the cache
remembers of a user who comes later in the same request. Then the table agrees neither with lookups
before the request nor with lookups after it.

The form is read as the users that it was written for (`Names.requestedIds_encodeRequest`), as long as
it is no longer than a grid accepts (`Grid.length_namesRequest_le_iff`), and the reply as the pairs that
it was written from (`Names.parseReply_renderReply`). A pair has the canonical key of the record that was
found; since records are filed under their user keys (`Grid.fromRows_beginsWith`), that is the UUID that
was asked for.
-/

namespace FederatedPresence

open Text

theorem Uuid.canonicalKey_text (id : Uuid) : canonicalKey id.text = id.text := by
  refine (beginsWith_iff_canonicalKey_eq id.hasUuidLength_text).1 ?_
  exact beginsWith_iff.2 (List.prefix_refl _)

/-! ## Answers -/

/-- The name that a reader of a reply takes from an answer, if the answer has one. -/
def nameRead? (found : Option Presence) : Option String :=
  (found.filter fun p => p.displayName ≠ "").map fun p =>
    String.ofList (strip Names.isSpace p.displayName.toList)

theorem nameRead?_eq_some_iff {found : Option Presence} {name : String} :
    nameRead? found = some name ↔ ∃ p, found = some p ∧ p.displayName ≠ "" ∧
      name = String.ofList (strip Names.isSpace p.displayName.toList) := by
  constructor
  · intro h
    obtain ⟨p, hp, rfl⟩ := Option.map_eq_some_iff.1 h
    obtain ⟨hfound, hname⟩ := Option.filter_eq_some_iff.1 hp
    exact ⟨p, hfound, by simpa using hname, rfl⟩
  · rintro ⟨p, rfl, hname, rfl⟩
    simp [nameRead?, hname]

/-- What is read of some answers, one after the other. -/
def tableOfAnswers (answers : List (Uuid × Option Presence)) : NameTable :=
  .ofList (answers.filterMap fun a => (nameRead? a.2).map fun name => (a.1, name))

/-- The names that some answers give a user. -/
def namesGiven (id : Uuid) (answers : List (Uuid × Option Presence)) : List String :=
  answers.filterMap fun a => if a.1 = id then nameRead? a.2 else none

/-- **A user's last name counts.** -/
theorem get?_tableOfAnswers (answers : List (Uuid × Option Presence)) (id : Uuid) :
    (tableOfAnswers answers).get? id = (namesGiven id answers).getLast? := by
  rw [tableOfAnswers, NameTable.get?_ofList, List.filterMap_filterMap, namesGiven]
  congr 2
  funext a
  cases nameRead? a.2 with
  | none => simp
  | some name => simp

/-- When all answers for a user are the same, they count if the user is asked for. -/
theorem getLast?_namesGiven {answers : List (Uuid × Option Presence)} {id : Uuid}
    {found : Option Presence} (h : ∀ a ∈ answers, a.1 = id → a.2 = found) {name : String} :
    (namesGiven id answers).getLast? = some name ↔
      id ∈ answers.map (·.1) ∧ nameRead? found = some name := by
  have hmem : ∀ n ∈ namesGiven id answers, id ∈ answers.map (·.1) ∧ nameRead? found = some n := by
    intro n hn
    obtain ⟨a, ha, hgiven⟩ := List.mem_filterMap.1 hn
    by_cases hid : a.1 = id
    · rw [if_pos hid, h a ha hid] at hgiven
      exact ⟨List.mem_map.2 ⟨a, ha, hid⟩, hgiven⟩
    · rw [if_neg hid] at hgiven
      exact absurd hgiven (by simp)
  constructor
  · intro hlast
    exact hmem name (List.mem_of_getLast? hlast)
  · rintro ⟨hid, hname⟩
    obtain ⟨a, ha, hid⟩ := List.mem_map.1 hid
    have hgiven : name ∈ namesGiven id answers := by
      refine List.mem_filterMap.2 ⟨a, ha, ?_⟩
      rw [if_pos hid, h a ha hid, hname]
    cases hlast : (namesGiven id answers).getLast? with
    | none =>
      rw [List.getLast?_eq_none_iff.1 hlast] at hgiven
      exact absurd hgiven List.not_mem_nil
    | some n =>
      obtain ⟨-, hn⟩ := hmem n (List.mem_of_getLast? hlast)
      rw [hname] at hn
      exact hn.symm

/-- A pair under a UUID names the user. -/
theorem userOf?_text (id : Uuid) (name : String) : Names.userOf? (id.text, name) = some id := by
  rw [Names.userOf?, Uuid.text, String.toList_ofList, id.strip_chars, id.ofChars?_chars]

/-- **What is read of a reply is what was found**, when the records that were found begin with the
UUIDs that were asked for. -/
theorem foldl_addPair {answers : List (Uuid × Option Presence)}
    (h : ∀ a ∈ answers, ∀ p, a.2 = some p → canonicalKey p.userId = a.1.text) :
    (((answers.map (·.2)).filterMap Grid.namedPair?).map Names.trimmedPair).foldl Names.addPair
      .empty = tableOfAnswers answers := by
  rw [Names.foldl_addPair_map_trimmedPair, List.filterMap_filterMap, List.filterMap_map,
    tableOfAnswers, NameTable.ofList]
  congr 1
  refine List.filterMap_congr fun a ha => ?_
  obtain ⟨id, found⟩ := a
  cases found with
  | none => rfl
  | some p =>
    have hkey : canonicalKey p.userId = id.text := h _ ha p rfl
    by_cases hname : p.displayName = ""
    · have hpair : Grid.namedPair? (some p) = none := if_pos hname
      simp [hpair, nameRead?, Option.filter, hname]
    · have hpair : Grid.namedPair? (some p) = some (id.text, p.displayName) := by
        rw [← hkey]
        exact if_neg hname
      have hread : nameRead? (some p) = some (String.ofList (strip Names.isSpace
          p.displayName.toList)) := nameRead?_eq_some_iff.2 ⟨p, rfl, hname, rfl⟩
      simp [hpair, hread, Names.entryOf?, userOf?_text, Names.trimmedPair]

namespace Grid

/-! ## Requests -/

/-- The request that another grid sends for the names of some users. -/
def namesRequest (ids : List Uuid) : Http.Request :=
  ⟨"POST", "/get_display_names", Utf8.encode (Names.encodeRequest ids).toList⟩

/-- **A request for up to 40329 users is read**, and none for more: the form is longer then than what a
grid accepts. -/
theorem length_namesRequest_le_iff (ids : List Uuid) :
    (namesRequest ids).body.length ≤ longestBody ↔ ids.length ≤ 40329 := by
  have hlength : (namesRequest ids).body.length = 52 * ids.length - 1 := by
    rw [namesRequest, Names.encodeRequest, String.toList_ofList,
      Utf8.length_encode fun _ => Names.isAscii_of_mem_requestChars, Names.length_requestChars]
  rw [hlength, longestBody]
  omega

variable {σ : Type} [RecordStore σ]

/-- What users are found to be, one after the other, each in the state that the lookups before have
left. -/
def answersTo (g : Grid σ) : List Uuid → List (Uuid × Option Presence)
  | [] => []
  | id :: ids => (id, (g.resolve id.text).1) :: answersTo (g.resolve id.text).2 ids

theorem map_snd_answersTo (g : Grid σ) (ids : List Uuid) :
    (g.answersTo ids).map (·.2) = (g.resolveAll (ids.map Uuid.text)).1 := by
  induction ids generalizing g with
  | nil => rfl
  | cons id ids ih =>
    rw [answersTo, List.map_cons, ih, List.map_cons, resolveAll]

theorem map_fst_answersTo (g : Grid σ) (ids : List Uuid) : (g.answersTo ids).map (·.1) = ids := by
  induction ids generalizing g with
  | nil => rfl
  | cons id ids ih => rw [answersTo, List.map_cons, ih]

theorem namesReply_eq (g : Grid σ) {form : String} {ids : List String}
    (hform : Names.requestedIds form = ids) (hids : ids ≠ []) :
    g.namesReply form = (Names.renderReply ((g.resolveAll ids).1.filterMap namedPair?),
      (g.resolveAll ids).2) := by
  cases ids with
  | nil => exact absurd rfl hids
  | cons id ids =>
    unfold namesReply
    rw [hform]
    simp only [namesFor_eq]

/-- **A request for names is answered with a reply** that names those who are found with a name. -/
theorem handle_namesRequest (g : Grid σ) {ids : List Uuid} (hids : ids ≠ [])
    (hlength : (namesRequest ids).body.length ≤ longestBody) :
    g.handle (namesRequest ids) = (.typed 200 "text/xml"
      (Names.renderReply (((g.answersTo ids).map (·.2)).filterMap namedPair?)),
      (g.resolveAll (ids.map Uuid.text)).2) := by
  have hroute : Route.ofPath? (Http.path (namesRequest ids).target) = some .displayNames := by
    show Route.ofPath? (Http.path "/get_display_names") = some .displayNames
    decide +kernel
  have hmethod : Route.displayNames.methods.contains (namesRequest ids).method = true := by
    show Route.displayNames.methods.contains "POST" = true
    decide
  have hhead : (namesRequest ids).method ≠ "HEAD" := by
    show "POST" ≠ "HEAD"
    decide
  have hread : readBody (namesRequest ids).body = .ok (Names.encodeRequest ids) := by
    have hdecode : Utf8.decode (namesRequest ids).body = .ok (Names.requestChars ids) := by
      rw [namesRequest, Names.encodeRequest, String.toList_ofList]
      exact Utf8.decode_encode fun _ => Names.isAscii_of_mem_requestChars
    rw [readBody, if_neg (Nat.not_lt.2 hlength), hdecode]
    rfl
  have hreply := g.namesReply_eq (Names.requestedIds_encodeRequest ids) (by simpa using hids)
  unfold handle
  rw [hroute]
  simp only [hmethod, if_true, hhead, if_false, serve, afterReading, hread, hreply, map_snd_answersTo]

/-! ## Records in memory -/

variable {g : Grid MemoryStore} {ids : List Uuid}

/-- **Whoever is found is the user who was asked for.** -/
theorem canonicalKey_of_mem_answersTo (h : g.Remembers fun key p => beginsWith key p.userId = true)
    {a : Uuid × Option Presence} (ha : a ∈ g.answersTo ids) {p : Presence} (hp : a.2 = some p) :
    canonicalKey p.userId = a.1.text := by
  induction ids generalizing g with
  | nil => exact absurd ha List.not_mem_nil
  | cons id ids ih =>
    rcases List.mem_cons.1 ha with rfl | ha
    · have hstart := h.fst_lookup fromRows_beginsWith (fst_lookup_of_resolve hp)
      rw [id.canonicalKey_text] at hstart
      exact (beginsWith_iff_canonicalKey_eq id.hasUuidLength_text).1 hstart
    · exact ih (h.resolve fromRows_beginsWith id.text) ha

/-- **The reply is read as what was found.** -/
theorem parseReply_handle (h : g.Remembers fun key p => beginsWith key p.userId = true)
    (hids : ids ≠ []) (hlength : (namesRequest ids).body.length ≤ longestBody) :
    Names.parseReply (g.handle (namesRequest ids)).1.body =
      .ok (tableOfAnswers (g.answersTo ids)) := by
  rw [handle_namesRequest g hids hlength]
  show Names.parseReply (Names.renderReply _) = _
  rw [Names.parseReply_renderReply,
    foldl_addPair fun a ha p hp => canonicalKey_of_mem_answersTo h ha hp]

/-- When the cache says nothing false about a user, the user is found as the rows say. -/
theorem snd_of_mem_answersTo {id : Uuid} (h : g.CoherentOn (· = id.text))
    (hfaults : g.link.faults.getAllFails = false) {a : Uuid × Option Presence}
    (ha : a ∈ g.answersTo ids) (hid : a.1 = id) : a.2 = g.link.store.foundBy id.text := by
  induction ids generalizing g with
  | nil => exact absurd ha List.not_mem_nil
  | cons i ids ih =>
    rcases List.mem_cons.1 ha with rfl | ha
    · obtain rfl : i = id := hid
      exact resolve_eq_of_coherent h hfaults i.canonicalKey_text
    · rw [← g.store_resolve i.text]
      exact ih (h.resolve i.text) (by rw [(g.sameFrame_resolve i.text).faults, hfaults]) ha

/-- While the cache has room, everybody is found as before the request. -/
theorem snd_of_mem_answersTo_of_hasRoom (h : g.cache.HasRoom ids.length)
    {a : Uuid × Option Presence} (ha : a ∈ g.answersTo ids) : a.2 = (g.resolve a.1.text).1 := by
  induction ids generalizing g with
  | nil => exact absurd ha List.not_mem_nil
  | cons id ids ih =>
    rcases List.mem_cons.1 ha with rfl | ha
    · rfl
    · rw [ih (hasRoom_resolve h id.text) ha]
      exact fst_resolve_resolve (h.mono (Nat.le_add_left 1 _)) _ _

/-- A request for some users does not change what a user is found to be: the cache has room for
everybody, or says nothing false about the user, and lookups do not fail. -/
def FindsSame (g : Grid MemoryStore) (ids : List Uuid) (id : Uuid) : Prop :=
  g.cache.HasRoom ids.length ∨ (g.CoherentOn (· = id.text) ∧ g.link.faults.getAllFails = false)

theorem FindsSame.snd_of_mem_answersTo {id : Uuid} (h : g.FindsSame ids id)
    {a : Uuid × Option Presence} (ha : a ∈ g.answersTo ids) (hid : a.1 = id) :
    a.2 = (g.resolve id.text).1 := by
  rcases h with hroom | ⟨hcoherent, hfaults⟩
  · rw [← hid]
    exact snd_of_mem_answersTo_of_hasRoom hroom ha
  · rw [resolve_eq_of_coherent hcoherent hfaults id.canonicalKey_text]
    exact Grid.snd_of_mem_answersTo hcoherent hfaults ha hid

end Grid

/-! ## The exchange -/

/-- **The grid that asks reads what the grid that is asked finds.** -/
theorem names_across_grids (policy : Policy) (maxEntries : Nat) (wall : WallTime)
    (rows : List Record) (network : Network) (events : List Event) (ids : List Uuid)
    (hids : ids ≠ []) (hlength : (Grid.namesRequest ids).body.length ≤ longestBody) :
    let g := ((Federation.start policy maxEntries wall rows network).run events).grid
    (g.handle (Grid.namesRequest ids)).1.status = 200 ∧
      ∃ table, Names.parseReply (g.handle (Grid.namesRequest ids)).1.body = .ok table ∧
        (∀ id, table.get? id = (namesGiven id (g.answersTo ids)).getLast?) ∧
        ∀ id, g.FindsSame ids id → ∀ name, table.get? id = some name ↔
          id ∈ ids ∧ ∃ p, (g.resolve id.text).1 = some p ∧ p.displayName ≠ "" ∧
            name = String.ofList (strip Names.isSpace p.displayName.toList) := by
  intro g
  have hfiled : g.Remembers fun key p => beginsWith key p.userId = true :=
    Grid.Remembers.run Grid.fromRows_beginsWith policy maxEntries wall ⟨rows⟩ network events
  have hstatus : (g.handle (Grid.namesRequest ids)).1.status = 200 := by
    rw [Grid.handle_namesRequest g hids hlength]
    rfl
  refine ⟨hstatus, _, Grid.parseReply_handle hfiled hids hlength, get?_tableOfAnswers _, ?_⟩
  intro id hsame name
  rw [get?_tableOfAnswers, getLast?_namesGiven fun a ha hid => hsame.snd_of_mem_answersTo ha hid,
    g.map_fst_answersTo ids, nameRead?_eq_some_iff]

/-- A visitor's name that is made of markup, with blanks around it. The visitor is asked for twice, and
between the two for a user whom nobody knows and for one of this grid. -/
theorem names_across_grids_markup :
    let ann : Uuid := ⟨List.replicate 32 1, by decide⟩
    let bob : Uuid := ⟨List.replicate 32 2, by decide⟩
    let unknown : Uuid := ⟨List.replicate 32 3, by decide⟩
    let row (userId name : String) : Record := ⟨userId, .ofList [("DisplayName", name)]⟩
    let g := ((Federation.start ⟨1000, 500, ⟨1, by decide⟩, 1000, true⟩ 10 ⟨.epoch, 0⟩
      [row (ann.text ++ "@grid.example.org") " Ann </name0>&amp; ", row bob.text "Bob"]
      fun _ => ⟨0, .crash⟩).run []).grid
    let request := Grid.namesRequest [ann, unknown, bob, ann]
    (g.handle request).1.status = 200 ∧
      ∃ table, Names.parseReply (g.handle request).1.body = .ok table ∧
        table.get? ann = some "Ann </name0>&amp;" ∧
        table.get? bob = some "Bob" ∧
        table.get? unknown = none := by
  intro ann bob unknown row g request
  have hlength : request.body.length ≤ longestBody :=
    (Grid.length_namesRequest_le_iff _).2 (by decide)
  obtain ⟨hstatus, table, hread, -, hall⟩ := names_across_grids ⟨1000, 500, ⟨1, by decide⟩, 1000, true⟩
    10 ⟨.epoch, 0⟩ [row (ann.text ++ "@grid.example.org") " Ann </name0>&amp; ", row bob.text "Bob"]
    (fun _ => ⟨0, .crash⟩) [] [ann, unknown, bob, ann] (by simp) hlength
  have hroom : g.cache.HasRoom [ann, unknown, bob, ann].length := by decide
  have hget : ∀ id ∈ [ann, unknown, bob, ann],
      table.get? id = nameRead? (g.resolve id.text).1 := by
    intro id hid
    ext name
    rw [hall id (.inl hroom) name, nameRead?_eq_some_iff]
    exact and_iff_right hid
  have hann : nameRead? (g.resolve ann.text).1 = some "Ann </name0>&amp;" := by decide +kernel
  have hbob : nameRead? (g.resolve bob.text).1 = some "Bob" := by decide +kernel
  have hunknown : nameRead? (g.resolve unknown.text).1 = none := by decide +kernel
  exact ⟨hstatus, table, hread, (hget ann (by simp)).trans hann, (hget bob (by simp)).trans hbob,
    (hget unknown (by simp)).trans hunknown⟩

/-- Two users have rows that are more active than what the cache remembers of them, and there is room
for two. Asking for one of them, a third user and the other one names the first as before the request,
and the other as after it. -/
theorem named_unlike_before_and_after :
    let ann : Uuid := ⟨List.replicate 32 1, by decide⟩
    let bob : Uuid := ⟨List.replicate 32 2, by decide⟩
    let other : Uuid := ⟨List.replicate 32 3, by decide⟩
    let row (userId login name : String) : Record :=
      ⟨userId, .ofList [("Login", login), ("DisplayName", name)]⟩
    let wall : WallTime := ⟨⟨1700000000, by decide, by decide⟩, 0⟩
    let f := Federation.start ⟨300000, 300000, ⟨1, by decide⟩, 1000, true⟩ 2 wall
      [row ann.text "2000000000" "Old Ann",
        row (ann.text ++ "@grid.example.org") "1900000000" "New Ann",
        row bob.text "2000000000" "Old Bob",
        row (bob.text ++ "@grid.example.org") "1900000000" "New Bob"] fun _ => ⟨0, .crash⟩
    let g := (f.run [.change ann.text .login, .advance 1000, .change bob.text .login,
      .advance 1000]).grid
    let request := Grid.namesRequest [bob, other, ann]
    ∃ table, Names.parseReply (g.handle request).1.body = .ok table ∧
      table.get? ann = some "New Ann" ∧
      (g.resolve ann.text).1.map (·.displayName) = some "Old Ann" ∧
      table.get? bob = some "Old Bob" ∧
      ((g.handle request).2.resolve bob.text).1.map (·.displayName) = some "New Bob" := by
  intro ann bob other row wall f g request
  have hids : [bob, other, ann] ≠ [] := by simp
  have hlength : request.body.length ≤ longestBody :=
    (Grid.length_namesRequest_le_iff _).2 (by decide)
  have hfiled : g.Remembers fun key p => beginsWith key p.userId = true :=
    Grid.Remembers.run Grid.fromRows_beginsWith _ _ _ _ _ _
  have hnames : (tableOfAnswers (g.answersTo [bob, other, ann])).get? ann = some "New Ann" ∧
      (g.resolve ann.text).1.map (·.displayName) = some "Old Ann" ∧
      (tableOfAnswers (g.answersTo [bob, other, ann])).get? bob = some "Old Bob" ∧
      ((g.resolveAll ([bob, other, ann].map Uuid.text)).2.resolve bob.text).1.map (·.displayName) =
        some "New Bob" := by
    decide +kernel
  obtain ⟨hann, hannBefore, hbob, hbobAfter⟩ := hnames
  have hafter : (g.handle request).2 = (g.resolveAll ([bob, other, ann].map Uuid.text)).2 := by
    rw [Grid.handle_namesRequest g hids hlength]
  rw [hafter]
  exact ⟨_, Grid.parseReply_handle hfiled hids hlength, hann, hannBefore, hbob, hbobAfter⟩

end FederatedPresence
