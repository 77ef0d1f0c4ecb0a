import FederatedPresence.Keyed
import FederatedPresence.Proofs.Store.Pattern
import FederatedPresence.Proofs.Text.Json
import FederatedPresence.Store.Link
import FederatedPresence.Store.Table
import Mathlib.Data.List.Induction
import Mathlib.Data.List.Nodup

/-!
# The two stores side by side

A run of calls is put to an empty store in memory and to an empty table.

The table is the image of the store in memory: its rows are the encoded records, in the same places
(`after_table`), because a record is decoded again from its row. So both hold one row for each user key
that was ever stored, where the key first came, with the record that came last.

**Theorem (`answers_agree`).** Calls that compare whole user keys are answered alike, at every step.

**Theorem (`getAll_after`).** To a beginning the store in memory answers the rows that begin with it. The
table answers those that seem to (`Like.SeemsToBegin`), or that the pattern is too long. They agree
exactly if the pattern is not too long and no row seems to begin so without doing so.
-/

namespace FederatedPresence

/-! ## Runs of calls -/

/-- What a store answers. -/
inductive StoreAnswer where
  | record (record : Option Record)
  | records (records : List Record)
  | taken (taken : Bool)
  deriving DecidableEq

namespace StoreCall

/-- The record that a call stores. -/
def stored? : StoreCall → Option Record
  | store r => some r
  | _ => none

/-- The call compares whole user keys, if any. -/
def IsExact : StoreCall → Prop
  | getAll start => start = ""
  | _ => True

end StoreCall

namespace RecordStore

variable {σ : Type} [RecordStore σ]

/-- What a call is answered, and the store after it. -/
def call (s : σ) : StoreCall → Except Failure StoreAnswer × σ
  | .get userId => ((get s userId).map .record, s)
  | .getAll start => ((getAll s start).map .records, s)
  | .store r => match store s r with
    | .ok (taken, s) => (.ok (.taken taken), s)
    | .error e => (.error e, s)

/-- The answers to a run of calls. -/
def answers (s : σ) : List StoreCall → List (Except Failure StoreAnswer)
  | [] => []
  | c :: calls => (call s c).1 :: answers (call s c).2 calls

/-- The store after a run of calls. -/
def after (s : σ) (calls : List StoreCall) : σ := calls.foldl (fun s c => (call s c).2) s

theorem after_concat (s : σ) (calls : List StoreCall) (c : StoreCall) :
    after s (calls ++ [c]) = (call (after s calls) c).2 := by
  rw [after, List.foldl_append]
  rfl

end RecordStore

open RecordStore

/-! ## The table is the image of the store in memory -/

@[simp] theorem TableRow.userId_ofRecord (r : Record) : (TableRow.ofRecord r).userId = r.userId := rfl

/-- **A record is decoded again from its row.** -/
@[simp] theorem TableRow.toRecord_ofRecord (r : Record) : (TableRow.ofRecord r).toRecord = r := by
  rw [toRecord, ofRecord, Json.map?_ofMap, Option.getD_some]

theorem TableRow.map_toRecord_map_ofRecord (rows : List Record) :
    (rows.map TableRow.ofRecord).map TableRow.toRecord = rows := by
  simp [Function.comp_def]

theorem placeRow_map_ofRecord (r : Record) (rows : List Record) :
    placeRow (.ofRecord r) (rows.map .ofRecord) = (placeRecord r rows).map TableRow.ofRecord := by
  induction rows with
  | nil => rfl
  | cons e rows ih =>
    rw [List.map_cons, placeRow, placeRecord, ih]
    by_cases h : e.userId = r.userId
    · simp [h]
    · simp [h]

namespace MemoryStore

/-- The table that holds the same records. -/
def asTable (s : MemoryStore) : TableStore := ⟨s.rows.map .ofRecord⟩

theorem place_asTable (s : MemoryStore) (r : Record) : s.asTable.place r = (s.place r).asTable :=
  congrArg TableStore.mk (placeRow_map_ofRecord r s.rows)

theorem find?_asTable (s : MemoryStore) (userId : String) : s.asTable.find? userId = s.find? userId := by
  have hid : TableRow.toRecord ∘ TableRow.ofRecord = id := funext TableRow.toRecord_ofRecord
  rw [TableStore.find?, asTable, List.find?_map, Option.map_map, hid, Option.map_id]
  rfl

theorem call_snd (s : MemoryStore) (c : StoreCall) :
    (call s c).2 = c.stored?.elim s s.place := by
  cases c <;> rfl

/-- The store in memory does not fail. -/
theorem call_fst (s : MemoryStore) (c : StoreCall) : ∃ answer, (call s c).1 = .ok answer := by
  cases c <;> exact ⟨_, rfl⟩

/-- A call does to the table what it does to the store in memory. -/
theorem call_asTable_snd (s : MemoryStore) (c : StoreCall) :
    (call s.asTable c).2 = (call s c).2.asTable := by
  cases c with
  | get userId => rfl
  | getAll start => rfl
  | store r => exact s.place_asTable r

/-- A call that compares whole user keys is answered alike. -/
theorem call_asTable_fst (s : MemoryStore) {c : StoreCall} (h : c.IsExact) :
    (call s.asTable c).1 = (call s c).1 := by
  cases c with
  | get userId => simp only [call, RecordStore.get, s.find?_asTable]
  | getAll start =>
    obtain rfl : start = "" := h
    have hall : s.startingWith "" = s.rows := by simp [startingWith]
    have htable : (s.asTable.startingWith "").map (·.map TableRow.toRecord) = .ok s.rows :=
      congrArg Except.ok (TableRow.map_toRecord_map_ofRecord s.rows)
    simp only [call, RecordStore.getAll, hall, htable]
  | store r => rfl

end MemoryStore

/-- **The table holds what the store in memory holds**, after any calls. -/
theorem after_table (calls : List StoreCall) :
    after TableStore.empty calls = (after MemoryStore.empty calls).asTable := by
  induction calls using List.reverseRec with
  | nil => rfl
  | append_singleton calls c ih =>
    rw [after_concat, after_concat, ih, MemoryStore.call_asTable_snd]

theorem answers_asTable (s : MemoryStore) {calls : List StoreCall} (h : ∀ c ∈ calls, c.IsExact) :
    answers s.asTable calls = answers s calls := by
  induction calls generalizing s with
  | nil => rfl
  | cons c calls ih =>
    obtain ⟨hc, hcalls⟩ := List.forall_mem_cons.1 h
    rw [answers, answers, s.call_asTable_fst hc, s.call_asTable_snd, ih _ hcalls]

theorem MemoryStore.exists_answer (s : MemoryStore) {calls : List StoreCall}
    {a : Except Failure StoreAnswer} (h : a ∈ answers s calls) : ∃ answer, a = .ok answer := by
  induction calls generalizing s with
  | nil => exact absurd h List.not_mem_nil
  | cons c calls ih =>
    rcases List.mem_cons.1 h with rfl | h
    · exact s.call_fst c
    · exact ih _ h

/-! ## One row for each user key -/

/-- The user keys stay, and a new one comes last. -/
theorem map_userId_placeRecord (r : Record) (rows : List Record) :
    (placeRecord r rows).map (·.userId) =
      if r.userId ∈ rows.map (·.userId) then rows.map (·.userId)
      else rows.map (·.userId) ++ [r.userId] := by
  induction rows with
  | nil => rfl
  | cons e rows ih =>
    rw [placeRecord]
    by_cases he : e.userId = r.userId
    · simp [he]
    · rw [if_neg he, List.map_cons, ih, List.map_cons]
      by_cases hmem : r.userId ∈ rows.map (·.userId)
      · rw [if_pos hmem, if_pos (List.mem_cons_of_mem _ hmem)]
      · rw [if_neg hmem, if_neg (List.not_mem_cons_of_ne_of_not_mem (Ne.symm he) hmem), List.cons_append]

/-- The records that calls store, in order. -/
def storedRecords (calls : List StoreCall) : List Record := calls.filterMap StoreCall.stored?

theorem storedRecords_concat (calls : List StoreCall) (c : StoreCall) :
    storedRecords (calls ++ [c]) = storedRecords calls ++ c.stored?.toList := by
  cases c <;> simp [storedRecords, StoreCall.stored?]

/-- The last of some records of a user key. -/
def lastOf? (records : List Record) (userId : String) : Option Record :=
  records.reverse.find? fun r => r.userId = userId

theorem lastOf?_concat (records : List Record) (r : Record) (userId : String) :
    lastOf? (records ++ [r]) userId = if userId = r.userId then some r else lastOf? records userId := by
  rw [lastOf?, List.reverse_concat, List.find?_cons, lastOf?]
  by_cases h : r.userId = userId
  · simp [h]
  · simp [h, Ne.symm h]

/-- **The user keys of the rows** are those that were stored, each where it first came. -/
theorem map_userId_after (calls : List StoreCall) :
    (after MemoryStore.empty calls).rows.map (·.userId) =
      ((storedRecords calls).map (·.userId)).eraseDups := by
  induction calls using List.reverseRec with
  | nil => rfl
  | append_singleton calls c ih =>
    rw [after_concat, MemoryStore.call_snd, storedRecords_concat]
    cases hc : c.stored? with
    | none => simpa using ih
    | some r =>
      rw [Option.toList_some, List.map_append, List.map_singleton, Keyed.eraseDups_concat, ← ih]
      exact map_userId_placeRecord r _

/-- **A user key finds the record that came last under it.** -/
theorem find?_after (calls : List StoreCall) (userId : String) :
    (after MemoryStore.empty calls).find? userId = lastOf? (storedRecords calls) userId := by
  induction calls using List.reverseRec with
  | nil => rfl
  | append_singleton calls c ih =>
    rw [after_concat, MemoryStore.call_snd, storedRecords_concat]
    cases hc : c.stored? with
    | none => simpa using ih
    | some r =>
      rw [Option.toList_some, lastOf?_concat, ← ih]
      exact find?_placeRecord r _ userId

theorem nodup_userId_after (calls : List StoreCall) :
    ((after MemoryStore.empty calls).rows.map (·.userId)).Nodup := by
  induction calls using List.reverseRec with
  | nil => exact List.nodup_nil
  | append_singleton calls c ih =>
    rw [after_concat, MemoryStore.call_snd]
    cases c.stored? with
    | none => exact ih
    | some r =>
      rw [Option.elim_some, MemoryStore.place, map_userId_placeRecord]
      by_cases h : r.userId ∈ (after MemoryStore.empty calls).rows.map (·.userId)
      · rw [if_pos h]
        exact ih
      · rw [if_neg h]
        rw [← List.concat_eq_append]
        exact ih.concat h

/-- With one row for each user key, a row is what its user key finds. -/
theorem MemoryStore.find?_userId_of_mem {s : MemoryStore} (hkeys : (s.rows.map (·.userId)).Nodup)
    {r : Record} (h : r ∈ s.rows) : s.find? r.userId = some r := by
  cases hfind : s.find? r.userId with
  | none => exact absurd (List.find?_eq_none.1 hfind r h) (by simp)
  | some e =>
    have hkey : e.userId = r.userId := by simpa using List.find?_some hfind
    rw [List.inj_on_of_nodup_map hkeys (List.mem_of_find?_eq_some hfind) h hkey]

/-- **The stores answer alike and hold the same rows.** Any run of calls that compare whole user keys is
answered by an empty table as by an empty store in memory, and without failure. Both then hold one row
for each user key that was stored, where the key first came, with the record that was stored last. -/
theorem answers_agree (calls : List StoreCall) (hexact : ∀ c ∈ calls, c.IsExact) :
    answers TableStore.empty calls = answers MemoryStore.empty calls ∧
      (∀ a ∈ answers MemoryStore.empty calls, ∃ answer, a = .ok answer) ∧
      (after TableStore.empty calls).rows.map TableRow.toRecord =
        (after MemoryStore.empty calls).rows ∧
      (after MemoryStore.empty calls).rows.map (·.userId) =
        ((storedRecords calls).map (·.userId)).eraseDups ∧
      ∀ r ∈ (after MemoryStore.empty calls).rows,
        lastOf? (storedRecords calls) r.userId = some r := by
  refine ⟨answers_asTable MemoryStore.empty hexact, fun a => MemoryStore.empty.exists_answer, ?_,
    map_userId_after calls, fun r hr => ?_⟩
  · rw [after_table, MemoryStore.asTable, TableRow.map_toRecord_map_ofRecord]
  · rw [← find?_after, MemoryStore.find?_userId_of_mem (nodup_userId_after calls) hr]

/-- Two users, one of whom is stored twice. -/
def storedTwice : List StoreCall :=
  [.store ⟨"user", .ofList [("DisplayName", "Old")]⟩, .store ⟨"User", .empty⟩, .get "user",
    .store ⟨"user", .ofList [("DisplayName", "New")]⟩, .get "USER", .getAll ""]

theorem answers_agree_stored_twice :
    (∀ c ∈ storedTwice, c.IsExact) ∧
      answers TableStore.empty storedTwice = answers MemoryStore.empty storedTwice ∧
      (after TableStore.empty storedTwice).rows.map TableRow.toRecord =
        [⟨"user", .ofList [("DisplayName", "New")]⟩, ⟨"User", .empty⟩] := by
  have hexact : ∀ c ∈ storedTwice, c.IsExact := by simp [storedTwice, StoreCall.IsExact]
  obtain ⟨hanswers, -, hrows, -⟩ := answers_agree storedTwice hexact
  exact ⟨hexact, hanswers, hrows⟩

/-! ## Rows that begin alike -/

/-- The table does not compare its rows, because the pattern of the beginning is too long. -/
def TableStore.Refuses (s : TableStore) (start : String) : Prop :=
  s.rows ≠ [] ∧ Like.longestPattern < Text.byteLength (Like.startPattern start.toList)

instance (s : TableStore) (start : String) : Decidable (s.Refuses start) := by
  unfold TableStore.Refuses; infer_instance

namespace MemoryStore

theorem startingWith_eq_filter (s : MemoryStore) (start : String) :
    s.startingWith start = s.rows.filter fun r => start.toList <+: r.userId.toList :=
  List.filter_congr fun r _ => by rw [Bool.eq_iff_iff, beginsWith_iff, decide_eq_true_iff]

theorem rows_asTable (s : MemoryStore) : s.asTable.rows = s.rows.map .ofRecord := rfl

/-- The encoded rows that match are those whose user keys seem to begin so. -/
theorem filter_isLike_asTable (s : MemoryStore) (start : String) :
    (s.asTable.rows.filter fun r => Like.isLike (Like.startPattern start.toList) r.userId.toList) =
      (s.rows.filter fun r => Like.SeemsToBegin start.toList r.userId.toList).map .ofRecord := by
  rw [rows_asTable, List.filter_map]
  refine congrArg _ (List.filter_congr fun r _ => ?_)
  rw [Bool.eq_iff_iff, decide_eq_true_iff]
  exact Like.isLike_startPattern start.toList r.userId.toList

/-- **The table answers the rows that seem to begin so**, if it compares them. -/
theorem getAll_asTable (s : MemoryStore) (start : String) :
    RecordStore.getAll s.asTable start =
      if s.asTable.Refuses start then .error TableStore.longPattern
      else .ok (s.rows.filter fun r => Like.SeemsToBegin start.toList r.userId.toList) := by
  have hgetAll : RecordStore.getAll s.asTable start =
      (s.asTable.startingWith start).map (·.map TableRow.toRecord) := rfl
  rw [hgetAll, TableStore.startingWith]
  by_cases hstart : start = ""
  · subst hstart
    have hshort : ¬s.asTable.Refuses "" := fun h => absurd h.2 (by decide)
    have hall : (s.rows.filter fun r => Like.SeemsToBegin "".toList r.userId.toList) = s.rows :=
      List.filter_eq_self.2 fun r _ => decide_eq_true (Like.seemsToBegin_of_prefix List.nil_prefix)
    rw [if_pos rfl, if_neg hshort, hall, Except.map, rows_asTable, TableRow.map_toRecord_map_ofRecord]
  rw [if_neg hstart, TableStore.select, filter_isLike_asTable]
  by_cases hrows : s.rows = []
  · have hempty : ¬s.asTable.Refuses start := fun h => h.1 (by rw [rows_asTable, hrows, List.map_nil])
    rw [if_pos (by simp [rows_asTable, hrows]), if_neg hempty, hrows]
    rfl
  rw [if_neg (by simpa [rows_asTable] using hrows)]
  by_cases hlong : Like.longestPattern < Text.byteLength (Like.startPattern start.toList)
  · have hrefuses : s.asTable.Refuses start := ⟨by simpa [rows_asTable] using hrows, hlong⟩
    rw [if_pos hlong, if_pos hrefuses]
    rfl
  · rw [if_neg hlong, if_neg fun h => hlong h.2, Except.map, TableRow.map_toRecord_map_ofRecord]

/-- **The stores agree** exactly if the table does not refuse and no user key seems to begin so without
doing so. -/
theorem getAll_asTable_eq_iff (s : MemoryStore) (start : String) :
    RecordStore.getAll s.asTable start = RecordStore.getAll s start ↔
      ¬s.asTable.Refuses start ∧ ∀ r ∈ s.rows,
        Like.SeemsToBegin start.toList r.userId.toList → start.toList <+: r.userId.toList := by
  have hmemory : RecordStore.getAll s start =
      .ok (s.rows.filter fun r => start.toList <+: r.userId.toList) :=
    congrArg Except.ok (s.startingWith_eq_filter start)
  rw [hmemory, getAll_asTable]
  by_cases hrefuses : s.asTable.Refuses start
  · rw [if_pos hrefuses]
    exact ⟨(nomatch ·), fun h => absurd hrefuses h.1⟩
  rw [if_neg hrefuses, Except.ok.injEq]
  constructor
  · intro heq
    refine ⟨hrefuses, fun r hr hseems => ?_⟩
    have hmem : r ∈ s.rows.filter fun r => Like.SeemsToBegin start.toList r.userId.toList :=
      List.mem_filter.2 ⟨hr, decide_eq_true hseems⟩
    rw [heq] at hmem
    exact of_decide_eq_true (List.mem_filter.1 hmem).2
  · rintro ⟨-, hbegins⟩
    refine List.filter_congr fun r hr => ?_
    rw [Bool.eq_iff_iff, decide_eq_true_iff, decide_eq_true_iff]
    exact ⟨hbegins r hr, Like.seemsToBegin_of_prefix⟩

/-- The stores agree on user keys without capitals, NULs and noncharacters, asked for with such a
beginning that is not too long. -/
theorem getAll_asTable_of_plain {s : MemoryStore} {start : String}
    (hstart : ∀ c ∈ start.toList, Like.Plain c)
    (hrows : ∀ r ∈ s.rows, ∀ c ∈ r.userId.toList, Like.Plain c)
    (hshort : Text.byteLength (Like.startPattern start.toList) ≤ Like.longestPattern) :
    RecordStore.getAll s.asTable start = RecordStore.getAll s start :=
  (s.getAll_asTable_eq_iff start).2 ⟨fun h => absurd h.2 (Nat.not_lt.2 hshort), fun r hr =>
    (Like.seemsToBegin_iff_of_plain hstart (hrows r hr)).1⟩

end MemoryStore

/-- **What the stores answer to a beginning**, after any calls. The store in memory answers the rows whose
user keys begin so. The table, unless it refuses to compare them, answers the rows whose user keys seem
to: those of the store in memory and perhaps more, in the same order. So the answers agree exactly if the
table does not refuse and no user key seems to begin so without doing so. -/
theorem getAll_after (calls : List StoreCall) (start : String) :
    let memory := after MemoryStore.empty calls
    let table := after TableStore.empty calls
    RecordStore.getAll memory start =
        .ok (memory.rows.filter fun r => start.toList <+: r.userId.toList) ∧
      RecordStore.getAll table start =
        (if table.Refuses start then .error TableStore.longPattern
        else .ok (memory.rows.filter fun r => Like.SeemsToBegin start.toList r.userId.toList)) ∧
      (∀ r ∈ memory.rows, start.toList <+: r.userId.toList →
        Like.SeemsToBegin start.toList r.userId.toList) ∧
      (RecordStore.getAll table start = RecordStore.getAll memory start ↔
        ¬table.Refuses start ∧ ∀ r ∈ memory.rows,
          Like.SeemsToBegin start.toList r.userId.toList → start.toList <+: r.userId.toList) := by
  intro memory table
  have himage : table = memory.asTable := after_table calls
  rw [himage]
  exact ⟨congrArg Except.ok (memory.startingWith_eq_filter start), memory.getAll_asTable start,
    fun r _ => Like.seemsToBegin_of_prefix, memory.getAll_asTable_eq_iff start⟩

/-- A user key in capitals is answered to a beginning in small letters. -/
theorem getAll_after_capitals :
    let calls : List StoreCall := [.store (.new "AAAAAAAA-AAAA-AAAA-AAAA-AAAAAAAAAAAA")]
    let start := "aaaaaaaa-aaaa-aaaa-aaaa-aaaaaaaaaaaa"
    RecordStore.getAll (after MemoryStore.empty calls) start = .ok [] ∧
      RecordStore.getAll (after TableStore.empty calls) start =
        .ok [.new "AAAAAAAA-AAAA-AAAA-AAAA-AAAAAAAAAAAA"] := by
  decide +kernel

end FederatedPresence
