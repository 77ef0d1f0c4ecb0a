import Mathlib.Data.List.Induction
import FederatedPresence.Proofs.Names.Reply
import FederatedPresence.Proofs.Text.Extension

/-!
# What the pairs of a reply say

**Theorem (`reply_says_its_pairs`).** A reply that is written from some pairs can be read. It reports
success and has the fields of its pairs and no others, each with what its half of the pair says; so
nothing in an id or a name reaches another field. It is read as the table that the pairs give one
after the other: a pair whose id is no UUID is skipped, and a later pair of a user takes the place of
an earlier one.

White space of markup is blank, so that it makes no difference to an id that it goes when the reply is
read (`strip_strip`).
-/

namespace FederatedPresence

open Text

namespace NameTable

/-- **A user's last name counts.** -/
theorem get?_ofList (es : List (Uuid × String)) (id : Uuid) :
    (ofList es).get? id =
      (es.filterMap fun e => if e.1 = id then some e.2 else none).getLast? := by
  induction es using List.reverseRecOn with
  | nil => rfl
  | append_singleton es e ih =>
    rw [ofList, List.foldl_append, List.foldl_cons, List.foldl_nil, get?_insert,
      List.filterMap_append]
    by_cases hid : e.1 = id
    · simp [hid]
    · rw [if_neg (Ne.symm hid), ← ofList, ih]
      simp [hid]

end NameTable

namespace Names

/-! ## Ids -/

theorem isBlank_of_isSpace {c : Char} (h : isSpace c = true) : isBlank c = true := by
  simp only [isSpace, Bool.or_eq_true, decide_eq_true_eq] at h
  rcases h with ((rfl | rfl) | rfl) | rfl <;> decide

/-- The user that a pair names. -/
def userOf? (pair : String × String) : Option Uuid := Uuid.ofChars? (strip isBlank pair.1.toList)

/-- A pair names the same user when it is read. -/
theorem userOf?_trimmedPair (pair : String × String) : userOf? (trimmedPair pair) = userOf? pair := by
  rw [userOf?, trimmedPair, String.toList_ofList, strip_strip fun _ => isBlank_of_isSpace, userOf?]

/-! ## Tables -/

theorem addPair_eq (t : NameTable) (pair : String × String) :
    addPair t pair = match userOf? pair with
      | some id => t.insert id pair.2
      | none => t := rfl

/-- What a pair enters into a table. -/
def entryOf? (pair : String × String) : Option (Uuid × String) :=
  (userOf? pair).map fun id => (id, (trimmedPair pair).2)

/-- **Pairs are read one after the other**, and those that name no user are skipped. -/
theorem foldl_addPair_map_trimmedPair (names : List (String × String)) (t : NameTable) :
    (names.map trimmedPair).foldl addPair t =
      (names.filterMap entryOf?).foldl (fun t e => t.insert e.1 e.2) t := by
  induction names generalizing t with
  | nil => rfl
  | cons pair names ih =>
    rw [List.map_cons, List.foldl_cons, ih, addPair_eq, userOf?_trimmedPair]
    cases hid : userOf? pair with
    | none => rw [List.filterMap_cons_none (by rw [entryOf?, hid, Option.map_none])]
    | some id => rw [List.filterMap_cons_some (by rw [entryOf?, hid, Option.map_some]),
        List.foldl_cons]

/-- The table that some pairs give. -/
def tableOf (names : List (String × String)) : NameTable := .ofList (names.filterMap entryOf?)

/-- The names that some pairs give a user, as they are read. -/
def namesOf (id : Uuid) (names : List (String × String)) : List String :=
  names.filterMap fun pair => if userOf? pair = some id then some (trimmedPair pair).2 else none

/-- **A user has the name of the last pair.** -/
theorem get?_tableOf (names : List (String × String)) (id : Uuid) :
    (tableOf names).get? id = (namesOf id names).getLast? := by
  rw [tableOf, NameTable.get?_ofList, List.filterMap_filterMap, namesOf]
  congr 2
  funext pair
  cases hid : userOf? pair with
  | none => simp [entryOf?, hid]
  | some other => simp [entryOf?, hid]

/-! ## Fields -/

/-- What the fields of a reply say: `success` is true, and a pair fills the two fields of its place. -/
inductive IsFieldOf (names : List (String × String)) : String → String → Prop where
  | success : IsFieldOf names "success" "true"
  | id {i : Nat} {pair : String × String} (h : names[i]? = some pair) :
    IsFieldOf names (numbered "uuid" i) (trimmedPair pair).1
  | name {i : Nat} {pair : String × String} (h : names[i]? = some pair) :
    IsFieldOf names (numbered "name" i) (trimmedPair pair).2

theorem isFieldOf_iff {names : List (String × String)} {key value : String} :
    IsFieldOf names key value ↔ ∃ e ∈ replyFields names,
      key = String.ofList e.1 ∧ value = String.ofList (strip isSpace e.2) := by
  constructor
  · rintro (_ | @⟨i, pair, h⟩ | @⟨i, pair, h⟩)
    · exact ⟨_, List.mem_append_right _ List.mem_cons_self, by decide, by decide⟩
    · refine ⟨_, List.mem_append_left _ (mem_pairFields_iff.2 ⟨i, pair, h, .inl rfl⟩), ?_, rfl⟩
      rw [Nat.zero_add, String.ofList_toList]
    · refine ⟨_, List.mem_append_left _ (mem_pairFields_iff.2 ⟨i, pair, h, .inr rfl⟩), ?_, rfl⟩
      rw [Nat.zero_add, String.ofList_toList]
  · rintro ⟨e, he, rfl, rfl⟩
    rcases List.mem_append.1 he with he | he
    · obtain ⟨i, pair, h, rfl | rfl⟩ := mem_pairFields_iff.1 he
      · rw [Nat.zero_add, String.ofList_toList]
        exact .id h
      · rw [Nat.zero_add, String.ofList_toList]
        exact .name h
    · rw [List.mem_singleton.1 he]
      exact .success

/-- **A reply has the fields of its pairs, and no others.** -/
theorem get?_fieldsRead_eq_some_iff {names : List (String × String)} {key value : String} :
    (fieldsRead names).get? key = some value ↔ IsFieldOf names key value := by
  rw [isFieldOf_iff]
  constructor
  · intro h
    by_cases hkey : key.toList ∈ (replyFields names).map (·.1)
    · obtain ⟨e, he, hname⟩ := List.mem_map.1 hkey
      obtain rfl : String.ofList e.1 = key := by rw [hname, String.ofList_toList]
      rw [get?_fieldsRead he] at h
      exact ⟨e, he, rfl, (Option.some.inj h).symm⟩
    · rw [get?_fieldsRead_of_not_mem hkey] at h
      exact absurd h (by simp)
  · rintro ⟨e, he, rfl, rfl⟩
    exact get?_fieldsRead he

/-- **What is written into a reply is read from it**, whatever characters it consists of. -/
theorem reply_says_its_pairs (names : List (String × String)) :
    ∃ fields, readFields (renderReply names).toList = .ok fields ∧
      (∀ key value, fields.get? key = some value ↔ IsFieldOf names key value) ∧
      reportsSuccess fields = true ∧ pairs fields = names.map trimmedPair ∧
      parseReply (renderReply names) = .ok (tableOf names) ∧
      ∀ id, (tableOf names).get? id = (namesOf id names).getLast? := by
  refine ⟨fieldsRead names, readFields_renderReply names, fun key value =>
    get?_fieldsRead_eq_some_iff, reportsSuccess_fieldsRead names, pairs_fieldsRead names, ?_,
    get?_tableOf names⟩
  rw [parseReply_renderReply, foldl_addPair_map_trimmedPair]
  rfl

end Names

end FederatedPresence
