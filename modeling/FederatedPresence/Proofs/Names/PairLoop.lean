import Mathlib.Order.Bounds.Basic
import FederatedPresence.Proofs.Names.Pairs

/-!
# Where the pairs of a reply end

Nothing in a reply says how many pairs it has. They are read in a loop (`PairReading.next?`): at each
number both fields are looked up; when they are there, the pair is entered and the number goes up, and
otherwise the loop is over. No bound is set in advance, so how the loop ends is a relation
(`PairReading.Ends`), which also tells at which numbers it looked.

**Theorem (`pairs_end_at_first_gap`).** The loop ends on every reply that can be read, in one way
only. It looks at the numbers up to the first gap and at no more; twice the number of that gap is at
most the number of fields, since a pair takes two fields and no field is in two pairs. So a counter
that can count half of the fields does not overflow. The table gives each user the name of the user's
last pair before the gap, and nothing else; an id that is no UUID does not end the loop.

What the loop has entered when it comes to a number is said by the invariant `PairReading.Says`: the
last pair below that number counts.
-/

namespace FederatedPresence.Names

open Text

/-! ## Numbers -/

/-- One of the two fields of a number is missing. -/
def IsGap (fields : TextMap) (index : Nat) : Prop :=
  fields.get? (numbered "uuid" index) = none ∨ fields.get? (numbered "name" index) = none

instance (fields : TextMap) (index : Nat) : Decidable (IsGap fields index) :=
  inferInstanceAs (Decidable (_ ∨ _))

/-- A number is a gap, or both of its fields are there. -/
theorem isGap_or_pair (fields : TextMap) (index : Nat) : IsGap fields index ∨
    ∃ id name, fields.get? (numbered "uuid" index) = some id ∧
      fields.get? (numbered "name" index) = some name := by
  cases hid : fields.get? (numbered "uuid" index) with
  | none => exact .inl (.inl hid)
  | some id =>
    cases hname : fields.get? (numbered "name" index) with
    | none => exact .inl (.inr hname)
    | some name => exact .inr ⟨id, name, rfl, rfl⟩

/-- The user whom the pair of a number names. -/
def userAt? (fields : TextMap) (index : Nat) : Option Uuid :=
  (fields.get? (numbered "uuid" index)).bind fun id => Uuid.parse? (trim id)

theorem userAt?_eq {fields : TextMap} {index : Nat} {id : String}
    (h : fields.get? (numbered "uuid" index) = some id) (name : String) :
    userAt? fields index = userOf? (id, name) := by
  rw [userAt?, h, Option.bind_some, Uuid.parse?, trim, String.toList_ofList, userOf?]

/-- Of the pairs below a number, the last one that names the user gives this name. -/
def IsLastName (fields : TextMap) (bound : Nat) (user : Uuid) (name : String) : Prop :=
  ∃ i < bound, userAt? fields i = some user ∧ fields.get? (numbered "name" i) = some name ∧
    ∀ j < bound, i < j → userAt? fields j ≠ some user

/-- A pair of nobody, or of somebody else, changes nothing. -/
theorem isLastName_succ_of_ne {fields : TextMap} {bound : Nat} {user : Uuid} {name : String}
    (h : userAt? fields bound ≠ some user) :
    IsLastName fields (bound + 1) user name ↔ IsLastName fields bound user name := by
  constructor
  · rintro ⟨i, hi, huser, hname, hlater⟩
    have hne : i ≠ bound := by
      intro hi
      rw [hi] at huser
      exact h huser
    exact ⟨i, by omega, huser, hname, fun j hj => hlater j (by omega)⟩
  · rintro ⟨i, hi, huser, hname, hlater⟩
    refine ⟨i, by omega, huser, hname, fun j hj hij => ?_⟩
    by_cases hbound : j = bound
    · rw [hbound]
      exact h
    · exact hlater j (by omega) hij

/-- A pair of the user is the last one. -/
theorem isLastName_succ_of_eq {fields : TextMap} {bound : Nat} {user : Uuid} {name : String}
    (h : userAt? fields bound = some user) :
    IsLastName fields (bound + 1) user name ↔
      fields.get? (numbered "name" bound) = some name := by
  constructor
  · rintro ⟨i, hi, -, hname, hlater⟩
    by_cases hbound : i = bound
    · rw [← hbound]
      exact hname
    · exact absurd h (hlater bound (by omega) (by omega))
  · intro hname
    exact ⟨bound, by omega, h, hname, fun j hj hlater => by omega⟩

/-! ## The loop -/

/-- Where the loop is: the number that comes next, and the names so far. -/
structure PairReading where
  index : Nat
  names : NameTable

namespace PairReading

def start : PairReading := ⟨0, .empty⟩

/-- Enters the pair of the next number. At a gap there is nothing more to do. -/
def next? (fields : TextMap) (r : PairReading) : Option PairReading :=
  match fields.get? (numbered "uuid" r.index), fields.get? (numbered "name" r.index) with
  | some id, some name => some ⟨r.index + 1, addPair r.names (id, name)⟩
  | _, _ => none

/-- From here on the loop looks at these numbers, one after the other, and ends with these names. -/
inductive Ends (fields : TextMap) : PairReading → List Nat → NameTable → Prop where
  | gap {r : PairReading} (h : r.next? fields = none) : Ends fields r [r.index] r.names
  | pair {r r' : PairReading} {indices : List Nat} {names : NameTable}
    (h : r.next? fields = some r') (rest : Ends fields r' indices names) :
    Ends fields r (r.index :: indices) names

variable {fields : TextMap} {r r' : PairReading} {indices indices' : List Nat}
  {names names' : NameTable}

theorem next?_of_isGap (h : IsGap fields r.index) : r.next? fields = none := by
  unfold next?
  rcases h with h | h
  · rw [h]
  · rw [h]
    cases fields.get? (numbered "uuid" r.index) with
    | none => rfl
    | some id => rfl

theorem next?_of_pair {id name : String} (hid : fields.get? (numbered "uuid" r.index) = some id)
    (hname : fields.get? (numbered "name" r.index) = some name) :
    r.next? fields = some ⟨r.index + 1, addPair r.names (id, name)⟩ := by
  rw [next?, hid, hname]

/-- **The loop ends in one way only.** -/
theorem Ends.unique (h : r.Ends fields indices names) (h' : r.Ends fields indices' names') :
    indices' = indices ∧ names' = names := by
  induction h generalizing indices' with
  | gap hgap =>
    cases h' with
    | gap => exact ⟨rfl, rfl⟩
    | pair hpair _ =>
      rw [hgap] at hpair
      exact absurd hpair (by simp)
  | pair hpair _ ih =>
    cases h' with
    | gap hgap =>
      rw [hpair] at hgap
      exact absurd hgap (by simp)
    | pair hpair' hrest =>
      rw [hpair] at hpair'
      obtain rfl := Option.some.inj hpair'
      obtain ⟨rfl, rfl⟩ := ih hrest
      exact ⟨rfl, rfl⟩

/-! ### What it enters -/

/-- The names so far are those of the pairs below the next number. -/
def Says (fields : TextMap) (r : PairReading) : Prop :=
  ∀ user name, r.names.get? user = some name ↔ IsLastName fields r.index user name

theorem says_start (fields : TextMap) : start.Says fields := by
  intro user name
  refine ⟨fun h => absurd h (by simp [start]), ?_⟩
  rintro ⟨i, hi, -⟩
  exact absurd hi (Nat.not_lt_zero i)

/-- **A pair keeps the invariant**, whether or not its id is a UUID. -/
theorem Says.next (h : r.Says fields) (hnext : r.next? fields = some r') : r'.Says fields := by
  rcases isGap_or_pair fields r.index with hgap | ⟨id, name, hid, hname⟩
  · rw [next?_of_isGap hgap] at hnext
    exact absurd hnext (by simp)
  · rw [next?_of_pair hid hname] at hnext
    obtain rfl := Option.some.inj hnext
    intro user other
    have huser : userAt? fields r.index = userOf? (id, name) := userAt?_eq hid name
    rw [addPair_eq, ← huser]
    cases hnamed : userAt? fields r.index with
    | none =>
      rw [isLastName_succ_of_ne (by rw [hnamed]; simp)]
      exact h user other
    | some named =>
      rw [NameTable.get?_insert]
      by_cases hsame : user = named
      · rw [if_pos hsame, isLastName_succ_of_eq (by rw [hnamed, hsame]), hname]
      · rw [if_neg hsame, isLastName_succ_of_ne (by rw [hnamed]; simpa using Ne.symm hsame)]
        exact h user other

/-- **Where the loop ends, its names are those of the pairs before the last number that it looked
at.** -/
theorem Ends.says (h : r.Ends fields indices names) (hr : r.Says fields) : ∃ k,
    indices.getLast? = some k ∧
      ∀ user name, names.get? user = some name ↔ IsLastName fields k user name := by
  induction h with
  | gap _ => exact ⟨_, rfl, hr⟩
  | pair hpair hrest ih =>
    obtain ⟨k, hlast, hnames⟩ := ih (hr.next hpair)
    refine ⟨k, ?_, hnames⟩
    rw [List.getLast?_cons, hlast, Option.getD_some]

end PairReading

/-! ## The pairs that are read -/

variable {fields : TextMap} {index limit : Nat}

/-- The pairs that are read stand in the fields. -/
theorem get?_of_getElem?_pairsFrom {k : Nat} {pair : String × String}
    (h : (pairsFrom fields index limit)[k]? = some pair) :
    fields.get? (numbered "uuid" (index + k)) = some pair.1 ∧
      fields.get? (numbered "name" (index + k)) = some pair.2 := by
  induction limit generalizing index k with
  | zero => exact absurd h (by simp [pairsFrom])
  | succ limit ih =>
    rw [pairsFrom] at h
    split at h
    · rename_i id name hid hname
      cases k with
      | zero =>
        obtain rfl := Option.some.inj h
        exact ⟨hid, hname⟩
      | succ k =>
        rw [← Nat.add_assoc, Nat.add_right_comm]
        exact ih h
    · exact absurd h (by simp)

/-- There are no pairs from a gap on. -/
theorem pairsFrom_of_isGap (h : IsGap fields index) (limit : Nat) :
    pairsFrom fields index limit = [] := by
  cases limit with
  | zero => rfl
  | succ limit =>
    rw [pairsFrom]
    rcases h with h | h
    · rw [h]
    · rw [h]
      cases fields.get? (numbered "uuid" index) with
      | none => rfl
      | some id => rfl

/-- Pairs end at a gap, unless the limit ends them. -/
theorem isGap_of_length_pairsFrom (h : (pairsFrom fields index limit).length < limit) :
    IsGap fields (index + (pairsFrom fields index limit).length) := by
  induction limit generalizing index with
  | zero => exact absurd h (Nat.not_lt_zero _)
  | succ limit ih =>
    rcases isGap_or_pair fields index with hgap | ⟨id, name, hid, hname⟩
    · rw [pairsFrom_of_isGap hgap]
      exact hgap
    · rw [pairsFrom, hid, hname] at h ⊢
      have hrest := ih (Nat.lt_of_succ_lt_succ h)
      rwa [Nat.add_right_comm] at hrest

/-- **The loop enters the pairs one after the other**, and looks once more at the gap behind them. -/
theorem ends_of_isGap (h : IsGap fields (index + (pairsFrom fields index limit).length))
    (names : NameTable) :
    (⟨index, names⟩ : PairReading).Ends fields
      (List.range' index ((pairsFrom fields index limit).length + 1))
      ((pairsFrom fields index limit).foldl addPair names) := by
  induction limit generalizing index names with
  | zero => exact .gap (PairReading.next?_of_isGap h)
  | succ limit ih =>
    rcases isGap_or_pair fields index with hgap | ⟨id, name, hid, hname⟩
    · rw [pairsFrom_of_isGap hgap]
      exact .gap (PairReading.next?_of_isGap hgap)
    · rw [pairsFrom, hid, hname] at h ⊢
      have hrest : (⟨index + 1, addPair names (id, name)⟩ : PairReading).Ends fields
          (List.range' (index + 1) ((pairsFrom fields (index + 1) limit).length + 1))
          ((pairsFrom fields (index + 1) limit).foldl addPair (addPair names (id, name))) := by
        refine ih ?_ _
        rwa [Nat.add_right_comm]
      exact .pair (PairReading.next?_of_pair hid hname) hrest

/-- **A pair takes two fields.** -/
theorem two_mul_length_pairs_le (fields : TextMap) : 2 * (pairs fields).length ≤ fields.size := by
  have hfields : ∀ e ∈ pairFields 0 (pairs fields),
      ∃ value, fields.get? (String.ofList e.1) = some value := by
    intro e he
    obtain ⟨k, pair, hpair, he | he⟩ := mem_pairFields_iff.1 he
    · obtain ⟨hid, -⟩ := get?_of_getElem?_pairsFrom hpair
      rw [he, String.ofList_toList]
      exact ⟨_, hid⟩
    · obtain ⟨-, hname⟩ := get?_of_getElem?_pairsFrom hpair
      rw [he, String.ofList_toList]
      exact ⟨_, hname⟩
  exact two_mul_length_le_size hfields

/-- **The pairs end at the first gap**: the limit does not end them, since it is the number of
fields. -/
theorem isLeast_gap_pairs (fields : TextMap) :
    IsLeast {i | IsGap fields i} (pairs fields).length := by
  constructor
  · rcases Nat.lt_or_ge (pairs fields).length fields.size with hlimit | hlimit
    · have hgap := isGap_of_length_pairsFrom hlimit
      rwa [Nat.zero_add] at hgap
    · -- twice as many fields as pairs, and no more: there are none
      have hsize := two_mul_length_pairs_le fields
      have hnone : fields.entries = [] := List.eq_nil_of_length_eq_zero (by
        show fields.size = 0
        omega)
      refine .inl ?_
      rw [TextMap.get?, hnone]
      rfl
  · intro i hi
    by_contra hbefore
    obtain ⟨pair, hpair⟩ : ∃ pair, (pairs fields)[i]? = some pair :=
      ⟨_, List.getElem?_eq_getElem (Nat.lt_of_not_le hbefore)⟩
    obtain ⟨hid, hname⟩ := get?_of_getElem?_pairsFrom hpair
    rw [Nat.zero_add] at hid hname
    rcases hi with hgap | hgap
    · rw [hid] at hgap
      exact absurd hgap (by simp)
    · rw [hname] at hgap
      exact absurd hgap (by simp)

theorem reportsSuccess_iff {fields : TextMap} :
    reportsSuccess fields = true ↔ (fields.get? "success").map trim = some "true" := by
  rw [reportsSuccess, decide_eq_true_iff]
  cases fields.get? "success" with
  | none => simp
  | some text =>
    rw [Option.map_some, Option.map_some, Option.some.injEq, Option.some.injEq, trim]
    constructor
    · intro h
      rw [h]
      rfl
    · intro h
      rw [← h, String.toList_ofList]

/-- **Reading the pairs of a reply ends, and takes what stands before the first gap.** -/
theorem pairs_end_at_first_gap {reply : String} {fields : TextMap}
    (h : readFields reply.toList = .ok fields) :
    ((fields.get? "success").map trim ≠ some "true" → parseReply reply = .ok .empty) ∧
      ((fields.get? "success").map trim = some "true" → ∃ k names,
        IsLeast {i | IsGap fields i} k ∧ 2 * k ≤ fields.size ∧
          (∀ indices names', PairReading.start.Ends fields indices names' ↔
            indices = List.range (k + 1) ∧ names' = names) ∧
          parseReply reply = .ok names ∧
          ∀ user name, names.get? user = some name ↔ IsLastName fields k user name) := by
  constructor
  · intro hsuccess
    rw [parseReply, h]
    simp only [namesOfFields, if_neg (mt reportsSuccess_iff.1 hsuccess)]
  · intro hsuccess
    have hgap := isLeast_gap_pairs fields
    have hends : PairReading.start.Ends fields (List.range ((pairs fields).length + 1))
        ((pairs fields).foldl addPair .empty) := by
      rw [List.range_eq_range']
      refine ends_of_isGap ?_ _
      rw [Nat.zero_add]
      exact hgap.1
    refine ⟨(pairs fields).length, (pairs fields).foldl addPair .empty, hgap,
      two_mul_length_pairs_le fields, fun indices names' => ⟨hends.unique, ?_⟩, ?_, ?_⟩
    · rintro ⟨rfl, rfl⟩
      exact hends
    · rw [parseReply, h]
      simp only [namesOfFields, if_pos (reportsSuccess_iff.2 hsuccess)]
    · obtain ⟨k, hlast, hnames⟩ := hends.says (PairReading.says_start fields)
      rw [List.range_succ, List.getLast?_concat] at hlast
      obtain rfl := Option.some.inj hlast
      exact hnames

/-- The pairs of a reply in which a user is named twice, and nobody in between. -/
def namedTwice : List (String × String) :=
  [("11111111-1111-1111-1111-111111111111", "Ada"), ("nobody", "Bob"),
    ("11111111-1111-1111-1111-111111111111", "Ada Lovelace")]

/-- The loop ends at number three, and the user has the name of number two. -/
theorem pairs_end_at_first_gap_named_twice :
    readFields (renderReply namedTwice).toList = .ok (fieldsRead namedTwice) ∧
      ((fieldsRead namedTwice).get? "success").map trim = some "true" ∧
      ∃ names, parseReply (renderReply namedTwice) = .ok names ∧
        PairReading.start.Ends (fieldsRead namedTwice) [0, 1, 2, 3] names ∧
        names.get? ⟨List.replicate 32 1, by decide⟩ = some "Ada Lovelace" := by
  have hread := readFields_renderReply namedTwice
  have hsuccess : ((fieldsRead namedTwice).get? "success").map trim = some "true" :=
    reportsSuccess_iff.1 (reportsSuccess_fieldsRead namedTwice)
  have hfirst : IsLeast {i | IsGap (fieldsRead namedTwice) i} 3 := by
    have hpairs : ∀ i < 3, ¬IsGap (fieldsRead namedTwice) i := by decide +kernel
    refine ⟨by decide +kernel, fun i hi => Nat.le_of_not_lt fun hbefore => ?_⟩
    exact hpairs i hbefore hi
  obtain ⟨k, names, hgap, -, hends, hparse, hnames⟩ := (pairs_end_at_first_gap hread).2 hsuccess
  obtain rfl := hgap.unique hfirst
  refine ⟨hread, hsuccess, names, hparse, (hends _ _).2 ⟨rfl, rfl⟩, (hnames _ _).2 ?_⟩
  exact ⟨2, by decide, by decide +kernel, by decide +kernel, fun j hj hlater => by omega⟩

end FederatedPresence.Names
