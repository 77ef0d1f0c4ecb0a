/-!
# Cutting texts into pieces

`pieces` cuts at every separator, `cutAt` at the first one. `splitAtByte` cuts at an offset in
UTF-8 bytes, and only between two characters.
-/

namespace FederatedPresence.Text

/-- The pieces of a text between the characters that satisfy `p`; there is always at least one. -/
def pieces (p : Char → Bool) : List Char → List (List Char)
  | [] => [[]]
  | c :: cs =>
    if p c then [] :: pieces p cs
    else match pieces p cs with
      | [] => [[c]]
      | w :: ws => (c :: w) :: ws

theorem pieces_ne_nil (p : Char → Bool) (cs : List Char) : pieces p cs ≠ [] := by
  cases cs with
  | nil => simp [pieces]
  | cons c cs =>
    unfold pieces
    split
    · simp
    · split <;> simp

/-- A text without separators is one piece. -/
theorem pieces_of_forall {p : Char → Bool} {cs : List Char} (h : ∀ c ∈ cs, p c = false) :
    pieces p cs = [cs] := by
  induction cs with
  | nil => rfl
  | cons c cs ih =>
    rw [pieces, if_neg (by simp [h c]), ih fun d hd => h d (List.mem_cons_of_mem _ hd)]

/-- A separator ends the piece before it. -/
theorem pieces_append_cons {p : Char → Bool} {a : List Char} (ha : ∀ c ∈ a, p c = false) {c : Char}
    (hc : p c = true) (b : List Char) : pieces p (a ++ c :: b) = a :: pieces p b := by
  induction a with
  | nil => simp [pieces, hc]
  | cons d a ih =>
    rw [List.cons_append, pieces, if_neg (by simp [ha d]),
      ih fun e he => ha e (List.mem_cons_of_mem _ he)]

/-- What stands before and after the first character that satisfies `p`, if there is one. -/
def cutAt (p : Char → Bool) : List Char → Option (List Char × List Char)
  | [] => none
  | c :: cs => if p c then some ([], cs) else (cutAt p cs).map fun (a, b) => (c :: a, b)

/-- The text behind `lead`, when `cs` begins with it. -/
def after? : List Char → List Char → Option (List Char)
  | [], cs => some cs
  | _ :: _, [] => none
  | l :: ls, c :: cs => if l = c then after? ls cs else none

theorem after?_eq_some_iff {lead cs rest : List Char} :
    after? lead cs = some rest ↔ cs = lead ++ rest := by
  induction lead generalizing cs with
  | nil => simp [after?, eq_comm]
  | cons l ls ih =>
    cases cs with
    | nil => simp [after?]
    | cons c cs =>
      by_cases h : l = c
      · simp [after?, h, ih]
      · simp [after?, h, Ne.symm h]

/-- `needle` occurs in `cs`. -/
def occursIn (needle : List Char) : List Char → Bool
  | [] => needle.isEmpty
  | c :: cs => (after? needle (c :: cs)).isSome || occursIn needle cs

/-- The length of a text in UTF-8 bytes. -/
def byteLength : List Char → Nat
  | [] => 0
  | c :: cs => c.utf8Size + byteLength cs

@[simp] theorem byteLength_nil : byteLength [] = 0 := rfl

@[simp] theorem byteLength_cons (c : Char) (cs : List Char) :
    byteLength (c :: cs) = c.utf8Size + byteLength cs := rfl

@[simp] theorem byteLength_append (a b : List Char) :
    byteLength (a ++ b) = byteLength a + byteLength b := by
  induction a with
  | nil => simp
  | cons c a ih => simp [ih, Nat.add_assoc]

/-- Cuts a text behind its first `n` UTF-8 bytes. There is no such cut when the text is shorter, or
when the cut would fall inside a character. -/
def splitAtByte : Nat → List Char → Option (List Char × List Char)
  | 0, cs => some ([], cs)
  | _ + 1, [] => none
  | n + 1, c :: cs =>
    if c.utf8Size ≤ n + 1 then
      (splitAtByte (n + 1 - c.utf8Size) cs).map fun (a, b) => (c :: a, b)
    else none

/-- **A cut is a way to write the text as two parts, the first of the given length.** -/
theorem splitAtByte_eq_some_iff {n : Nat} {cs a b : List Char} :
    splitAtByte n cs = some (a, b) ↔ cs = a ++ b ∧ byteLength a = n := by
  induction cs generalizing n a with
  | nil =>
    cases n with
    | zero =>
      simp only [splitAtByte, Option.some.injEq, Prod.mk.injEq, List.nil_eq, List.append_eq_nil_iff]
      exact ⟨fun ⟨ha, hb⟩ => ⟨⟨ha, hb⟩, by simp [ha]⟩, fun ⟨⟨ha, hb⟩, _⟩ => ⟨ha, hb⟩⟩
    | succ n =>
      simp only [splitAtByte, reduceCtorEq, List.nil_eq, List.append_eq_nil_iff, false_iff]
      rintro ⟨⟨rfl, rfl⟩, h⟩
      simp at h
  | cons c cs ih =>
    cases n with
    | zero =>
      simp only [splitAtByte, Option.some.injEq, Prod.mk.injEq]
      constructor
      · rintro ⟨rfl, rfl⟩; simp
      · rintro ⟨h, hl⟩
        cases a with
        | nil => exact ⟨rfl, h⟩
        | cons d a =>
          have := d.utf8Size_pos
          simp at hl; omega
    | succ n =>
      unfold splitAtByte
      have hpos := c.utf8Size_pos
      constructor
      · intro h
        split at h
        · obtain ⟨⟨a', b'⟩, h', he⟩ := Option.map_eq_some_iff.1 h
          simp only [Prod.mk.injEq] at he
          obtain ⟨rfl, rfl⟩ := he
          obtain ⟨rfl, hl⟩ := ih.1 h'
          exact ⟨rfl, by simp; omega⟩
        · simp at h
      · rintro ⟨h, hl⟩
        cases a with
        | nil => simp at hl
        | cons d a =>
          simp only [List.cons_append, List.cons.injEq] at h
          obtain ⟨rfl, rfl⟩ := h
          simp only [byteLength_cons] at hl
          rw [if_pos (by omega), ih.2 ⟨rfl, by omega⟩]
          rfl

end FederatedPresence.Text
