/-!
# UTF-8

A byte text is read as a sequence of `Run`s: characters, and stretches that are no part of any
character. A bad stretch is as long as it could still have become a character. Reading *lossily*
puts the replacement character in place of each bad stretch; reading *strictly* fails at the first
one.
-/

namespace FederatedPresence.Utf8

/-! ## Runs -/

/-- What stands at one place of a byte text. -/
inductive Run where
  | char (c : Char)
  /-- Bytes that begin no character, and how many of them. -/
  | bad (length : Nat)
  /-- The text ends inside a character. -/
  | cut
  deriving DecidableEq

/-- A first byte of a longer character: its share of the code point, how many bytes follow, and the
range of the next one. -/
structure Lead where
  share : Nat
  more : Nat
  low : UInt8
  high : UInt8

/-- The first bytes of characters of two, three and four bytes. The ranges leave out overlong
forms, surrogates, and what lies beyond the last code point. -/
def lead? (b : UInt8) : Option Lead :=
  let n := b.toNat
  if 0xC2 ≤ b ∧ b ≤ 0xDF then some ⟨n - 0xC0, 1, 0x80, 0xBF⟩
  else if b = 0xE0 then some ⟨n - 0xE0, 2, 0xA0, 0xBF⟩
  else if b = 0xED then some ⟨n - 0xE0, 2, 0x80, 0x9F⟩
  else if 0xE1 ≤ b ∧ b ≤ 0xEF then some ⟨n - 0xE0, 2, 0x80, 0xBF⟩
  else if b = 0xF0 then some ⟨n - 0xF0, 3, 0x90, 0xBF⟩
  else if 0xF1 ≤ b ∧ b ≤ 0xF3 then some ⟨n - 0xF0, 3, 0x80, 0xBF⟩
  else if b = 0xF4 then some ⟨n - 0xF0, 3, 0x80, 0x8F⟩
  else none

/-- Reads the `more` bytes that a character still needs, `taken` of them being read, and gives the
rest of the text. -/
def follow (value taken : Nat) : (more : Nat) → (low high : UInt8) → List UInt8 → Run × List UInt8
  | 0, _, _, bs => (.char (Char.ofNat value), bs)
  | _ + 1, _, _, [] => (.cut, [])
  | more + 1, low, high, b :: bs =>
    if low ≤ b ∧ b ≤ high then
      follow (value * 64 + (b.toNat - 0x80)) (taken + 1) more 0x80 0xBF bs
    else (.bad taken, b :: bs)

/-- The first run of a text that begins with `b`. -/
def firstRun (b : UInt8) (bs : List UInt8) : Run × List UInt8 :=
  if b < 0x80 then (.char (Char.ofNat b.toNat), bs)
  else match lead? b with
    | some l => follow l.share 1 l.more l.low l.high bs
    | none => (.bad 1, bs)

theorem length_follow_le (value taken more : Nat) (low high : UInt8) (bs : List UInt8) :
    (follow value taken more low high bs).2.length ≤ bs.length := by
  induction more generalizing value taken low high bs with
  | zero => simp [follow]
  | succ more ih =>
    cases bs with
    | nil => simp [follow]
    | cons b bs =>
      unfold follow
      split
      · exact Nat.le_succ_of_le (ih ..)
      · exact Nat.le_refl _

theorem length_firstRun_le (b : UInt8) (bs : List UInt8) :
    (firstRun b bs).2.length ≤ bs.length := by
  unfold firstRun
  split
  · exact Nat.le_refl _
  · split
    · exact length_follow_le ..
    · exact Nat.le_refl _

/-- The runs of a byte text. -/
def runs : List UInt8 → List Run
  | [] => []
  | b :: bs => (firstRun b bs).1 :: runs (firstRun b bs).2
termination_by bs => bs.length
decreasing_by
  have := length_firstRun_le b bs
  simp only [List.length_cons]
  omega

/-! ## Reading and writing -/

/-- The bytes of a text. -/
def encode (cs : List Char) : List UInt8 := cs.flatMap String.utf8EncodeChar

/-- The replacement character. -/
def replacement : Char := '\uFFFD'

/-- The character for a run, bad stretches being replaced. -/
def Run.toChar : Run → Char
  | .char c => c
  | .bad _ | .cut => replacement

/-- The text of some bytes, bad stretches being replaced. -/
def decodeLossy (bs : List UInt8) : List Char := (runs bs).map Run.toChar

/-- Why bytes are no text, with the offset of the first bad stretch. -/
inductive Error where
  | invalid (length offset : Nat)
  | incomplete (offset : Nat)
  deriving DecidableEq

def Error.message : Error → String
  | .invalid length offset =>
    "invalid utf-8 sequence of " ++ length.repr ++ " bytes from index " ++ offset.repr
  | .incomplete offset => "incomplete utf-8 byte sequence from index " ++ offset.repr

/-- The characters of some runs, the first of which stands at `offset`. -/
def charsOfRuns (offset : Nat) : List Run → Except Error (List Char)
  | [] => .ok []
  | .char c :: rs => (charsOfRuns (offset + c.utf8Size) rs).map (c :: ·)
  | .bad length :: _ => .error (.invalid length offset)
  | .cut :: _ => .error (.incomplete offset)

/-- The text of some bytes, if they are one. -/
def decode (bs : List UInt8) : Except Error (List Char) := charsOfRuns 0 (runs bs)

end FederatedPresence.Utf8
