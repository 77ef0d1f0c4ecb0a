import FederatedPresence.Text.Form

/-!
# ASCII text, in bytes and in lower case

An ASCII character is one byte, its own number. So the bytes of an ASCII text are read back as that
text, strictly (`decode_encode`) and lossily (`decodeLossy_encode`), and percent-decoding leaves a
text without `%` alone (`decodePart_of_plain`).

Only the letters of ASCII have a lower case (`toNat_toLower`). So a character that is no such letter is
the lower case of itself alone (`toLower_eq_iff_of_not_isAlpha`).
-/

namespace FederatedPresence

namespace Text

/-- The character is one of ASCII. -/
def isAscii (c : Char) : Bool := c.toNat < 128

theorem toNat_toLower (c : Char) :
    c.toLower.toNat = if 65 ≤ c.toNat ∧ c.toNat ≤ 90 then c.toNat + 32 else c.toNat := by
  have hA : c.val ≥ 'A'.val ↔ 65 ≤ c.toNat := UInt32.le_iff_toNat_le
  have hZ : c.val ≤ 'Z'.val ↔ c.toNat ≤ 90 := UInt32.le_iff_toNat_le
  unfold Char.toLower
  split <;> rename_i h <;> rw [hA, hZ] at h
  · rw [if_pos h]
    show (c.val + _).toNat = _
    rw [UInt32.toNat_add]
    show (c.toNat + 32) % _ = _
    omega
  · rw [if_neg h]

theorem isAlpha_iff {c : Char} : c.isAlpha = true ↔
    (65 ≤ c.toNat ∧ c.toNat ≤ 90) ∨ (97 ≤ c.toNat ∧ c.toNat ≤ 122) := by
  have hupper : c.isUpper = true ↔ 65 ≤ c.toNat ∧ c.toNat ≤ 90 :=
    decide_eq_true_iff.trans (and_congr UInt32.le_iff_toNat_le UInt32.le_iff_toNat_le)
  have hlower : c.isLower = true ↔ 97 ≤ c.toNat ∧ c.toNat ≤ 122 := by
    show (decide (c.val ≥ 'a'.val) && decide (c.val ≤ 'z'.val)) = true ↔ _
    rw [Bool.and_eq_true, decide_eq_true_iff, decide_eq_true_iff]
    exact and_congr UInt32.le_iff_toNat_le UInt32.le_iff_toNat_le
  show (c.isUpper || c.isLower) = true ↔ _
  rw [Bool.or_eq_true, hupper, hlower]

/-- **A character that is no letter of ASCII is the lower case of itself alone.** -/
theorem toLower_eq_iff_of_not_isAlpha {c d : Char} (hd : ¬d.isAlpha) : c.toLower = d ↔ c = d := by
  rw [isAlpha_iff] at hd
  rw [← Char.toNat_inj, toNat_toLower, ← Char.toNat_inj]
  split <;> omega

end Text

open Text

namespace Utf8

theorem encodeChar_of_isAscii {c : Char} (h : isAscii c = true) :
    String.utf8EncodeChar c = [UInt8.ofNat c.toNat] := by
  have h : c.toNat < 128 := of_decide_eq_true h
  have hval : c.val.toNat ≤ 127 := Nat.le_of_lt_succ h
  rw [String.utf8EncodeChar, if_pos hval]
  rfl

theorem toNat_byte_of_isAscii {c : Char} (h : isAscii c = true) :
    (UInt8.ofNat c.toNat).toNat = c.toNat := by
  have h : c.toNat < 128 := of_decide_eq_true h
  rw [UInt8.toNat_ofNat']
  omega

theorem encode_cons (c : Char) (cs : List Char) :
    encode (c :: cs) = String.utf8EncodeChar c ++ encode cs := by
  rw [encode, List.flatMap_cons, encode]

/-- An ASCII text has one byte for each character. -/
theorem length_encode {cs : List Char} (h : ∀ c ∈ cs, isAscii c = true) :
    (encode cs).length = cs.length := by
  induction cs with
  | nil => rfl
  | cons c cs ih =>
    rw [encode_cons, encodeChar_of_isAscii (h c List.mem_cons_self), List.singleton_append,
      List.length_cons, List.length_cons, ih fun d hd => h d (List.mem_cons_of_mem _ hd)]

theorem firstRun_of_isAscii {c : Char} (h : isAscii c = true) (bs : List UInt8) :
    firstRun (UInt8.ofNat c.toNat) bs = (.char c, bs) := by
  have hlow : UInt8.ofNat c.toNat < 0x80 := by
    rw [UInt8.lt_iff_toNat_lt, toNat_byte_of_isAscii h]
    exact of_decide_eq_true h
  rw [firstRun, if_pos hlow, toNat_byte_of_isAscii h, Char.ofNat_toNat]

/-- **The bytes of an ASCII text are its characters.** -/
theorem runs_encode {cs : List Char} (h : ∀ c ∈ cs, isAscii c = true) :
    runs (encode cs) = cs.map .char := by
  induction cs with
  | nil => exact runs.eq_1
  | cons c cs ih =>
    have hc := h c List.mem_cons_self
    have hcs := ih fun d hd => h d (List.mem_cons_of_mem _ hd)
    rw [encode_cons, encodeChar_of_isAscii hc, List.singleton_append, runs, firstRun_of_isAscii hc,
      hcs, List.map_cons]

/-- **An ASCII text is read back from its bytes.** -/
theorem decodeLossy_encode {cs : List Char} (h : ∀ c ∈ cs, isAscii c = true) :
    decodeLossy (encode cs) = cs := by
  rw [decodeLossy, runs_encode h, List.map_map]
  exact List.map_id _

theorem charsOfRuns_map_char (offset : Nat) (cs : List Char) :
    charsOfRuns offset (cs.map .char) = .ok cs := by
  induction cs generalizing offset with
  | nil => rfl
  | cons c cs ih =>
    rw [List.map_cons, charsOfRuns, ih]
    rfl

/-- **An ASCII text is read back from its bytes.** -/
theorem decode_encode {cs : List Char} (h : ∀ c ∈ cs, isAscii c = true) :
    decode (encode cs) = .ok cs := by
  rw [decode, runs_encode h, charsOfRuns_map_char]

end Utf8

namespace Percent

/-- Bytes other than `%` stand for themselves. -/
theorem decodeBytes_of_forall {bs : List UInt8} (h : ∀ b ∈ bs, b ≠ 0x25) : decodeBytes bs = bs := by
  induction bs with
  | nil => rfl
  | cons b bs ih =>
    have hb := h b List.mem_cons_self
    have hbs := ih fun d hd => h d (List.mem_cons_of_mem _ hd)
    rw [decodeBytes, hbs]
    rintro _ _ _ rfl
    exact absurd rfl hb

end Percent

namespace Form

/-- The character stands for itself in a form. -/
def isPlain (c : Char) : Bool := isAscii c && (c ≠ '%' && c ≠ '+' && (c ≠ '&' && c ≠ '='))

theorem isPlain_iff {c : Char} :
    isPlain c = true ↔ isAscii c = true ∧ (c ≠ '%' ∧ c ≠ '+') ∧ c ≠ '&' ∧ c ≠ '=' := by
  simp [isPlain]

/-- **A text of plain characters stands for itself.** -/
theorem decodePart_of_plain {cs : List Char} (h : ∀ c ∈ cs, isPlain c = true) :
    decodePart cs = cs := by
  have hascii : ∀ c ∈ cs, isAscii c = true := fun c hc => (isPlain_iff.1 (h c hc)).1
  have hplus : (cs.map fun c => if c = '+' then ' ' else c) = cs := by
    refine (List.map_congr_left fun c hc => ?_).trans (List.map_id' cs)
    obtain ⟨-, ⟨-, hc⟩, -⟩ := isPlain_iff.1 (h c hc)
    rw [if_neg hc]
  have hbytes : ∀ b ∈ Utf8.encode cs, b ≠ 0x25 := by
    intro b hb
    obtain ⟨c, hc, hb⟩ := List.mem_flatMap.1 hb
    rw [Utf8.encodeChar_of_isAscii (hascii c hc), List.mem_singleton] at hb
    obtain ⟨-, ⟨hpercent, -⟩, -⟩ := isPlain_iff.1 (h c hc)
    rintro rfl
    have hnum : (0x25 : UInt8).toNat = c.toNat := by
      rw [hb, Utf8.toNat_byte_of_isAscii (hascii c hc)]
    refine hpercent ?_
    rw [← Char.ofNat_toNat c, ← hnum]
    rfl
  rw [decodePart, hplus, Percent.decode, Percent.decodeBytes_of_forall hbytes,
    Utf8.decodeLossy_encode hascii]

end Form

end FederatedPresence
