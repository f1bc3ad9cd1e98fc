import LibnvmeRs.Strings

/-!
# UTF-8 and its characters

The bytes that validate are those of a list of characters. A character is a run of
one to four bytes, which the validator checks byte by byte and the encoder computes
from the scalar value; both say the same about every run.

An ASCII byte is a character of its own and stands in no longer run, so a text may
be cut or extended by ASCII bytes at its end.
-/

namespace LibnvmeRs

open ByteOrder

def IsCharSeq : List Byte → Prop
  | [b₀] => utf8CharWidth b₀ = 1
  | [b₀, b₁] => utf8CharWidth b₀ = 2 ∧ isContinuation b₁ = true
  | [b₀, b₁, b₂] =>
    utf8CharWidth b₀ = 3 ∧ isSecondOfThree b₀ b₁ = true ∧ isContinuation b₂ = true
  | [b₀, b₁, b₂, b₃] =>
    utf8CharWidth b₀ = 4 ∧ isSecondOfFour b₀ b₁ = true ∧ isContinuation b₂ = true ∧
      isContinuation b₃ = true
  | _ => False

theorem IsCharSeq.length_pos {seq : List Byte} (hseq : IsCharSeq seq) : 0 < seq.length := by
  cases seq with
  | nil => exact hseq.elim
  | cons b seq => exact Nat.succ_pos _

theorem validateUtf8_charSeq {seq : List Byte} (hseq : IsCharSeq seq) (i : ℕ) (rest : List Byte) :
    validateUtf8 i (seq ++ rest) = validateUtf8 (i + seq.length) rest := by
  match seq, hseq with
  | [b₀], hwidth =>
    change validateUtf8 i (b₀ :: rest) = _
    rw [validateUtf8.eq_def]
    dsimp only
    rw [hwidth]
    rfl
  | [b₀, b₁], ⟨hwidth, h₁⟩ =>
    change validateUtf8 i (b₀ :: b₁ :: rest) = _
    rw [validateUtf8.eq_def]
    dsimp only
    rw [hwidth]
    exact if_pos h₁
  | [b₀, b₁, b₂], ⟨hwidth, h₁, h₂⟩ =>
    change validateUtf8 i (b₀ :: b₁ :: b₂ :: rest) = _
    rw [validateUtf8.eq_def]
    dsimp only
    rw [hwidth, h₁]
    exact if_pos h₂
  | [b₀, b₁, b₂, b₃], ⟨hwidth, h₁, h₂, h₃⟩ =>
    change validateUtf8 i (b₀ :: b₁ :: b₂ :: b₃ :: rest) = _
    rw [validateUtf8.eq_def]
    dsimp only
    rw [hwidth, h₁, h₂]
    exact if_pos h₃

theorem exists_charSeq {i : ℕ} {b : Byte} {l : List Byte} (h : validateUtf8 i (b :: l) = .ok ()) :
    ∃ seq rest, IsCharSeq seq ∧ b :: l = seq ++ rest ∧
      validateUtf8 (i + seq.length) rest = .ok () := by
  rw [validateUtf8.eq_def] at h
  dsimp only at h
  split at h
  next hwidth => exact ⟨[b], l, hwidth, rfl, h⟩
  next hwidth =>
    split at h
    next => cases h
    next b₁ l₁ =>
      split at h
      next h₁ => exact ⟨[b, b₁], l₁, ⟨hwidth, h₁⟩, rfl, h⟩
      next => cases h
  next hwidth =>
    split at h
    next => cases h
    next b₁ l₁ =>
      split at h
      next => cases h
      next h₁ =>
        split at h
        next => cases h
        next b₂ l₂ =>
          split at h
          next h₂ => exact ⟨[b, b₁, b₂], l₂, ⟨hwidth, by simpa using h₁, h₂⟩, rfl, h⟩
          next => cases h
  next hwidth =>
    split at h
    next => cases h
    next b₁ l₁ =>
      split at h
      next => cases h
      next h₁ =>
        split at h
        next => cases h
        next b₂ l₂ =>
          split at h
          next => cases h
          next h₂ =>
            split at h
            next => cases h
            next b₃ l₃ =>
              split at h
              next h₃ =>
                exact ⟨[b, b₁, b₂, b₃], l₃, ⟨hwidth, by simpa using h₁, by simpa using h₂, h₃⟩,
                  rfl, h⟩
              next => cases h
  next => cases h

def IsScalar (v : ℕ) : Prop := v < 0xD800 ∨ 0xDFFF < v ∧ v < 0x110000

def scalarBytes (v : ℕ) : List Byte :=
  if v ≤ 0x7F then [.ofNat 8 v]
  else if v ≤ 0x7FF then [.ofNat 8 (v / 64 % 32 + 0xC0), .ofNat 8 (v % 64 + 0x80)]
  else if v ≤ 0xFFFF then
    [.ofNat 8 (v / 4096 % 16 + 0xE0), .ofNat 8 (v / 64 % 64 + 0x80), .ofNat 8 (v % 64 + 0x80)]
  else
    [.ofNat 8 (v / 262144 % 8 + 0xF0), .ofNat 8 (v / 4096 % 64 + 0x80),
      .ofNat 8 (v / 64 % 64 + 0x80), .ofNat 8 (v % 64 + 0x80)]

section Ranges
variable (b b₀ b₁ : Byte)

theorem isContinuation_iff : isContinuation b = true ↔ 0x80 ≤ b.toNat ∧ b.toNat ≤ 0xBF := by
  simp [isContinuation, BitVec.le_def]

theorem utf8CharWidth_eq : utf8CharWidth b =
    if b.toNat < 0x80 then 1
    else if 0xC2 ≤ b.toNat ∧ b.toNat ≤ 0xDF then 2
    else if 0xE0 ≤ b.toNat ∧ b.toNat ≤ 0xEF then 3
    else if 0xF0 ≤ b.toNat ∧ b.toNat ≤ 0xF4 then 4
    else 0 := by
  simp only [utf8CharWidth, BitVec.le_def, BitVec.lt_def, Bool.and_eq_true, decide_eq_true_eq,
    BitVec.reduceToNat]

theorem utf8CharWidth_one : utf8CharWidth b = 1 ↔ b.toNat < 0x80 := by
  rw [utf8CharWidth_eq]
  split_ifs <;> grind

theorem utf8CharWidth_two : utf8CharWidth b = 2 ↔ 0xC2 ≤ b.toNat ∧ b.toNat ≤ 0xDF := by
  rw [utf8CharWidth_eq]
  split_ifs <;> grind

theorem utf8CharWidth_three : utf8CharWidth b = 3 ↔ 0xE0 ≤ b.toNat ∧ b.toNat ≤ 0xEF := by
  rw [utf8CharWidth_eq]
  split_ifs <;> grind

theorem utf8CharWidth_four : utf8CharWidth b = 4 ↔ 0xF0 ≤ b.toNat ∧ b.toNat ≤ 0xF4 := by
  rw [utf8CharWidth_eq]
  split_ifs <;> grind

theorem isSecondOfThree_iff : isSecondOfThree b₀ b₁ = true ↔
    (b₀.toNat = 0xE0 ∧ 0xA0 ≤ b₁.toNat ∧ b₁.toNat ≤ 0xBF) ∨
    (0xE1 ≤ b₀.toNat ∧ b₀.toNat ≤ 0xEC ∧ 0x80 ≤ b₁.toNat ∧ b₁.toNat ≤ 0xBF) ∨
    (b₀.toNat = 0xED ∧ 0x80 ≤ b₁.toNat ∧ b₁.toNat ≤ 0x9F) ∨
    (0xEE ≤ b₀.toNat ∧ b₀.toNat ≤ 0xEF ∧ 0x80 ≤ b₁.toNat ∧ b₁.toNat ≤ 0xBF) := by
  simp only [isSecondOfThree, isContinuation, BitVec.le_def, Bool.and_eq_true, Bool.or_eq_true,
    decide_eq_true_eq, BitVec.reduceToNat, beq_iff_eq, ← BitVec.toNat_inj]
  omega

theorem isSecondOfFour_iff : isSecondOfFour b₀ b₁ = true ↔
    (b₀.toNat = 0xF0 ∧ 0x90 ≤ b₁.toNat ∧ b₁.toNat ≤ 0xBF) ∨
    (0xF1 ≤ b₀.toNat ∧ b₀.toNat ≤ 0xF3 ∧ 0x80 ≤ b₁.toNat ∧ b₁.toNat ≤ 0xBF) ∨
    (b₀.toNat = 0xF4 ∧ 0x80 ≤ b₁.toNat ∧ b₁.toNat ≤ 0x8F) := by
  simp only [isSecondOfFour, isContinuation, BitVec.le_def, Bool.and_eq_true, Bool.or_eq_true,
    decide_eq_true_eq, BitVec.reduceToNat, beq_iff_eq, ← BitVec.toNat_inj]
  omega

end Ranges

theorem isCharSeq_scalarBytes {v : ℕ} (hv : IsScalar v) : IsCharSeq (scalarBytes v) := by
  unfold IsScalar at hv
  unfold scalarBytes
  split_ifs with h₁ h₂ h₃
  · simp only [IsCharSeq, utf8CharWidth_one, BitVec.toNat_ofNat]
    omega
  · simp only [IsCharSeq, utf8CharWidth_two, isContinuation_iff, BitVec.toNat_ofNat]
    omega
  · simp only [IsCharSeq, utf8CharWidth_three, isContinuation_iff, isSecondOfThree_iff,
      BitVec.toNat_ofNat]
    omega
  · simp only [IsCharSeq, utf8CharWidth_four, isContinuation_iff, isSecondOfFour_iff,
      BitVec.toNat_ofNat]
    omega

theorem exists_scalar {seq : List Byte} (hseq : IsCharSeq seq) :
    ∃ v, IsScalar v ∧ scalarBytes v = seq := by
  have hbyte : ∀ (b : Byte) (n : ℕ), n = b.toNat → BitVec.ofNat 8 n = b := by
    rintro b n rfl
    rw [BitVec.ofNat_toNat, BitVec.setWidth_eq]
  unfold IsScalar scalarBytes
  match seq, hseq with
  | [b₀], h =>
    simp only [IsCharSeq, utf8CharWidth_one] at h
    refine ⟨b₀.toNat, by omega, ?_⟩
    rw [if_pos (by omega), hbyte b₀ _ rfl]
  | [b₀, b₁], h =>
    simp only [IsCharSeq, utf8CharWidth_two, isContinuation_iff] at h
    refine ⟨(b₀.toNat - 0xC0) * 64 + (b₁.toNat - 0x80), by omega, ?_⟩
    rw [if_neg (by omega), if_pos (by omega), hbyte b₀ _ (by omega), hbyte b₁ _ (by omega)]
  | [b₀, b₁, b₂], h =>
    simp only [IsCharSeq, utf8CharWidth_three, isSecondOfThree_iff, isContinuation_iff] at h
    refine ⟨(b₀.toNat - 0xE0) * 4096 + (b₁.toNat - 0x80) * 64 + (b₂.toNat - 0x80), by omega, ?_⟩
    rw [if_neg (by omega), if_neg (by omega), if_pos (by omega), hbyte b₀ _ (by omega),
      hbyte b₁ _ (by omega), hbyte b₂ _ (by omega)]
  | [b₀, b₁, b₂, b₃], h =>
    simp only [IsCharSeq, utf8CharWidth_four, isSecondOfFour_iff, isContinuation_iff] at h
    refine ⟨(b₀.toNat - 0xF0) * 262144 + (b₁.toNat - 0x80) * 4096 + (b₂.toNat - 0x80) * 64 +
      (b₃.toNat - 0x80), by omega, ?_⟩
    rw [if_neg (by omega), if_neg (by omega), if_neg (by omega), hbyte b₀ _ (by omega),
      hbyte b₁ _ (by omega), hbyte b₂ _ (by omega), hbyte b₃ _ (by omega)]

def encodeChar (c : Char) : List Byte := (String.utf8EncodeChar c).map UInt8.toBitVec

def encode (cs : List Char) : List Byte := cs.flatMap encodeChar

theorem encodeChar_eq (c : Char) : encodeChar c = scalarBytes c.toNat := by
  unfold encodeChar String.utf8EncodeChar scalarBytes
  simp only [apply_ite (List.map UInt8.toBitVec)]
  rfl

theorem isCharSeq_encodeChar (c : Char) : IsCharSeq (encodeChar c) := by
  rw [encodeChar_eq]
  exact isCharSeq_scalarBytes c.valid

theorem exists_char {seq : List Byte} (hseq : IsCharSeq seq) : ∃ c, encodeChar c = seq := by
  obtain ⟨v, hv, rfl⟩ := exists_scalar hseq
  exact ⟨Char.ofNatAux v hv, encodeChar_eq _⟩

theorem validateUtf8_encode (i : ℕ) (cs : List Char) : validateUtf8 i (encode cs) = .ok () := by
  induction cs generalizing i with
  | nil => rfl
  | cons c cs ih =>
    rw [encode, List.flatMap_cons, validateUtf8_charSeq (isCharSeq_encodeChar c)]
    exact ih _

theorem validateUtf8_iff {i : ℕ} {bytes : List Byte} :
    validateUtf8 i bytes = .ok () ↔ ∃ cs, bytes = encode cs := by
  refine ⟨fun h => ?_, fun ⟨cs, hcs⟩ => hcs ▸ validateUtf8_encode i cs⟩
  induction hn : bytes.length using Nat.strongRecOn generalizing i bytes with
  | _ n ih =>
    cases bytes with
    | nil => exact ⟨[], rfl⟩
    | cons b l =>
      obtain ⟨seq, rest, hseq, hsplit, hrest⟩ := exists_charSeq h
      have hshorter : rest.length < n := by
        have hpos := hseq.length_pos
        rw [← hn, hsplit, List.length_append]
        omega
      obtain ⟨cs, rfl⟩ := ih rest.length hshorter hrest rfl
      obtain ⟨c, rfl⟩ := exists_char hseq
      exact ⟨c :: cs, hsplit⟩

theorem encode_append (cs ds : List Char) : encode (cs ++ ds) = encode cs ++ encode ds :=
  List.flatMap_append

theorem encodeChar_ascii {c : Char} (hc : c.toNat < 0x80) :
    encodeChar c = [BitVec.ofNat 8 c.toNat] := by
  rw [encodeChar_eq, scalarBytes, if_pos (Nat.le_of_lt_succ hc)]

theorem le_of_mem_encodeChar {c : Char} (hc : 0x80 ≤ c.toNat) {b : Byte} (hb : b ∈ encodeChar c) :
    0x80 ≤ b.toNat := by
  have hscalar : IsScalar c.toNat := c.valid
  unfold IsScalar at hscalar
  have hbyte : ∀ n, (BitVec.ofNat 8 n).toNat = n % 256 := fun n => BitVec.toNat_ofNat n 8
  rw [encodeChar_eq, scalarBytes, if_neg (by omega)] at hb
  split_ifs at hb with h₂ h₃ <;>
  · simp only [List.mem_cons, List.not_mem_nil, or_false] at hb
    rcases hb with rfl | rfl | rfl | rfl <;> rw [hbyte] <;> omega

theorem exists_ascii {b : Byte} (hb : b.toNat < 0x80) :
    ∃ c, encodeChar c = [b] ∧ c.toNat = b.toNat := by
  have hseq : IsCharSeq [b] := (utf8CharWidth_one b).mpr hb
  obtain ⟨c, hc⟩ := exists_char hseq
  refine ⟨c, hc, ?_⟩
  by_cases hascii : c.toNat < 0x80
  · rw [encodeChar_ascii hascii] at hc
    obtain rfl := (List.cons.inj hc).1
    exact (Nat.mod_eq_of_lt (by omega)).symm
  · have hmem : b ∈ encodeChar c := hc ▸ List.mem_singleton_self b
    have hle := le_of_mem_encodeChar (Nat.le_of_not_lt hascii) hmem
    omega

end LibnvmeRs
