import LibnvmeRs.ByteOrder

/-!
# Machine words and slices

The fixed-width integers of the interface, and byte slices under the bound the
language puts on every allocation. `usize` is 64 bits wide throughout, so a
length is a natural number and a narrowing cast keeps its low bits.
-/

namespace LibnvmeRs

open ByteOrder

abbrev U8 := BitVec 8
abbrev U16 := BitVec 16
abbrev U32 := BitVec 32
abbrev U64 := BitVec 64
abbrev I32 := BitVec 32

def isizeMax : ℕ := 2 ^ 63 - 1

def usizeMax : ℕ := 2 ^ 64 - 1

def asU16 (n : ℕ) : U16 := BitVec.ofNat 16 n

def asU32 (n : ℕ) : U32 := BitVec.ofNat 32 n

theorem asU32_le (n : ℕ) : (asU32 n).toNat ≤ n := by
  rw [asU32, BitVec.toNat_ofNat]
  exact Nat.mod_le _ _

theorem asU32_eq_iff {n : ℕ} : (asU32 n).toNat = n ↔ n < 2 ^ 32 := by
  rw [asU32, BitVec.toNat_ofNat]
  exact ⟨fun h => by omega, Nat.mod_eq_of_lt⟩

theorem asU16_of_lt {n : ℕ} (hn : n < 2 ^ 16) : (asU16 n).toNat = n := by
  rw [asU16, BitVec.toNat_ofNat]
  exact Nat.mod_eq_of_lt hn

def checkedMul (a b : ℕ) : Option ℕ := if a * b ≤ usizeMax then some (a * b) else none

theorem checkedMul_u32 {a b : ℕ} (ha : a < 2 ^ 32) (hb : b < 2 ^ 32) :
    checkedMul a b = some (a * b) := by
  have hab : a * b ≤ (2 ^ 32 - 1) * (2 ^ 32 - 1) := Nat.mul_le_mul (by omega) (by omega)
  have hmax : (2 ^ 32 - 1) * (2 ^ 32 - 1) ≤ usizeMax := by decide
  rw [checkedMul, if_pos (Nat.le_trans hab hmax)]

/-- A byte slice. No allocation is larger than `isize::MAX` bytes. -/
structure Slice where
  bytes : List Byte
  length_le : bytes.length ≤ isizeMax
  deriving DecidableEq

namespace Slice

def length (s : Slice) : ℕ := s.bytes.length

def zeros (n : ℕ) (hn : n ≤ isizeMax) : Slice :=
  ⟨List.replicate n 0, by rwa [List.length_replicate]⟩

@[simp] theorem length_zeros (n : ℕ) (hn : n ≤ isizeMax) : (zeros n hn).length = n :=
  List.length_replicate

def empty : Slice := ⟨[], Nat.zero_le _⟩

def fill (s : Slice) (stored : List Byte) : Slice :=
  ⟨stored.take s.length ++ s.bytes.drop stored.length, by
    have hs := s.length_le
    rw [List.length_append, List.length_take, List.length_drop, length]
    omega⟩

@[simp] theorem length_fill (s : Slice) (stored : List Byte) :
    (s.fill stored).length = s.length := by
  rw [length, fill, List.length_append, List.length_take, List.length_drop, length]
  omega

theorem bytes_fill {s : Slice} {stored : List Byte} (hlength : stored.length = s.length) :
    (s.fill stored).bytes = stored := by
  have hdrop : s.bytes.drop stored.length = [] := by
    rw [hlength, length, List.drop_length]
  simp only [fill, hdrop, List.append_nil]
  exact List.take_of_length_le (Nat.le_of_eq hlength)

end Slice
end LibnvmeRs
