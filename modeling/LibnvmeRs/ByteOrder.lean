import Mathlib.Algebra.Ring.Nat
import Mathlib.Tactic.Common

/-!
# Byte order

`leBytes n x` is the number `x` in `n` bytes, least significant first, and
`leNat` reads such a sequence back. A host of either endianness keeps an integer
in memory in its own order; `toLe` gives the integer whose memory image is the
little-endian one, so storing `toLe x` writes `leBytes x` on every host.

An array of records of one size is the concatenation of their images, and the
last part reads the `i`-th record off that concatenation.
-/

namespace LibnvmeRs.ByteOrder

abbrev Byte := BitVec 8

def leBytes : ℕ → ℕ → List Byte
  | 0, _ => []
  | n + 1, x => BitVec.ofNat 8 x :: leBytes n (x / 256)

def leNat : List Byte → ℕ
  | [] => 0
  | b :: bs => b.toNat + 256 * leNat bs

@[simp] theorem length_leBytes (n x : ℕ) : (leBytes n x).length = n := by
  induction n generalizing x with
  | zero => rfl
  | succ n ih => simp [leBytes, ih]

theorem leNat_leBytes (n x : ℕ) : leNat (leBytes n x) = x % 256 ^ n := by
  induction n generalizing x with
  | zero => simp [leBytes, leNat, Nat.mod_one]
  | succ n ih =>
    have hsplit : x % (256 * 256 ^ n) = x % 256 + 256 * (x / 256 % 256 ^ n) := Nat.mod_mul
    have hpow : 256 ^ (n + 1) = 256 * 256 ^ n := Nat.pow_succ'
    rw [leBytes, leNat, ih, BitVec.toNat_ofNat, hpow, hsplit]

theorem leNat_lt (bs : List Byte) : leNat bs < 256 ^ bs.length := by
  induction bs with
  | nil => simp [leNat]
  | cons b bs ih =>
    have hb : b.toNat < 256 := b.isLt
    rw [leNat, List.length_cons, Nat.pow_succ']
    omega

theorem leBytes_leNat (bs : List Byte) : leBytes bs.length (leNat bs) = bs := by
  induction bs with
  | nil => rfl
  | cons b bs ih =>
    have hb : b.toNat < 256 := b.isLt
    have hlow : BitVec.ofNat 8 (b.toNat + 256 * leNat bs) = b := by
      apply BitVec.eq_of_toNat_eq
      rw [BitVec.toNat_ofNat]
      omega
    have hhigh : (b.toNat + 256 * leNat bs) / 256 = leNat bs := by omega
    rw [List.length_cons, leNat, leBytes, hlow, hhigh, ih]

inductive Endian where
  | little
  | big
  deriving DecidableEq, Repr

variable {w : ℕ}

/-- The bytes of `x`, a whole number of them, as the host keeps them in memory. -/
def Endian.store : Endian → BitVec w → List Byte
  | .little, x => leBytes (w / 8) x.toNat
  | .big, x => (leBytes (w / 8) x.toNat).reverse

def Endian.load : Endian → List Byte → ℕ
  | .little, bs => leNat bs
  | .big, bs => leNat bs.reverse

def swapBytes (x : BitVec w) : BitVec w :=
  BitVec.ofNat w (leNat (leBytes (w / 8) x.toNat).reverse)

def Endian.toLe : Endian → BitVec w → BitVec w
  | .little, x => x
  | .big, x => swapBytes x

@[simp] theorem length_store (e : Endian) (x : BitVec w) : (e.store x).length = w / 8 := by
  cases e <;> simp [Endian.store]

theorem leBytes_swapBytes (hw : w = 8 * (w / 8)) (x : BitVec w) :
    leBytes (w / 8) (swapBytes x).toNat = (leBytes (w / 8) x.toNat).reverse := by
  have hlt := leNat_lt (leBytes (w / 8) x.toNat).reverse
  have hwidth : 256 ^ (w / 8) = 2 ^ w := by
    conv_rhs => rw [hw, Nat.pow_mul]
  rw [List.length_reverse, length_leBytes, hwidth] at hlt
  have hback := leBytes_leNat (leBytes (w / 8) x.toNat).reverse
  rw [List.length_reverse, length_leBytes] at hback
  rw [swapBytes, BitVec.toNat_ofNat, Nat.mod_eq_of_lt hlt, hback]

theorem store_toLe (e : Endian) (hw : w = 8 * (w / 8)) (x : BitVec w) :
    e.store (e.toLe x) = leBytes (w / 8) x.toNat := by
  cases e with
  | little => rfl
  | big => rw [Endian.store, Endian.toLe, leBytes_swapBytes hw, List.reverse_reverse]

theorem leNat_inj {bs bs' : List Byte} (hlength : bs.length = bs'.length) :
    leNat bs = leNat bs' ↔ bs = bs' := by
  refine ⟨fun h => ?_, congrArg leNat⟩
  rw [← leBytes_leNat bs, ← leBytes_leNat bs', h, hlength]

theorem load_pair_iff (e : Endian) (a b : Byte) :
    e.load [a, b] = leNat [a, b] ↔ e = .little ∨ a = b := by
  cases e with
  | little => simp [Endian.load]
  | big =>
    have hswap : leNat [b, a] = leNat [a, b] ↔ [b, a] = [a, b] := leNat_inj rfl
    simpa [Endian.load, eq_comm] using hswap

theorem load_inj (e : Endian) {bs bs' : List Byte} (hlength : bs.length = bs'.length) :
    e.load bs = e.load bs' ↔ bs = bs' := by
  cases e with
  | little => exact leNat_inj hlength
  | big =>
    have hreverse : bs.reverse.length = bs'.reverse.length := by simpa using hlength
    rw [Endian.load, Endian.load, leNat_inj hreverse, List.reverse_inj]

theorem load_lt (e : Endian) (bs : List Byte) : e.load bs < 256 ^ bs.length := by
  cases e with
  | little => exact leNat_lt bs
  | big => simpa [Endian.load] using leNat_lt bs.reverse

theorem leNat_leBytes_toNat (hw : w = 8 * (w / 8)) (x : BitVec w) :
    leNat (leBytes (w / 8) x.toNat) = x.toNat := by
  have hwidth : 256 ^ (w / 8) = 2 ^ w := by
    conv_rhs => rw [hw, Nat.pow_mul]
  rw [leNat_leBytes, hwidth, Nat.mod_eq_of_lt x.isLt]

theorem ofNat_store (hw : w = 8 * (w / 8)) (x : BitVec w) :
    BitVec.ofNat w (leNat (Endian.little.store x)) = x := by
  rw [Endian.store, leNat_leBytes_toNat hw, BitVec.ofNat_toNat, BitVec.setWidth_eq]

section Records
variable {α : Type} {image : α → List Byte} {size : ℕ}

def field (offset n : ℕ) (bytes : List Byte) : List Byte := (bytes.drop offset).take n

theorem field_append_left (before after : List Byte) :
    field 0 before.length (before ++ after) = before := by
  rw [field, List.drop_zero, List.take_left]

theorem field_append_right (before after : List Byte) (offset n : ℕ) :
    field (before.length + offset) n (before ++ after) = field offset n after := by
  rw [field, field, List.drop_length_add_append]

theorem length_flatMap_image (himage : ∀ a, (image a).length = size) (l : List α) :
    (l.flatMap image).length = l.length * size := by
  induction l with
  | nil => simp
  | cons a l ih =>
    rw [List.flatMap_cons, List.length_append, ih, himage, List.length_cons, Nat.succ_mul,
      Nat.add_comm]

theorem drop_flatMap_image (himage : ∀ a, (image a).length = size) (l : List α) (i : ℕ) :
    (l.flatMap image).drop (i * size) = (l.drop i).flatMap image := by
  induction l generalizing i with
  | nil => simp
  | cons a l ih =>
    cases i with
    | zero => rw [Nat.zero_mul, List.drop_zero, List.drop_zero]
    | succ i =>
      have hstep : (i + 1) * size = (image a).length + i * size := by
        rw [himage, Nat.succ_mul, Nat.add_comm]
      rw [List.flatMap_cons, hstep, List.drop_length_add_append, ih, List.drop_succ_cons]

theorem take_flatMap_image (himage : ∀ a, (image a).length = size) {l : List α} {i : ℕ}
    (hi : i ≤ l.length) : (l.flatMap image).take (i * size) = (l.take i).flatMap image := by
  have hlength : ((l.take i).flatMap image).length = i * size := by
    rw [length_flatMap_image himage, List.length_take_of_le hi]
  conv_lhs => rw [← List.take_append_drop i l, List.flatMap_append, ← hlength]
  exact List.take_left

theorem drop_flatMap_getElem (himage : ∀ a, (image a).length = size) {l : List α} {i : ℕ}
    (hi : i < l.length) :
    (l.flatMap image).drop (i * size) = image l[i] ++ (l.drop (i + 1)).flatMap image := by
  rw [drop_flatMap_image himage, List.drop_eq_getElem_cons hi, List.flatMap_cons]

theorem field_flatMap_image (himage : ∀ a, (image a).length = size) {l : List α} {i : ℕ}
    (hi : i < l.length) : field (i * size) size (l.flatMap image) = image l[i] := by
  rw [field, drop_flatMap_getElem himage hi, ← himage l[i], List.take_left]

theorem map_field_flatMap_image {β : Type} (himage : ∀ a, (image a).length = size)
    (read : List Byte → β) (l : List α) :
    ((List.range l.length).map fun i => read (field (i * size) size (l.flatMap image))) =
      l.map fun a => read (image a) := by
  apply List.ext_getElem
  · simp
  · intro i hi hi'
    have hl : i < l.length := by simpa using hi'
    simp only [List.getElem_map, List.getElem_range, field_flatMap_image himage hl]

end Records
end LibnvmeRs.ByteOrder
