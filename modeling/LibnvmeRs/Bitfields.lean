import Mathlib.Algebra.Ring.Nat
import Mathlib.Data.List.Basic
import Mathlib.Data.Nat.Notation
import Mathlib.Tactic.Common

/-!
# Fields of a word

A field is a run of bits of a word. A value given for a field is masked to its
width and shifted into place, and a word is the union of its fields. As long as
the fields lie apart, each of them reads back as the low bits of its value, which
is the value itself exactly when it fits.
-/

namespace LibnvmeRs.Bitfields

structure Field where
  shift : ℕ
  width : ℕ
  deriving DecidableEq, Repr

namespace Field

def mask (f : Field) : ℕ := 2 ^ f.width - 1

def set (f : Field) (v : ℕ) : ℕ := (v &&& f.mask) <<< f.shift

def get (f : Field) (word : ℕ) : ℕ := (word >>> f.shift) &&& f.mask

def Apart (f g : Field) : Prop := f.shift + f.width ≤ g.shift ∨ g.shift + g.width ≤ f.shift

instance (f g : Field) : Decidable (f.Apart g) := inferInstanceAs (Decidable (_ ∨ _))

theorem Apart.symm {f g : Field} (hfg : f.Apart g) : g.Apart f := Or.symm hfg

theorem testBit_set (f : Field) (v j : ℕ) :
    (f.set v).testBit j =
      (decide (f.shift ≤ j) && (v.testBit (j - f.shift) && decide (j - f.shift < f.width))) := by
  rw [set, mask, Nat.testBit_shiftLeft, Nat.testBit_and, Nat.testBit_two_pow_sub_one]

theorem testBit_get (f : Field) (word i : ℕ) :
    (f.get word).testBit i = (word.testBit (f.shift + i) && decide (i < f.width)) := by
  rw [get, mask, Nat.testBit_and, Nat.testBit_shiftRight, Nat.testBit_two_pow_sub_one]

theorem get_or (f : Field) (x y : ℕ) : f.get (x ||| y) = f.get x ||| f.get y := by
  rw [get, Nat.shiftRight_or_distrib, Nat.and_or_distrib_right]
  rfl

theorem get_zero (f : Field) : f.get 0 = 0 := by
  rw [get, Nat.zero_shiftRight, Nat.zero_and]

theorem get_set_self (f : Field) (v : ℕ) : f.get (f.set v) = v % 2 ^ f.width := by
  rw [get, set, Nat.shiftLeft_shiftRight, mask, Nat.and_two_pow_sub_one_eq_mod,
    Nat.and_two_pow_sub_one_eq_mod, Nat.mod_mod]

theorem get_set_apart {f g : Field} (hfg : f.Apart g) (v : ℕ) : f.get (g.set v) = 0 := by
  apply Nat.eq_of_testBit_eq
  intro i
  rw [testBit_get, testBit_set, Nat.zero_testBit]
  -- a bit of `f` that is one of `g` would lie in both runs
  by_cases hi : i < f.width ∧ g.shift ≤ f.shift + i ∧ f.shift + i - g.shift < g.width
  · rcases hfg with h | h <;> omega
  · simp only [Bool.and_eq_false_iff, decide_eq_false_iff_not]
    tauto

end Field

def word : List (Field × ℕ) → ℕ
  | [] => 0
  | (f, v) :: l => f.set v ||| word l

def FieldsApart (l : List (Field × ℕ)) : Prop := l.Pairwise fun x y => x.1.Apart y.1

theorem get_word_apart {f : Field} {l : List (Field × ℕ)} (hl : ∀ x ∈ l, f.Apart x.1) :
    f.get (word l) = 0 := by
  induction l with
  | nil => exact f.get_zero
  | cons x l ih =>
    obtain ⟨g, v⟩ := x
    have hhead : f.Apart g := hl (g, v) List.mem_cons_self
    rw [word, f.get_or, Field.get_set_apart hhead, ih fun y hy => hl y (List.mem_cons_of_mem _ hy),
      Nat.or_self]

theorem get_word {l : List (Field × ℕ)} (hl : FieldsApart l) {f : Field} {v : ℕ}
    (hf : (f, v) ∈ l) : f.get (word l) = v % 2 ^ f.width := by
  induction l with
  | nil => cases hf
  | cons x l ih =>
    obtain ⟨g, w⟩ := x
    obtain ⟨hhead, htail⟩ := List.pairwise_cons.mp hl
    rw [word, f.get_or]
    rcases List.mem_cons.mp hf with heq | hmem
    · obtain ⟨rfl, rfl⟩ := Prod.mk.inj heq
      rw [f.get_set_self, get_word_apart hhead, Nat.or_zero]
    · have hapart : f.Apart g := (hhead (f, v) hmem).symm
      rw [Field.get_set_apart hapart, ih htail hmem, Nat.zero_or]

theorem get_word_eq_iff {l : List (Field × ℕ)} (hl : FieldsApart l) {f : Field} {v : ℕ}
    (hf : (f, v) ∈ l) : f.get (word l) = v ↔ v < 2 ^ f.width := by
  rw [get_word hl hf]
  exact Nat.mod_eq_iff_lt (Nat.ne_of_gt (Nat.two_pow_pos f.width))

end LibnvmeRs.Bitfields
