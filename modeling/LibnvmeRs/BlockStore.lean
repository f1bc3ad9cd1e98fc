import Mathlib.Data.Nat.Notation
import Mathlib.Tactic.Common

/-!
# Block stores

A medium holds a block at every address, or an address is marked unreadable. A
change puts given contents at a run of addresses, or leaves the contents of a span
open, as a command does that was broken off. A history of changes determines at
each address what stands there: the last change that touches the address decides,
and an address that none touches keeps what it had.
-/

namespace LibnvmeRs.BlockStore

variable {β : Type}

/-- `none` is a block that cannot be read. -/
abbrev Medium (β : Type) := ℕ → Option β

structure Span where
  first : ℕ
  count : ℕ
  deriving DecidableEq, Repr

def Span.Covers (s : Span) (i : ℕ) : Prop := s.first ≤ i ∧ i < s.first + s.count

instance (s : Span) (i : ℕ) : Decidable (s.Covers i) := inferInstanceAs (Decidable (_ ∧ _))

inductive Change (β : Type) where
  | put (first : ℕ) (cells : List (Option β))
  | lose (span : Span)
  deriving DecidableEq

def Change.span : Change β → Span
  | .put first cells => ⟨first, cells.length⟩
  | .lose span => span

inductive Fate (β : Type) where
  | kept
  | unknown
  | holds (cell : Option β)
  deriving DecidableEq

namespace Fate

def Allows : Fate β → Option β → Option β → Prop
  | .kept, old, new => new = old
  | .unknown, _, _ => True
  | .holds cell, _, new => new = cell

def andThen : Fate β → Fate β → Fate β
  | f, .kept => f
  | _, f => f

@[simp] theorem andThen_kept (f : Fate β) : f.andThen .kept = f := rfl

@[simp] theorem kept_andThen (f : Fate β) : Fate.kept.andThen f = f := by
  cases f <;> rfl

theorem andThen_assoc (f g k : Fate β) : (f.andThen g).andThen k = f.andThen (g.andThen k) := by
  cases k <;> rfl

theorem Allows.andThen {f g : Fate β} {x y z : Option β} (hf : f.Allows x y) (hg : g.Allows y z) :
    (f.andThen g).Allows x z := by
  cases g with
  | kept =>
    obtain rfl : z = y := hg
    exact hf
  | unknown => trivial
  | holds cell => exact hg

end Fate

namespace Change

def fate (c : Change β) (i : ℕ) : Fate β :=
  match c with
  | .put first cells =>
    if first ≤ i then (cells[i - first]?).elim .kept .holds else .kept
  | .lose span => if span.Covers i then .unknown else .kept

def Takes (c : Change β) (m n : Medium β) : Prop := ∀ i, (c.fate i).Allows (m i) (n i)

theorem fate_of_not_covers {c : Change β} {i : ℕ} (hi : ¬c.span.Covers i) : c.fate i = .kept := by
  cases c with
  | put first cells =>
    rw [fate]
    split_ifs with hfirst
    · have hend : cells.length ≤ i - first := by
        simp only [Span.Covers, span] at hi
        omega
      rw [List.getElem?_eq_none hend, Option.elim_none]
    · rfl
  | lose span => exact if_neg hi

theorem fate_put {first : ℕ} {cells : List (Option β)} {j : ℕ} {cell : Option β}
    (hj : cells[j]? = some cell) : (put first cells).fate (first + j) = .holds cell := by
  rw [fate, if_pos (Nat.le_add_right first j), Nat.add_sub_cancel_left, hj, Option.elim_some]

theorem takes_lose (span : Span) (m : Medium β) : (lose span).Takes m m := by
  intro i
  rw [fate]
  split_ifs <;> trivial

end Change

def Medium.put (m : Medium β) (first : ℕ) (cells : List (Option β)) : Medium β := fun i =>
  if first ≤ i then (cells[i - first]?).getD (m i) else m i

theorem Medium.takes_put (m : Medium β) (first : ℕ) (cells : List (Option β)) :
    (Change.put first cells).Takes m (m.put first cells) := by
  intro i
  rw [Change.fate, put]
  split_ifs
  · cases cells[i - first]? <;> rfl
  · rfl

def Evolves : List (Change β) → Medium β → Medium β → Prop
  | [], m, n => n = m
  | c :: l, m, n => ∃ k, c.Takes m k ∧ Evolves l k n

def fate (l : List (Change β)) (i : ℕ) : Fate β := l.foldr (fun c f => (c.fate i).andThen f) .kept

@[simp] theorem fate_nil (i : ℕ) : fate ([] : List (Change β)) i = .kept := rfl

@[simp] theorem fate_cons (c : Change β) (l : List (Change β)) (i : ℕ) :
    fate (c :: l) i = (c.fate i).andThen (fate l i) := rfl

theorem fate_append (l₁ l₂ : List (Change β)) (i : ℕ) :
    fate (l₁ ++ l₂) i = (fate l₁ i).andThen (fate l₂ i) := by
  induction l₁ with
  | nil => rw [List.nil_append, fate_nil, Fate.kept_andThen]
  | cons c l ih => rw [List.cons_append, fate_cons, ih, fate_cons, Fate.andThen_assoc]

theorem fate_kept {l : List (Change β)} {i : ℕ} (hl : ∀ c ∈ l, ¬c.span.Covers i) :
    fate l i = .kept := by
  induction l with
  | nil => rfl
  | cons c l ih =>
    rw [fate_cons, Change.fate_of_not_covers (hl c List.mem_cons_self), Fate.kept_andThen,
      ih fun d hd => hl d (List.mem_cons_of_mem c hd)]

/-- The last change that touches an address decides what stands there. -/
theorem fate_last {before after : List (Change β)} {c : Change β} {i : ℕ}
    (hafter : ∀ d ∈ after, ¬d.span.Covers i) :
    fate (before ++ c :: after) i = (fate before i).andThen (c.fate i) := by
  rw [fate_append, fate_cons, fate_kept hafter, Fate.andThen_kept]

theorem evolves_append {l₁ l₂ : List (Change β)} {m n : Medium β} :
    Evolves (l₁ ++ l₂) m n ↔ ∃ k, Evolves l₁ m k ∧ Evolves l₂ k n := by
  induction l₁ generalizing m with
  | nil => simp [Evolves]
  | cons c l ih =>
    simp only [List.cons_append, Evolves, ih]
    constructor
    · rintro ⟨x, hx, k, hk, hn⟩
      exact ⟨k, ⟨x, hx, hk⟩, hn⟩
    · rintro ⟨k, ⟨x, hx, hk⟩, hn⟩
      exact ⟨x, hx, k, hk, hn⟩

theorem evolves_singleton {c : Change β} {m n : Medium β} : Evolves [c] m n ↔ c.Takes m n := by
  simp [Evolves]

theorem Evolves.fate {l : List (Change β)} {m n : Medium β} (hl : Evolves l m n) (i : ℕ) :
    (fate l i).Allows (m i) (n i) := by
  induction l generalizing m with
  | nil => exact congrFun hl i
  | cons c l ih =>
    obtain ⟨k, hc, hrest⟩ := hl
    exact (hc i).andThen (ih hrest)

def Medium.read (m : Medium β) : ℕ → ℕ → Option (List β)
  | _, 0 => some []
  | i, n + 1 => do
    let b ← m i
    let rest ← Medium.read m (i + 1) n
    return b :: rest

theorem Medium.read_eq_some {m : Medium β} {first count : ℕ} {blocks : List β} :
    m.read first count = some blocks ↔
      blocks.length = count ∧ ∀ j, j < count → m (first + j) = blocks[j]? := by
  induction count generalizing first blocks with
  | zero =>
    rw [read, Option.some.injEq, eq_comm, List.length_eq_zero_iff]
    simp
  | succ n ih =>
    rw [read]
    cases hb : m first with
    | none =>
      simp only [Option.bind_eq_bind, Option.bind_none, reduceCtorEq, false_iff, not_and,
        not_forall]
      intro hlen
      refine ⟨0, Nat.succ_pos n, ?_⟩
      have hpos : 0 < blocks.length := by omega
      rw [Nat.add_zero, hb, List.getElem?_eq_getElem hpos]
      simp
    | some b =>
      simp only [Option.bind_eq_bind, Option.bind_some, Option.pure_def,
        Option.bind_eq_some_iff, Option.some.injEq, ih]
      constructor
      · rintro ⟨rest, ⟨hlen, hcells⟩, rfl⟩
        refine ⟨by rw [List.length_cons, hlen], fun j hj => ?_⟩
        cases j with
        | zero => simpa using hb
        | succ j =>
          have hcell := hcells j (by omega)
          rw [List.getElem?_cons_succ, ← hcell]
          exact congrArg m (by omega)
      · rintro ⟨hlen, hcells⟩
        cases blocks with
        | nil => cases hlen
        | cons b' rest =>
          have hhead := hcells 0 (Nat.succ_pos n)
          obtain rfl : b = b' := by simpa [hb] using hhead
          refine ⟨rest, ⟨by simpa using hlen, fun j hj => ?_⟩, rfl⟩
          have hcell := hcells (j + 1) (by omega)
          rw [List.getElem?_cons_succ] at hcell
          rw [← hcell]
          exact congrArg m (by omega)

theorem Medium.read_append {m : Medium β} {first : ℕ} {xs ys : List β}
    (hxs : m.read first xs.length = some xs)
    (hys : m.read (first + xs.length) ys.length = some ys) :
    m.read first (xs.length + ys.length) = some (xs ++ ys) := by
  obtain ⟨-, hfront⟩ := Medium.read_eq_some.mp hxs
  obtain ⟨-, hback⟩ := Medium.read_eq_some.mp hys
  refine Medium.read_eq_some.mpr ⟨List.length_append, fun j hj => ?_⟩
  by_cases hlt : j < xs.length
  · rw [hfront j hlt, List.getElem?_append_left hlt]
  · obtain ⟨k, rfl⟩ := Nat.exists_eq_add_of_le (Nat.le_of_not_lt hlt)
    rw [← Nat.add_assoc, hback k (by omega), List.getElem?_append_right (Nat.le_add_right ..),
      Nat.add_sub_cancel_left]

theorem Medium.read_part {m : Medium β} {first : ℕ} {blocks : List β}
    (hread : m.read first blocks.length = some blocks) {j n : ℕ} (hj : j + n ≤ blocks.length) :
    m.read (first + j) n = some ((blocks.drop j).take n) := by
  obtain ⟨-, hcells⟩ := Medium.read_eq_some.mp hread
  have hlength : ((blocks.drop j).take n).length = n := by
    rw [List.length_take, List.length_drop]
    omega
  refine Medium.read_eq_some.mpr ⟨hlength, fun i hi => ?_⟩
  rw [List.getElem?_take_of_lt hi, List.getElem?_drop, Nat.add_assoc]
  exact hcells (j + i) (by omega)

theorem Evolves.read_outside {l : List (Change β)} {m n : Medium β} (hl : Evolves l m n)
    {first count : ℕ} (hout : ∀ c ∈ l, ∀ i, Span.Covers ⟨first, count⟩ i → ¬c.span.Covers i)
    {blocks : List β} (hread : m.read first count = some blocks) :
    n.read first count = some blocks := by
  obtain ⟨hlength, hcells⟩ := Medium.read_eq_some.mp hread
  refine Medium.read_eq_some.mpr ⟨hlength, fun j hj => ?_⟩
  have hinside : Span.Covers ⟨first, count⟩ (first + j) := by
    constructor
    · exact Nat.le_add_right first j
    · exact Nat.add_lt_add_left hj first
  have hkept := hl.fate (first + j)
  rw [fate_kept fun c hc => hout c hc _ hinside] at hkept
  exact (show n (first + j) = m (first + j) from hkept).trans (hcells j hj)

theorem Evolves.read_put {first : ℕ} {blocks : List β} {m n : Medium β}
    (hput : Evolves [.put first (blocks.map some)] m n) :
    n.read first blocks.length = some blocks := by
  refine Medium.read_eq_some.mpr ⟨rfl, fun j hj => ?_⟩
  have hcell : (blocks.map some)[j]? = some (some blocks[j]) := by
    rw [List.getElem?_map, List.getElem?_eq_getElem hj, Option.map_some]
  have hholds := evolves_singleton.mp hput (first + j)
  rw [Change.fate_put hcell] at hholds
  rw [List.getElem?_eq_getElem hj]
  exact hholds

end LibnvmeRs.BlockStore
