import Mathlib.Data.Nat.Notation
import Mathlib.Tactic.Common

/-!
# Sending a buffer in parts

A sender cuts a buffer into parts and sends one after the other until the buffer
is used up or a part is refused. `amount` says how much of what is left goes into
the next part.

When every part takes something, the sender ends and its parts tile the buffer.
When a part takes nothing, the sender stands still: it never completes, and ends
only if some part is refused.
-/

namespace LibnvmeRs.Chunks

variable {α ε : Type}

structure Chunk (α : Type) where
  offset : ℕ
  data : List α
  deriving DecidableEq, Repr

/-- The parts cover the buffer at `offset` once and in order, and none is empty. -/
inductive Tiles : ℕ → List α → List (Chunk α) → Prop where
  | nil (offset : ℕ) : Tiles offset [] []
  | cons {offset : ℕ} {data rest : List α} {chunks : List (Chunk α)} (hdata : data ≠ [])
    (hrest : Tiles (offset + data.length) rest chunks) :
    Tiles offset (data ++ rest) (⟨offset, data⟩ :: chunks)

structure Remaining (α : Type) where
  size : ℕ
  offset : ℕ
  buf : List α

namespace Remaining

def chunk (r : Remaining α) (n : ℕ) : Chunk α := ⟨r.offset, r.buf.take n⟩

def advance (r : Remaining α) (n : ℕ) : Remaining α := ⟨r.size - n, r.offset + n, r.buf.drop n⟩

end Remaining

/-- Send the parts from the `k`-th on; `refused` is what comes back for each of them.
There is no result while the fuel does not reach to the end. -/
def sendSeq (amount : ℕ → ℕ) (refused : ℕ → Option ε) :
    ℕ → ℕ → Remaining α → Option (Option ε × List (Chunk α))
  | 0, _, _ => none
  | fuel + 1, k, r =>
    if r.size = 0 then some (none, [])
    else
      match refused k with
      | some e => some (some e, [r.chunk (amount r.size)])
      | none =>
        (sendSeq amount refused fuel (k + 1) (r.advance (amount r.size))).map fun res =>
          (res.1, r.chunk (amount r.size) :: res.2)

section Loop
variable {amount : ℕ → ℕ} {refused : ℕ → Option ε} {fuel k : ℕ} {r : Remaining α}

theorem sendSeq_empty (hr : r.size = 0) : sendSeq amount refused (fuel + 1) k r = some (none, []) :=
  if_pos hr

theorem sendSeq_refused (hr : r.size ≠ 0) {e : ε} (he : refused k = some e) :
    sendSeq amount refused (fuel + 1) k r = some (some e, [r.chunk (amount r.size)]) := by
  rw [sendSeq, if_neg hr, he]

theorem sendSeq_accepted (hr : r.size ≠ 0) (hk : refused k = none) :
    sendSeq amount refused (fuel + 1) k r =
      (sendSeq amount refused fuel (k + 1) (r.advance (amount r.size))).map fun res =>
        (res.1, r.chunk (amount r.size) :: res.2) := by
  rw [sendSeq, if_neg hr, hk]

theorem sendSeq_ends_of_refused {j : ℕ} {e : ε} (he : refused (k + j) = some e) :
    ∃ fuel, (sendSeq amount refused fuel k r).isSome := by
  induction j generalizing k r with
  | zero =>
    refine ⟨1, ?_⟩
    by_cases hr : r.size = 0
    · rw [sendSeq_empty hr]
      rfl
    · have hk : refused k = some e := he
      rw [sendSeq_refused hr hk]
      rfl
  | succ j ih =>
    by_cases hr : r.size = 0
    · refine ⟨1, ?_⟩
      rw [sendSeq_empty hr]
      rfl
    · have hnext : refused (k + 1 + j) = some e := by
        rw [← he]
        congr 1
        omega
      obtain ⟨fuel, hfuel⟩ := ih (r := r.advance (amount r.size)) hnext
      refine ⟨fuel + 1, ?_⟩
      cases hk : refused k with
      | some e' =>
        rw [sendSeq_refused hr hk]
        rfl
      | none => rwa [sendSeq_accepted hr hk, Option.isSome_map]

theorem exists_refused_of_sendSeq {e : ε} {sent : List (Chunk α)}
    (h : sendSeq amount refused fuel k r = some (some e, sent)) : ∃ j, refused j = some e := by
  induction fuel generalizing k r sent with
  | zero => cases h
  | succ fuel ih =>
    by_cases hr : r.size = 0
    · simp [sendSeq_empty hr] at h
    · cases hk : refused k with
      | some e' =>
        rw [sendSeq_refused hr hk] at h
        obtain rfl : e' = e := by simpa using congrArg (Option.map Prod.fst) h
        exact ⟨k, hk⟩
      | none =>
        rw [sendSeq_accepted hr hk, Option.map_eq_some_iff] at h
        obtain ⟨res, hres, heq⟩ := h
        obtain ⟨res₁, res₂⟩ := res
        obtain rfl : res₁ = some e := congrArg Prod.fst heq
        exact ih hres

end Loop

section Progress
variable {amount : ℕ → ℕ} (hamount : ∀ n, n ≠ 0 → 0 < amount n ∧ amount n ≤ n)
variable {refused : ℕ → Option ε} {k : ℕ} {r : Remaining α}

include hamount

theorem sendSeq_ends {n : ℕ} (hr : r.size ≤ n) :
    (sendSeq amount refused (n + 1) k r).isSome := by
  induction n generalizing k r with
  | zero =>
    rw [sendSeq_empty (by omega)]
    rfl
  | succ n ih =>
    by_cases hsize : r.size = 0
    · rw [sendSeq_empty hsize]
      rfl
    · have hpos := (hamount r.size hsize).1
      cases hk : refused k with
      | some e =>
        rw [sendSeq_refused hsize hk]
        rfl
      | none =>
        rw [sendSeq_accepted hsize hk, Option.isSome_map]
        refine ih ?_
        rw [Remaining.advance]
        dsimp only
        omega

theorem sendSeq_tiles (hr : r.size = r.buf.length) {fuel : ℕ} {sent : List (Chunk α)}
    (h : sendSeq amount refused fuel k r = some (none, sent)) : Tiles r.offset r.buf sent := by
  induction fuel generalizing k r sent with
  | zero => cases h
  | succ fuel ih =>
    by_cases hsize : r.size = 0
    · rw [sendSeq_empty hsize] at h
      obtain rfl : [] = sent := by simpa using h
      have hbuf : r.buf = [] := List.length_eq_zero_iff.mp (hr ▸ hsize)
      rw [hbuf]
      exact Tiles.nil _
    · obtain ⟨hpos, hle⟩ := hamount r.size hsize
      cases hk : refused k with
      | some e => simp [sendSeq_refused hsize hk] at h
      | none =>
        rw [sendSeq_accepted hsize hk, Option.map_eq_some_iff] at h
        obtain ⟨⟨res, rest⟩, hrest, heq⟩ := h
        obtain ⟨rfl, rfl⟩ : res = none ∧ r.chunk (amount r.size) :: rest = sent := by
          simpa using heq
        have hlength : (r.buf.take (amount r.size)).length = amount r.size := by
          rw [List.length_take]
          omega
        have hadvance :
            (r.advance (amount r.size)).size = (r.advance (amount r.size)).buf.length := by
          simp only [Remaining.advance, List.length_drop]
          omega
        have htiles := ih hadvance hrest
        rw [← List.take_append_drop (amount r.size) r.buf]
        refine Tiles.cons ?_ ?_
        · intro hnil
          rw [hnil] at hlength
          simp at hlength
          omega
        · rw [hlength]
          exact htiles

end Progress

theorem sendSeq_ne_done {amount : ℕ → ℕ} {refused : ℕ → Option ε} {fuel k : ℕ} {r : Remaining α}
    (hr : r.size ≠ 0) (hstill : amount r.size = 0) {sent : List (Chunk α)} :
    sendSeq amount refused fuel k r ≠ some (none, sent) := by
  intro h
  induction fuel generalizing k r sent with
  | zero => cases h
  | succ fuel ih =>
    cases hk : refused k with
    | some e => simp [sendSeq_refused hr hk] at h
    | none =>
      rw [sendSeq_accepted hr hk, Option.map_eq_some_iff] at h
      obtain ⟨⟨res, rest⟩, hrest, heq⟩ := h
      obtain rfl : res = none := by simpa using congrArg Prod.fst heq
      have hsame : (r.advance (amount r.size)).size = r.size := by
        rw [hstill, Remaining.advance, Nat.sub_zero]
      have hleft : (r.advance (amount r.size)).size ≠ 0 := by rwa [hsame]
      refine ih hleft ?_ hrest
      rwa [hsame]

theorem sendSeq_stuck {amount : ℕ → ℕ} {refused : ℕ → Option ε} {r : Remaining α}
    (hr : r.size ≠ 0) (hstill : amount r.size = 0) (hall : ∀ k, refused k = none) (fuel k : ℕ) :
    sendSeq amount refused fuel k r = none := by
  cases hres : sendSeq amount refused fuel k r with
  | none => rfl
  | some res =>
    obtain ⟨res, sent⟩ := res
    cases res with
    | none => exact (sendSeq_ne_done hr hstill hres).elim
    | some e =>
      obtain ⟨j, hj⟩ := exists_refused_of_sendSeq hres
      rw [hall j] at hj
      cases hj

/-- Whether the sender does its work: it ends, and when nothing is refused its parts
tile the buffer. -/
def SendsOnce (amount : ℕ → ℕ) (refused : ℕ → Option ε) (r : Remaining α) : Prop :=
  (∃ fuel, (sendSeq amount refused fuel 0 r).isSome) ∧
    ∀ fuel sent, sendSeq amount refused fuel 0 r = some (none, sent) → Tiles r.offset r.buf sent

theorem sendsOnce_of_still {amount : ℕ → ℕ} {refused : ℕ → Option ε} {r : Remaining α}
    (hr : r.size ≠ 0) (hstill : amount r.size = 0) :
    SendsOnce amount refused r ↔ ∃ k e, refused k = some e := by
  constructor
  · rintro ⟨⟨fuel, hends⟩, -⟩
    by_contra hnone
    have hall : ∀ k, refused k = none := fun k =>
      Option.eq_none_iff_forall_ne_some.mpr fun e he => hnone ⟨k, e, he⟩
    rw [sendSeq_stuck hr hstill hall] at hends
    cases hends
  · rintro ⟨k, e, he⟩
    rw [← Nat.zero_add k] at he
    exact ⟨sendSeq_ends_of_refused he, fun fuel sent h => (sendSeq_ne_done hr hstill h).elim⟩

theorem sendsOnce_min_iff {xfer : ℕ} {refused : ℕ → Option ε} {r : Remaining α}
    (hr : r.size = r.buf.length) :
    SendsOnce (min xfer) refused r ↔ 0 < xfer ∨ r.size = 0 ∨ ∃ k e, refused k = some e := by
  by_cases hxfer : 0 < xfer
  · have hamount : ∀ n, n ≠ 0 → 0 < min xfer n ∧ min xfer n ≤ n := fun n hn => by omega
    refine iff_of_true ⟨⟨_, sendSeq_ends hamount (Nat.le_refl r.size)⟩, fun fuel sent h => ?_⟩
      (Or.inl hxfer)
    exact sendSeq_tiles hamount hr h
  · by_cases hsize : r.size = 0
    · have hbuf : r.buf = [] := List.length_eq_zero_iff.mp (hr ▸ hsize)
      refine iff_of_true ⟨⟨1, ?_⟩, fun fuel sent h => ?_⟩ (Or.inr (Or.inl hsize))
      · rw [sendSeq_empty hsize]
        rfl
      · cases fuel with
        | zero => cases h
        | succ fuel =>
          rw [sendSeq_empty hsize] at h
          obtain rfl : [] = sent := by simpa using h
          rw [hbuf]
          exact Tiles.nil _
    · rw [sendsOnce_of_still hsize (by omega : min xfer r.size = 0)]
      simp only [hxfer, hsize, false_or]

end LibnvmeRs.Chunks
