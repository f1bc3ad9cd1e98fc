import Mathlib.Data.List.Basic
import Mathlib.Tactic.Common

/-!
# Searching joined pieces

Pieces are joined end to end and the joined list is searched for a pattern. The
search finds what some piece holds, and also what begins in one piece and ends in a
later one. Pieces that each end with an element the pattern does not have cannot be
joined into it.
-/

namespace LibnvmeRs.Joins

variable {α β : Type*}

theorem foldl_eq_append {step : List α → β → List α} {added : β → List α}
    (hstep : ∀ acc b, step acc b = acc ++ added b) (l : List β) (acc : List α) :
    l.foldl step acc = acc ++ l.flatMap added := by
  induction l generalizing acc with
  | nil => simp
  | cons b l ih => rw [List.foldl_cons, ih, hstep, List.flatMap_cons, List.append_assoc]

/-- The pattern begins before a boundary of the pieces and ends behind it. -/
def Straddles (pieces : List (List α)) (pattern : List α) : Prop :=
  ∃ before after head tail, pieces = before ++ after ∧ pattern = head ++ tail ∧
    head ≠ [] ∧ tail ≠ [] ∧ head <:+ before.flatten ∧ tail <+: after.flatten

theorem Straddles.cons {pieces : List (List α)} {pattern : List α} (p : List α)
    (h : Straddles pieces pattern) : Straddles (p :: pieces) pattern := by
  obtain ⟨before, after, head, tail, rfl, rfl, hhead, htail, hbefore, hafter⟩ := h
  refine ⟨p :: before, after, head, tail, rfl, rfl, hhead, htail, ?_, hafter⟩
  rw [List.flatten_cons]
  exact hbefore.trans (List.suffix_append p before.flatten)

theorem infix_flatten_of_straddles {pieces : List (List α)} {pattern : List α}
    (h : Straddles pieces pattern) : pattern <:+: pieces.flatten := by
  obtain ⟨before, after, head, tail, rfl, rfl, -, -, hbefore, hafter⟩ := h
  rw [List.flatten_append, List.infix_append_iff]
  exact Or.inr (Or.inr ⟨head, tail, rfl, hbefore, hafter⟩)

theorem infix_flatten_iff {pieces : List (List α)} {pattern : List α} (hpattern : pattern ≠ []) :
    pattern <:+: pieces.flatten ↔ (∃ p ∈ pieces, pattern <:+: p) ∨ Straddles pieces pattern := by
  constructor
  · intro hfound
    induction pieces with
    | nil => exact absurd (List.infix_nil.mp hfound) hpattern
    | cons p pieces ih =>
      rw [List.flatten_cons, List.infix_append_iff_ne_nil] at hfound
      rcases hfound with hp | hrest | ⟨head, tail, hhead, htail, hsplit, hbefore, hafter⟩
      · exact Or.inl ⟨p, List.mem_cons_self, hp⟩
      · rcases ih hrest with ⟨q, hq, hin⟩ | hstraddles
        · exact Or.inl ⟨q, List.mem_cons_of_mem p hq, hin⟩
        · exact Or.inr (hstraddles.cons p)
      · refine Or.inr ⟨[p], pieces, head, tail, rfl, hsplit, hhead, htail, ?_, hafter⟩
        simpa using hbefore
  · rintro (⟨p, hp, hin⟩ | hstraddles)
    · exact hin.trans (List.infix_of_mem_flatten hp)
    · exact infix_flatten_of_straddles hstraddles

def Closed (pattern piece : List α) : Prop := ∀ a ∈ piece.getLast?, a ∉ pattern

theorem closed_flatten {pieces : List (List α)} {pattern : List α}
    (hclosed : ∀ p ∈ pieces, Closed pattern p) : Closed pattern pieces.flatten := by
  induction pieces with
  | nil =>
    intro a ha
    cases ha
  | cons p pieces ih =>
    intro a ha
    rw [List.flatten_cons, List.getLast?_append, Option.mem_def, Option.or_eq_some_iff] at ha
    rcases ha with hrest | ⟨-, hp⟩
    · exact ih (fun q hq => hclosed q (List.mem_cons_of_mem p hq)) a hrest
    · exact hclosed p List.mem_cons_self a hp

theorem not_straddles_of_closed {pieces : List (List α)} {pattern : List α}
    (hclosed : ∀ p ∈ pieces, Closed pattern p) : ¬Straddles pieces pattern := by
  rintro ⟨before, after, head, tail, rfl, rfl, hhead, -, ⟨text, htext⟩, -⟩
  -- the last element of `head` stands at the end of a piece
  have hbefore : Closed (head ++ tail) before.flatten :=
    closed_flatten fun p hp => hclosed p (List.mem_append_left after hp)
  have hlast : before.flatten.getLast? = some (head.getLast hhead) := by
    rw [← htext, List.getLast?_append_of_ne_nil text hhead,
      List.getLast?_eq_getLast_of_ne_nil hhead]
  exact hbefore _ hlast (List.mem_append_left tail (List.getLast_mem hhead))

end LibnvmeRs.Joins
