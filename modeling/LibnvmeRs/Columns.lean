import Mathlib.Data.Nat.Notation
import Mathlib.Tactic.Common

/-!
# Text in columns

A line of a table is its cells one after the other, each filled up with blanks to the
width of its column and followed by a gap. How wide a text looks is a measure of its
own, not its length in memory. Cells that fit start at the same place in every line.
What is printed is the text of the prints up to the first one that panics.
-/

namespace LibnvmeRs.Columns

variable {α : Type}

/-- How wide a text looks; widths add up, and the blank is one wide. -/
structure Measure (α : Type) where
  width : List α → ℕ
  blank : α
  width_nil : width [] = 0
  width_append : ∀ s t, width (s ++ t) = width s + width t
  width_blank : width [blank] = 1

namespace Measure
variable (M : Measure α)

def pad (w : ℕ) (cell : List α) : List α := cell ++ List.replicate (w - M.width cell) M.blank

def line (gap : List α) (widths : List ℕ) (cells : List (List α)) : List α :=
  (widths.zipWith (fun w cell => M.pad w cell ++ gap) cells).flatten

def start (gap : List α) : List ℕ → ℕ → ℕ
  | w :: widths, i + 1 => w + M.width gap + start gap widths i
  | _, _ => 0

def Fits (widths : List ℕ) (cells : List (List α)) : Prop :=
  List.Forall₂ (fun w cell => M.width cell ≤ w) widths cells

variable {M} {gap cell : List α} {w : ℕ} {widths : List ℕ} {cells : List (List α)}

theorem width_replicate (n : ℕ) : M.width (List.replicate n M.blank) = n := by
  induction n with
  | zero => exact M.width_nil
  | succ n ih =>
    rw [List.replicate_succ', M.width_append, ih, M.width_blank]

theorem width_pad (hcell : M.width cell ≤ w) : M.width (M.pad w cell) = w := by
  rw [pad, M.width_append, width_replicate]
  omega

theorem line_cons (w : ℕ) (cell : List α) (widths : List ℕ) (cells : List (List α)) :
    M.line gap (w :: widths) (cell :: cells) =
      M.pad w cell ++ gap ++ M.line gap widths cells := rfl

theorem Fits.width_line (hfits : M.Fits widths cells) :
    M.width (M.line gap widths cells) = M.start gap widths widths.length := by
  induction hfits with
  | nil => exact M.width_nil
  | cons hcell _ ih =>
    rw [line_cons, M.width_append, M.width_append, width_pad hcell, ih, List.length_cons, start]

theorem Fits.line_at (hfits : M.Fits widths cells) (gap : List α) {i : ℕ} (hw : widths[i]? = some w)
    (hcell : cells[i]? = some cell) :
    ∃ before after, M.line gap widths cells = before ++ (M.pad w cell ++ gap) ++ after ∧
      M.width before = M.start gap widths i ∧ M.width cell ≤ w := by
  induction hfits generalizing i with
  | nil => cases hw
  | @cons w' cell' widths cells hhead _ ih =>
    cases i with
    | zero =>
      obtain rfl := Option.some.inj hw
      obtain rfl := Option.some.inj hcell
      exact ⟨[], M.line gap widths cells, rfl, M.width_nil, hhead⟩
    | succ i =>
      obtain ⟨before, after, hline, hbefore, hfit⟩ := ih hw hcell
      refine ⟨M.pad w' cell' ++ gap ++ before, after, ?_, ?_, hfit⟩
      · rw [line_cons, hline]
        simp only [List.append_assoc]
      · rw [M.width_append, M.width_append, width_pad hhead, hbefore, start]

end Measure

/-- What has been printed, and whether it was all or a panic stopped it. -/
structure Output (α : Type) where
  text : List α
  finished : Bool
  deriving DecidableEq

/-- Prints one after the other, of which `none` panics. -/
def Output.of : List (Option (List α)) → Output α
  | [] => ⟨[], true⟩
  | none :: _ => ⟨[], false⟩
  | some text :: rest => ⟨text ++ (Output.of rest).text, (Output.of rest).finished⟩

theorem Output.of_append (texts : List (List α)) (rest : List (Option (List α))) :
    Output.of (texts.map some ++ rest) =
      ⟨texts.flatten ++ (Output.of rest).text, (Output.of rest).finished⟩ := by
  induction texts with
  | nil => rfl
  | cons text texts ih =>
    rw [List.map_cons, List.cons_append, Output.of, ih, List.flatten_cons, List.append_assoc]

theorem Output.of_some (texts : List (List α)) :
    Output.of (texts.map some) = ⟨texts.flatten, true⟩ := by
  have hall := Output.of_append texts []
  rwa [List.append_nil, Output.of, List.append_nil] at hall

theorem splitOn_lines [BEq α] [LawfulBEq α] {stop : α} {lines : List (List α)}
    (hlines : ∀ l ∈ lines, stop ∉ l) :
    (lines.map (· ++ [stop])).flatten.splitOn stop = lines ++ [[]] := by
  induction lines with
  | nil => rfl
  | cons l lines ih =>
    have hrest := ih fun l' hl' => hlines l' (List.mem_cons_of_mem l hl')
    rw [List.map_cons, List.flatten_cons, List.append_assoc, List.singleton_append,
      List.splitOn_append_cons_of_beq _ _ (beq_self_eq_true stop), hrest,
      List.splitOn_eq_singleton (hlines l List.mem_cons_self)]
    rfl

end LibnvmeRs.Columns
