import Mathlib.Data.Finset.Basic
import Mathlib.Data.Finset.Dedup

/-!
# Ledgers of resources

A ledger is the set of resources that are out. An entry acquires a resource that
is not out, or releases one that is; anything else is a fault and has no result.
Replaying a list of entries therefore succeeds only if no resource is released
twice, and what it returns is exactly what has been acquired and not released.
-/

namespace LibnvmeRs.Ledger

variable {α : Type} [DecidableEq α]

inductive Entry (α : Type) where
  | acquire (a : α)
  | release (a : α)
  deriving DecidableEq, Repr

def Entry.apply (H : Finset α) : Entry α → Option (Finset α)
  | .acquire a => if a ∈ H then none else some (insert a H)
  | .release a => if a ∈ H then some (H.erase a) else none

def replay : Finset α → List (Entry α) → Option (Finset α)
  | H, [] => some H
  | H, e :: l => (e.apply H).bind fun H' => replay H' l

/-- Whoever hands out resources never hands out one that is out already. -/
def Fresh : Finset α → List (Entry α) → Prop
  | _, [] => True
  | H, .acquire a :: l => a ∉ H ∧ Fresh (insert a H) l
  | H, .release a :: l => Fresh (H.erase a) l

instance decidableFresh : (H : Finset α) → (l : List (Entry α)) → Decidable (Fresh H l)
  | _, [] => inferInstanceAs (Decidable True)
  | H, .acquire a :: l =>
    have := decidableFresh (insert a H) l
    inferInstanceAs (Decidable (a ∉ H ∧ Fresh (insert a H) l))
  | H, .release a :: l => decidableFresh (H.erase a) l

theorem apply_acquire {H : Finset α} {a : α} (ha : a ∉ H) :
    (Entry.acquire a).apply H = some (insert a H) := if_neg ha

theorem apply_release {H : Finset α} {a : α} (ha : a ∈ H) :
    (Entry.release a).apply H = some (H.erase a) := if_pos ha

theorem replay_append (H : Finset α) (l₁ l₂ : List (Entry α)) :
    replay H (l₁ ++ l₂) = (replay H l₁).bind fun H' => replay H' l₂ := by
  induction l₁ generalizing H with
  | nil => rfl
  | cons e l ih =>
    rw [List.cons_append, replay, replay]
    cases e.apply H with
    | none => rfl
    | some H' => exact ih H'

theorem fresh_append {H : Finset α} {l₁ l₂ : List (Entry α)} (hl : Fresh H (l₁ ++ l₂)) :
    Fresh H l₁ ∧ ∀ H', replay H l₁ = some H' → Fresh H' l₂ := by
  induction l₁ generalizing H with
  | nil =>
    refine ⟨trivial, fun H' hH' => ?_⟩
    obtain rfl : H = H' := by simpa [replay] using hH'
    exact hl
  | cons e l ih =>
    cases e with
    | acquire a =>
      obtain ⟨ha, hrest⟩ := hl
      refine ⟨⟨ha, (ih hrest).1⟩, fun H' hH' => (ih hrest).2 H' ?_⟩
      rwa [replay, apply_acquire ha, Option.bind_some] at hH'
    | release a =>
      refine ⟨(ih hl).1, fun H' hH' => ?_⟩
      by_cases ha : a ∈ H
      · rw [replay, apply_release ha, Option.bind_some] at hH'
        exact (ih hl).2 H' hH'
      · simp [replay, Entry.apply, ha] at hH'

theorem replay_acquire_release {H : Finset α} {a : α} (ha : a ∉ H) :
    replay H [.acquire a, .release a] = some H := by
  have hmem : a ∈ insert a H := Finset.mem_insert_self a H
  rw [replay, apply_acquire ha, Option.bind_some, replay, apply_release hmem, Option.bind_some,
    Finset.erase_insert ha, replay]

theorem replay_acquire_append {l : List α} {a : α} (ha : a ∉ l) :
    replay l.toFinset [.acquire a] = some (l ++ [a]).toFinset := by
  have hout : a ∉ l.toFinset := by rwa [List.mem_toFinset]
  have hheld : insert a l.toFinset = (l ++ [a]).toFinset := by
    ext b
    rw [Finset.mem_insert, List.mem_toFinset, List.mem_toFinset, List.mem_append,
      List.mem_singleton, or_comm]
  rw [replay, apply_acquire hout, Option.bind_some, replay, hheld]

theorem replay_release_eraseIdx {l : List α} (hl : l.Nodup) {i : ℕ} (hi : i < l.length) :
    replay l.toFinset [.release l[i]] = some (l.eraseIdx i).toFinset := by
  have hin : l[i] ∈ l.toFinset := List.mem_toFinset.mpr (List.getElem_mem hi)
  have hheld : l.toFinset.erase l[i] = (l.eraseIdx i).toFinset := by
    ext b
    rw [Finset.mem_erase, List.mem_toFinset, List.mem_toFinset, ← hl.erase_getElem,
      hl.mem_erase_iff]
  rw [replay, apply_release hin, Option.bind_some, replay, hheld]

end LibnvmeRs.Ledger
