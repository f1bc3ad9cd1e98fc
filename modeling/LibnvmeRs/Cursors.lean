import LibnvmeRs.Interaction

/-!
# Cursors over lists

A list without repetition can be enumerated from outside by two questions: which
element is first, and which one comes after a given one. A cursor that holds the
element to hand out next yields the list in order and then nothing for ever.
-/

namespace LibnvmeRs.Cursors

open Interaction Program

section Lists
variable {α β : Type} [DecidableEq α]

def after : List α → α → Option α
  | [], _ => none
  | a :: l, x => if a = x then l.head? else after l x

def since (l : List α) (x : α) : List α := l.dropWhile (· ≠ x)

theorem since_getElem {l : List α} (hl : l.Nodup) {i : ℕ} (hi : i < l.length) :
    since l l[i] = l.drop i := by
  induction l generalizing i with
  | nil => simp at hi
  | cons a l ih =>
    obtain ⟨ha, hnodup⟩ := List.nodup_cons.mp hl
    cases i with
    | zero => simp [since]
    | succ i =>
      have hlt : i < l.length := Nat.lt_of_succ_lt_succ hi
      have hne : a ≠ l[i] := fun h => ha (h ▸ List.getElem_mem hlt)
      rw [List.getElem_cons_succ, since, List.dropWhile_cons_of_pos (by simpa using hne),
        List.drop_succ_cons]
      exact ih hnodup hlt

theorem after_eq_since (l : List α) (x : α) : after l x = (since l x)[1]? := by
  induction l with
  | nil => rfl
  | cons a l ih =>
    by_cases ha : a = x
    · rw [after, if_pos ha, since, List.dropWhile_cons_of_neg (by simpa using ha),
        List.getElem?_cons_succ, List.head?_eq_getElem?]
    · rw [after, if_neg ha, ih, since, since, List.dropWhile_cons_of_pos (by simpa using ha)]

theorem after_getElem {l : List α} (hl : l.Nodup) {i : ℕ} (hi : i < l.length) :
    after l l[i] = l[i + 1]? := by
  rw [after_eq_since, since_getElem hl hi, List.getElem?_drop]

/-- Answers of a cursor over `l`: its elements in order, each once, then `none` for ever. -/
def Yields (l : List β) (ys : List (Option β)) : Prop :=
  ys = (List.range ys.length).map fun i => l[i]?

theorem yields_nil (l : List β) : Yields l [] := rfl

theorem Yields.snoc {l : List β} {ys : List (Option β)} (h : Yields l ys) :
    Yields l (ys ++ [l[ys.length]?]) := by
  rw [Yields, List.length_append, List.length_singleton, List.range_succ, List.map_append, ← h]
  rfl

end Lists

section Loop
variable {ε C σ ι β τ : Type} {R : C → Type}

/-- `for b in it`, as far as the fuel goes. -/
def forEach (next : ι → Program ε C R (Option β × ι)) (body : β → τ → Program ε C R τ) :
    ℕ → ι → τ → Program ε C R τ
  | 0, _, _ => .abort
  | fuel + 1, it, x => do
    let (item, rest) ← next it
    match item with
    | none => .ret x
    | some b => do
      let y ← body b x
      forEach next body fuel rest y

theorem onlyCalls_forEach [∀ c, Nonempty (R c)] {next : ι → Program ε C R (Option β × ι)}
    {body : β → τ → Program ε C R τ} {P : C → Prop} (hnext : ∀ it, (next it).OnlyCalls P)
    (hbody : ∀ b x, (body b x).OnlyCalls P) (fuel : ℕ) (it : ι) (x : τ) :
    (forEach next body fuel it x).OnlyCalls P := by
  induction fuel generalizing it x with
  | zero => exact onlyCalls_ofExit .aborted
  | succ fuel ih =>
    rw [forEach]
    refine (hnext it).bind fun y => ?_
    obtain ⟨item, rest⟩ := y
    cases item with
    | none => exact onlyCalls_ret x
    | some b => exact (hbody b x).bind fun x' => ih rest x'

theorem forEach_returns {h : Handler C R σ} {next : ι → Program ε C R (Option β × ι)}
    {body : β → τ → Program ε C R τ} {g : τ → β → τ} {l : List β} {P : ι → ℕ → Prop}
    (hnext : ∀ it n, P it n → ∃ rest, (next it).Returns h (l[n]?, rest) ∧ P rest (n + 1))
    (hbody : ∀ b ∈ l, ∀ x, (body b x).Returns h (g x b)) {fuel n : ℕ} {it : ι} (hit : P it n)
    (hfuel : l.length < fuel + n) (hn : n ≤ l.length) (x : τ) :
    (forEach next body fuel it x).Returns h ((l.drop n).foldl g x) := by
  induction fuel generalizing n it x with
  | zero => omega
  | succ fuel ih =>
    obtain ⟨rest, hreturns, hrest⟩ := hnext it n hit
    refine hreturns.bind ?_
    by_cases hlt : n < l.length
    · rw [List.drop_eq_getElem_cons hlt, List.foldl_cons]
      simp only [List.getElem?_eq_getElem hlt]
      refine (hbody _ (List.getElem_mem hlt) x).bind ?_
      exact ih hrest (by omega) hlt _
    · have hend : n = l.length := by omega
      rw [hend, List.drop_length]
      simp only [List.getElem?_eq_none (Nat.le_refl l.length)]
      exact returns_ret h x

theorem exists_common_bound {α : Type} {P : α → ℕ → Prop} {l : List α}
    (hl : ∀ a ∈ l, ∃ N, ∀ n ≥ N, P a n) : ∃ N, ∀ a ∈ l, ∀ n ≥ N, P a n := by
  induction l with
  | nil => exact ⟨0, by simp⟩
  | cons a l ih =>
    obtain ⟨M, hM⟩ := hl a List.mem_cons_self
    obtain ⟨N, hN⟩ := ih fun b hb => hl b (List.mem_cons_of_mem a hb)
    refine ⟨max M N, fun b hb n hn => ?_⟩
    rcases List.mem_cons.mp hb with rfl | hb
    · exact hM n (by omega)
    · exact hN b hb n (by omega)

/-- A loop ends with the fold of the list once the fuel is large enough, for the loop
itself and for every loop in its body. -/
theorem forEach_settles {h : Handler C R σ} {next : ι → Program ε C R (Option β × ι)}
    {body : ℕ → β → τ → Program ε C R τ} {g : τ → β → τ} {l : List β} {P : ι → ℕ → Prop}
    (hnext : ∀ it n, P it n → ∃ rest, (next it).Returns h (l[n]?, rest) ∧ P rest (n + 1))
    (hbody : ∀ b ∈ l, ∃ N, ∀ fuel ≥ N, ∀ x, (body fuel b x).Returns h (g x b)) {it : ι}
    (hit : P it 0) :
    ∃ N, ∀ fuel ≥ N, ∀ x, (forEach next (body fuel) fuel it x).Returns h (l.foldl g x) := by
  obtain ⟨N, hN⟩ := exists_common_bound hbody
  refine ⟨max N (l.length + 1), fun fuel hfuel x => ?_⟩
  have hdeep : N ≤ fuel := by omega
  have hlong : l.length + 1 ≤ fuel := by omega
  have hloop := forEach_returns hnext (fun b hb x => hN b hb fuel hdeep x) hit
    (by omega : l.length < fuel + 0) (Nat.zero_le _) x
  rwa [List.drop_zero] at hloop

end Loop
end LibnvmeRs.Cursors
