import Mathlib.Data.Nat.Notation
import Mathlib.Tactic.Common

/-!
# Sequences of setter calls

A builder is a value changed by one setter call after another. A field that each
call either overwrites or leaves alone ends as the last value given to it, and a
flag that calls can only raise ends raised exactly when some call raised it.

`SameLast` compares two sequences setter by setter: `slot` names the setter a
call belongs to, and only the last call of each setter counts. Permuting calls
to different setters, or repeating a call that carries no argument, stays inside
this relation.
-/

namespace LibnvmeRs.SetterCalls

variable {B S K V : Type}

def lastSome (f : S → Option V) : List S → Option V
  | [] => none
  | s :: l => (lastSome f l).or (f s)

theorem foldl_register {set : B → S → B} (get : B → V) {f : S → Option V}
    (hset : ∀ b s, get (set b s) = (f s).getD (get b)) (l : List S) (b : B) :
    get (l.foldl set b) = (lastSome f l).getD (get b) := by
  induction l generalizing b with
  | nil => rfl
  | cons s l ih =>
    rw [List.foldl_cons, ih, hset, lastSome]
    cases lastSome f l <;> rfl

theorem foldl_flag {set : B → S → B} (get : B → Bool) {p : S → Bool}
    (hset : ∀ b s, get (set b s) = (get b || p s)) (l : List S) (b : B) :
    get (l.foldl set b) = (get b || l.any p) := by
  induction l generalizing b with
  | nil => simp
  | cons s l ih => rw [List.foldl_cons, ih, hset, List.any_cons, Bool.or_assoc]

theorem foldl_fixed {set : B → S → B} (get : B → V) (hset : ∀ b s, get (set b s) = get b)
    (l : List S) (b : B) : get (l.foldl set b) = get b := by
  induction l generalizing b with
  | nil => rfl
  | cons s l ih => rw [List.foldl_cons, ih, hset]

/-- A closed form of the whole sequence, checked one call at a time. -/
theorem foldl_eq_after {set : B → S → B} {after : B → List S → B} (hnil : ∀ b, after b [] = b)
    (hcons : ∀ b s l, after (set b s) l = after b (s :: l)) (b : B) (l : List S) :
    l.foldl set b = after b l := by
  induction l generalizing b with
  | nil => rw [List.foldl_nil, hnil]
  | cons s l ih => rw [List.foldl_cons, ih, hcons]

theorem lastSome_append (f : S → Option V) (l₁ l₂ : List S) :
    lastSome f (l₁ ++ l₂) = (lastSome f l₂).or (lastSome f l₁) := by
  induction l₁ with
  | nil => simp [lastSome]
  | cons s l ih => simp [lastSome, ih, Option.or_assoc]

theorem lastSome_eq_getLast? (f : S → Option V) (l : List S) :
    lastSome f l = (l.filterMap f).getLast? := by
  induction l with
  | nil => rfl
  | cons s l ih =>
    rw [lastSome, ih]
    cases hs : f s with
    | none => rw [List.filterMap_cons_none hs, Option.or_none]
    | some v => rw [List.filterMap_cons_some hs, List.getLast?_cons, Option.or_some]

section Slot
variable [DecidableEq K] (slot : S → K)

def lastCall (k : K) : List S → Option S :=
  lastSome fun s => if slot s = k then some s else none

def SameLast (l₁ l₂ : List S) : Prop := ∀ k, lastCall slot k l₁ = lastCall slot k l₂

variable {slot}

theorem lastCall_cons (k : K) (s : S) (l : List S) :
    lastCall slot k (s :: l) = (lastCall slot k l).or (if slot s = k then some s else none) := rfl

theorem slot_of_lastCall {k : K} {s : S} {l : List S} (hl : lastCall slot k l = some s) :
    slot s = k := by
  induction l with
  | nil => cases hl
  | cons t l ih =>
    rw [lastCall_cons] at hl
    cases hr : lastCall slot k l with
    | some u =>
      obtain rfl : u = s := by simpa [hr] using hl
      exact ih hr
    | none =>
      by_cases ht : slot t = k
      · obtain rfl : t = s := by simpa [hr, ht] using hl
        exact ht
      · simp [hr, ht] at hl

theorem lastCall_isSome {k : K} {l : List S} :
    (lastCall slot k l).isSome ↔ ∃ s ∈ l, slot s = k := by
  induction l with
  | nil => simp [lastCall, lastSome]
  | cons s l ih =>
    rw [lastCall_cons]
    by_cases hs : slot s = k
    · simp [hs]
    · simp [hs, ih]

theorem lastCall_filter (k : K) (l : List S) :
    lastCall slot k (l.filter fun s => slot s = k) = lastCall slot k l := by
  induction l with
  | nil => rfl
  | cons s l ih =>
    by_cases hs : slot s = k
    · simp [hs, lastCall_cons, ih]
    · simp [hs, lastCall_cons, ih]

/-- Reordering calls to different setters: each setter still sees its own calls
in their order. -/
theorem sameLast_of_filter_eq {l₁ l₂ : List S}
    (hl : ∀ k, (l₁.filter fun s => slot s = k) = l₂.filter fun s => slot s = k) :
    SameLast slot l₁ l₂ := by
  intro k
  rw [← lastCall_filter k l₁, hl k, lastCall_filter]

theorem sameLast_insert {s : S} (hs : ∀ t, slot t = slot s → t = s) {l₁ l₂ : List S}
    (hmem : s ∈ l₁ ++ l₂) : SameLast slot (l₁ ++ s :: l₂) (l₁ ++ l₂) := by
  intro k
  simp only [lastCall, lastSome_append, lastSome]
  by_cases hk : slot s = k
  · subst hk
    have only : ∀ l, lastCall slot (slot s) l = none ∨ lastCall slot (slot s) l = some s := by
      intro l
      cases hl : lastCall slot (slot s) l with
      | none => exact Or.inl rfl
      | some t => exact Or.inr (congrArg some (hs t (slot_of_lastCall hl)))
    have hany : (lastCall slot (slot s) (l₁ ++ l₂)).isSome :=
      lastCall_isSome.mpr ⟨s, hmem, rfl⟩
    rw [lastCall, lastSome_append] at hany
    rcases only l₁ with h₁ | h₁ <;> rcases only l₂ with h₂ | h₂ <;>
      simp_all [lastCall]
  · simp [hk]

theorem lastCall_filter_ne {j k : K} (hjk : j ≠ k) (l : List S) :
    lastCall slot k (l.filter fun s => slot s ≠ j) = lastCall slot k l := by
  induction l with
  | nil => rfl
  | cons s l ih =>
    by_cases hs : slot s = j
    · have hk : slot s ≠ k := hs ▸ hjk
      rw [List.filter_cons_of_neg (by simpa using hs), ih, lastCall_cons, if_neg hk, Option.or_none]
    · rw [List.filter_cons_of_pos (by simpa using hs), lastCall_cons, ih, lastCall_cons]

theorem lastCall_filter_self (j : K) (l : List S) :
    lastCall slot j (l.filter fun s => slot s ≠ j) = none := by
  rw [← Option.not_isSome_iff_eq_none, lastCall_isSome]
  rintro ⟨s, hs, hslot⟩
  simp [hslot] at hs

theorem SameLast.filter_ne {l₁ l₂ : List S} (hl : SameLast slot l₁ l₂) (j : K) :
    SameLast slot (l₁.filter fun s => slot s ≠ j) (l₂.filter fun s => slot s ≠ j) := by
  intro k
  by_cases hjk : j = k
  · rw [← hjk, lastCall_filter_self, lastCall_filter_self]
  · rw [lastCall_filter_ne hjk, lastCall_filter_ne hjk, hl k]

/-- Calls to different setters commute, and a setter undoes its own earlier call. -/
structure LastWins (slot : S → K) (set : B → S → B) : Prop where
  commute : ∀ b s t, slot s ≠ slot t → set (set b s) t = set (set b t) s
  absorb : ∀ b s t, slot s = slot t → set (set b s) t = set b t

namespace LastWins
variable {set : B → S → B}

omit [DecidableEq K] in
theorem foldl_commute (hset : LastWins slot set) {s : S} {l : List S}
    (hl : ∀ t ∈ l, slot t ≠ slot s) (b : B) : l.foldl set (set b s) = set (l.foldl set b) s := by
  induction l generalizing b with
  | nil => rfl
  | cons t l ih =>
    rw [List.foldl_cons, List.foldl_cons, hset.commute b s t (hl t List.mem_cons_self).symm]
    exact ih (fun u hu => hl u (List.mem_cons_of_mem t hu)) (set b t)

theorem foldl_lastCall (hset : LastWins slot set) {s : S} {l : List S}
    (hl : lastCall slot (slot s) l = some s) (b : B) :
    l.foldl set b = set ((l.filter fun t => slot t ≠ slot s).foldl set b) s := by
  induction l generalizing b with
  | nil => cases hl
  | cons t l ih =>
    have hothers : ∀ u ∈ l.filter fun u => slot u ≠ slot s, slot u ≠ slot s := by
      intro u hu
      simpa using (List.mem_filter.mp hu).2
    rw [lastCall_cons] at hl
    cases hrest : lastCall slot (slot s) l with
    | some u =>
      -- a later call of the setter absorbs `t` if it is one of its own
      obtain rfl : u = s := by simpa [hrest] using hl
      rw [List.foldl_cons, ih hrest]
      by_cases ht : slot t = slot u
      · rw [hset.foldl_commute (fun v hv => ht ▸ hothers v hv), hset.absorb _ t u ht,
          List.filter_cons_of_neg (by simpa using ht)]
      · rw [List.filter_cons_of_pos (by simpa using ht), List.foldl_cons]
    | none =>
      -- `t` is the last call of the setter, and all of `l` commutes with it
      have ht : slot t = slot s := by
        by_contra hne
        simp [hrest, hne] at hl
      obtain rfl : t = s := by simpa [hrest, ht] using hl
      have hfree : ∀ u ∈ l, slot u ≠ slot t := by
        intro u hu hslot
        have hsome : (lastCall slot (slot t) l).isSome := lastCall_isSome.mpr ⟨u, hu, hslot⟩
        rw [hrest] at hsome
        cases hsome
      have hkeep : (l.filter fun u => slot u ≠ slot t) = l :=
        List.filter_eq_self.mpr fun u hu => by simpa using hfree u hu
      rw [List.foldl_cons, hset.foldl_commute hfree, List.filter_cons_of_neg (by simp), hkeep]

theorem foldl_eq (hset : LastWins slot set) {l₁ l₂ : List S} (hl : SameLast slot l₁ l₂) (b : B) :
    l₁.foldl set b = l₂.foldl set b := by
  induction hn : l₁.length using Nat.strongRecOn generalizing l₁ l₂ with
  | _ n ih =>
    cases l₁ with
    | nil =>
      cases l₂ with
      | nil => rfl
      | cons t l =>
        have hsome : (lastCall slot (slot t) (t :: l)).isSome :=
          lastCall_isSome.mpr ⟨t, List.mem_cons_self, rfl⟩
        rw [← hl (slot t)] at hsome
        cases hsome
    | cons t l =>
      have hsome : (lastCall slot (slot t) (t :: l)).isSome :=
        lastCall_isSome.mpr ⟨t, List.mem_cons_self, rfl⟩
      -- drop the setter of the first call from both sequences, keeping its last call
      obtain ⟨s, hs⟩ := Option.isSome_iff_exists.mp hsome
      have hts := slot_of_lastCall hs
      rw [← hts] at hs
      have hshorter : ((t :: l).filter fun u => slot u ≠ slot s).length < n := by
        rw [List.filter_cons_of_neg (by simpa using hts.symm), ← hn]
        exact Nat.lt_succ_of_le (List.length_filter_le _ l)
      rw [hset.foldl_lastCall hs, hset.foldl_lastCall ((hl (slot s)).symm.trans hs),
        ih _ hshorter (hl.filter_ne (slot s)) rfl]

end LastWins
end Slot
end LibnvmeRs.SetterCalls
