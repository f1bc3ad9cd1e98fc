import Mathlib.Data.Nat.Notation
import Mathlib.Tactic.Common

/-!
# Lifetimes of trees of handles

An outside party opens and closes trees and hands out, on a handle of a tree, further
handles of it. From the events alone, a handle is held in a tree if it was obtained,
step by step from the top, since the tree was last opened, and the tree has not been
closed since. A tree may be opened again under the name of one that is closed.
-/

namespace LibnvmeRs.Lifetimes

variable {E ρ X : Type}

/-- How events speak of trees: which tree one opens or closes, and which handle it gives
to whoever holds another. -/
structure Scheme (E ρ X : Type) where
  opens : E → Option ρ
  closes : E → Option ρ
  top : ρ → X
  gives : E → X → X → Prop

namespace Scheme
variable (S : Scheme E ρ X)

inductive Derived (seg : List E) (r : ρ) : X → Prop
  | top : Derived seg r (S.top r)
  | step {x y : X} {ev : E} (hx : Derived seg r x) (hev : ev ∈ seg) (hy : S.gives ev x y) :
      Derived seg r y

variable {S} in
theorem Derived.snoc {seg : List E} {r : ρ} {x : X} (hx : S.Derived seg r x) (ev : E) :
    S.Derived (seg ++ [ev]) r x := by
  induction hx with
  | top => exact .top
  | step _ hev hy ih => exact ih.step (List.mem_append_left _ hev) hy

def Passes (r : ρ) (ev : E) : Prop := S.opens ev ≠ some r ∧ S.closes ev ≠ some r

def Later (t t' : List E) : Prop := ∃ seg, t' = t ++ seg ∧ ∀ ev ∈ seg, ∀ r, S.Passes r ev

section
variable {S} {t : List E} {ev : E}

theorem Later.refl (t : List E) : S.Later t t := ⟨[], by simp⟩

theorem Later.snoc {t' : List E} (h : S.Later t t') (hev : ∀ r, S.Passes r ev) :
    S.Later t (t' ++ [ev]) := by
  obtain ⟨seg, rfl, hseg⟩ := h
  refine ⟨seg ++ [ev], by simp, fun e he => ?_⟩
  rcases List.mem_append.mp he with he | he
  · exact hseg e he
  · obtain rfl := List.mem_singleton.mp he
    exact hev

theorem Later.after {t' : List E} (hev : ∀ r, S.Passes r ev) (h : S.Later (t ++ [ev]) t') :
    S.Later t t' := by
  obtain ⟨seg, rfl, hseg⟩ := h
  exact ⟨ev :: seg, by simp, List.forall_mem_cons.mpr ⟨hev, hseg⟩⟩

theorem Later.keeps {P : List E → Prop} {t' : List E} (h : S.Later t t') (ht : P t)
    (hP : ∀ t ev, (∀ r, S.Passes r ev) → P t → P (t ++ [ev])) : P t' := by
  obtain ⟨seg, rfl, hseg⟩ := h
  induction seg generalizing t with
  | nil => simpa using ht
  | cons ev seg ih =>
    have hrest := ih (hP t ev (hseg ev List.mem_cons_self) ht) fun e he =>
      hseg e (List.mem_cons_of_mem _ he)
    simpa using hrest

end

variable [DecidableEq ρ]

def track (r : ρ) (seg : Option (List E)) (ev : E) : Option (List E) :=
  if S.opens ev = some r then some []
  else if S.closes ev = some r then none
  else seg.map (· ++ [ev])

def since (r : ρ) (t : List E) : Option (List E) := t.foldl (S.track r) none

def Alive (r : ρ) (t : List E) : Prop := (S.since r t).isSome

instance (r : ρ) (t : List E) : Decidable (S.Alive r t) := inferInstanceAs (Decidable (_ = true))

def Held (t : List E) (r : ρ) (x : X) : Prop := ∃ seg, S.since r t = some seg ∧ S.Derived seg r x

def Fresh (t : List E) : Prop :=
  ∀ before ev after, t = before ++ ev :: after → ∀ r ∈ S.opens ev, ¬S.Alive r before

variable {S} {r : ρ} {t : List E} {ev : E} {x y : X}

theorem since_snoc (r : ρ) (t : List E) (ev : E) :
    S.since r (t ++ [ev]) = S.track r (S.since r t) ev := List.foldl_append

theorem since_passes (hev : S.Passes r ev) :
    S.since r (t ++ [ev]) = (S.since r t).map (· ++ [ev]) := by
  rw [since_snoc, track, if_neg hev.1, if_neg hev.2]

theorem not_alive_nil (r : ρ) : ¬S.Alive r [] := by simp [Alive, since]

theorem alive_passes (hev : S.Passes r ev) : S.Alive r (t ++ [ev]) ↔ S.Alive r t := by
  rw [Alive, since_passes hev, Option.isSome_map, Alive]

theorem alive_opened (hev : S.opens ev = some r) : S.Alive r (t ++ [ev]) := by
  rw [Alive, since_snoc, track, if_pos hev]
  rfl

theorem not_alive_closed (hopen : S.opens ev ≠ some r) (hev : S.closes ev = some r) :
    ¬S.Alive r (t ++ [ev]) := by
  rw [Alive, since_snoc, track, if_neg hopen, if_pos hev]
  simp

theorem held_top (hr : S.Alive r t) : S.Held t r (S.top r) := by
  obtain ⟨seg, hseg⟩ := Option.isSome_iff_exists.mp hr
  exact ⟨seg, hseg, .top⟩

theorem Held.alive (hx : S.Held t r x) : S.Alive r t := by
  obtain ⟨seg, hseg, -⟩ := hx
  rw [Alive, hseg]
  rfl

theorem Held.passes (hx : S.Held t r x) (hev : S.Passes r ev) : S.Held (t ++ [ev]) r x := by
  obtain ⟨seg, hseg, hderived⟩ := hx
  refine ⟨seg ++ [ev], ?_, hderived.snoc ev⟩
  rw [since_passes hev, hseg, Option.map_some]

theorem Held.given (hx : S.Held t r x) (hev : S.Passes r ev) (hy : S.gives ev x y) :
    S.Held (t ++ [ev]) r y := by
  obtain ⟨seg, hseg, hderived⟩ := hx
  refine ⟨seg ++ [ev], ?_, (hderived.snoc ev).step (List.mem_append_right _ (.head _)) hy⟩
  rw [since_passes hev, hseg, Option.map_some]

theorem fresh_iff :
    S.Fresh t ↔ ∀ n < t.length, ∀ r ∈ t[n]?.bind S.opens, ¬S.Alive r (t.take n) := by
  constructor
  · intro ht n hn r hr
    have hsplit : t = t.take n ++ t[n] :: t.drop (n + 1) := by simp
    rw [List.getElem?_eq_getElem hn] at hr
    exact ht _ _ _ hsplit r hr
  · rintro ht before ev after rfl r hr
    have hlt : before.length < (before ++ ev :: after).length := by simp
    have hprior := ht before.length hlt r (by simpa using hr)
    simpa using hprior

instance (t : List E) : Decidable (S.Fresh t) := decidable_of_iff _ fresh_iff.symm

theorem Fresh.before {t' : List E} (ht : S.Fresh (t ++ t')) : S.Fresh t :=
  fun before ev after hsplit => ht before ev (after ++ t') (by rw [hsplit]; simp)

theorem Fresh.opened (ht : S.Fresh (t ++ [ev])) (hev : S.opens ev = some r) : ¬S.Alive r t :=
  ht t ev [] rfl r hev

theorem Held.later {t' : List E} (hx : S.Held t r x) (h : S.Later t t') : S.Held t' r x :=
  h.keeps (P := fun t => S.Held t r x) hx fun _ _ hev hx => hx.passes (hev r)

theorem Fresh.earlier {t' : List E} (ht : S.Fresh t') (h : S.Later t t') : S.Fresh t := by
  obtain ⟨seg, rfl, -⟩ := h
  exact ht.before

theorem alive_later {t' : List E} (h : S.Later t t') (r : ρ) : S.Alive r t' ↔ S.Alive r t :=
  h.keeps (P := fun t' => S.Alive r t' ↔ S.Alive r t) Iff.rfl fun _ _ hev hx =>
    (alive_passes (hev r)).trans hx

end Scheme
end LibnvmeRs.Lifetimes
