import LibnvmeRs.Cursors
import LibnvmeRs.Sessions

/-!
# Guarded calls

A guard says which calls a history of events permits. A program that obeys it
makes no other call, whatever the outside party answers; `Obeys` also carries
what holds of the history and the value when the program returns one, so that it
composes along `>>=`, loops and sessions.
-/

namespace LibnvmeRs.Guards

open Interaction Program Cursors Sessions

variable {ε C α β σ : Type} {R : C → Type}

abbrev History (C : Type) (R : C → Type) := List (Event C R)

/-- From the history `t` on, every call is permitted and a returned value meets `Q`. -/
def Obeys (G : History C R → C → Prop) :
    Program ε C R α → (History C R → α → Prop) → History C R → Prop
  | .ret a, Q, t => Q t a
  | .fail _, _, _ => True
  | .abort, _, _ => True
  | .call c next, Q, t => G t c ∧ ∀ r, Obeys G (next r) Q (t ++ [⟨c, r⟩])

section Rules
variable {G : History C R → C → Prop} {Q Q' : History C R → α → Prop} {t : History C R}

@[simp] theorem obeys_ret (a : α) :
    Obeys G (.ret a : Program ε C R α) Q t ↔ Q t a := Iff.rfl
@[simp] theorem obeys_fail (e : ε) : Obeys G (.fail e : Program ε C R α) Q t ↔ True := Iff.rfl
@[simp] theorem obeys_abort : Obeys G (.abort : Program ε C R α) Q t ↔ True := Iff.rfl
@[simp] theorem obeys_call (c : C) (next : R c → Program ε C R α) :
    Obeys G (.call c next) Q t ↔ G t c ∧ ∀ r, Obeys G (next r) Q (t ++ [⟨c, r⟩]) := Iff.rfl

theorem Obeys.mono {p : Program ε C R α} (hp : Obeys G p Q t)
    (hQ : ∀ t' a, Q t' a → Q' t' a) : Obeys G p Q' t := by
  induction p generalizing t with
  | ret a => exact hQ t a hp
  | fail e => trivial
  | abort => trivial
  | call c next ih => exact ⟨hp.1, fun r => ih r (hp.2 r)⟩

@[simp] theorem obeys_bind (p : Program ε C R α) (f : α → Program ε C R β)
    {Q : History C R → β → Prop} :
    Obeys G (p >>= f) Q t ↔ Obeys G p (fun t' a => Obeys G (f a) Q t') t := by
  induction p generalizing t with
  | ret a => exact Iff.rfl
  | fail e => exact Iff.rfl
  | abort => exact Iff.rfl
  | call c next ih => exact and_congr_right fun _ => forall_congr' fun r => ih r

@[simp] theorem obeys_ask (c : C) {Q : History C R → R c → Prop} :
    Obeys G (ask c : Program ε C R (R c)) Q t ↔ G t c ∧ ∀ r, Q (t ++ [⟨c, r⟩]) r := Iff.rfl

@[simp] theorem obeys_ofExcept (x : Except ε α) :
    Obeys G (ofExcept x : Program ε C R α) Q t ↔ ∀ a, x = .ok a → Q t a := by
  cases x <;> simp

@[simp] theorem obeys_ofExit (x : Exit ε α) :
    Obeys G (ofExit x : Program ε C R α) Q t ↔ ∀ a, x = .ok a → Q t a := by
  cases x <;> simp

@[simp] theorem obeys_discard {p : Program ε C R α} {Q : History C R → Unit → Prop} :
    Obeys G p.discard Q t ↔ Obeys G p (fun t' _ => Q t' ()) t := by
  induction p generalizing t with
  | ret a => exact Iff.rfl
  | fail e => exact Iff.rfl
  | abort => exact Iff.rfl
  | call c next ih => exact and_congr_right fun _ => forall_congr' fun r => ih r

theorem Obeys.attempt {p : Program ε C R α} {Q : History C R → Except ε α → Prop}
    (hp : Obeys G p (fun t' a => Q t' (.ok a)) t) (hfail : ∀ t' e, t <+: t' → Q t' (.error e)) :
    Obeys G p.attempt Q t := by
  induction p generalizing t with
  | ret a => exact hp
  | fail e => exact hfail t e (List.prefix_refl t)
  | abort => trivial
  | call c next ih =>
    refine ⟨hp.1, fun r => ih r (hp.2 r) fun t' e ht => hfail t' e ?_⟩
    exact (List.prefix_append t [⟨c, r⟩]).trans ht

theorem Obeys.extends {p : Program ε C R α} (hp : Obeys G p Q t) :
    Obeys G p (fun t' a => t <+: t' ∧ Q t' a) t := by
  induction p generalizing t with
  | ret a => exact ⟨List.prefix_refl t, hp⟩
  | fail e => trivial
  | abort => trivial
  | call c next ih =>
    refine ⟨hp.1, fun r => (ih r (hp.2 r)).mono fun t' a h => ⟨?_, h.2⟩⟩
    exact (List.prefix_append t [⟨c, r⟩]).trans h.1

def Complies (G : History C R → C → Prop) (t trace : History C R) : Prop :=
  ∀ before c r after, trace = before ++ ⟨c, r⟩ :: after → G (t ++ before) c

theorem complies_nil : Complies G t [] := fun before c r after htrace => by simp at htrace

theorem Obeys.run {p : Program ε C R α} (hp : Obeys G p Q t) (h : Handler C R σ) (s : σ) :
    Complies G t (p.run h s).trace ∧
      ∀ a, (p.run h s).exit = .ok a → Q (t ++ (p.run h s).trace) a := by
  induction p generalizing t s with
  | ret a =>
    refine ⟨complies_nil, fun b hb => ?_⟩
    obtain rfl := Exit.ok.inj hb
    rw [run_ret, List.append_nil]
    exact hp
  | fail e => exact ⟨complies_nil, fun b hb => by cases hb⟩
  | abort => exact ⟨complies_nil, fun b hb => by cases hb⟩
  | call d next ih =>
    obtain ⟨hcalls, hvalue⟩ := ih (h d s).1 (hp.2 (h d s).1) (h d s).2
    simp only [Complies, List.append_assoc, List.singleton_append] at hcalls hvalue
    refine ⟨fun before c r after htrace => ?_, hvalue⟩
    rw [run_call] at htrace
    cases before with
    | nil =>
      obtain ⟨rfl, -⟩ := Sigma.mk.inj (List.cons.inj htrace).1
      rw [List.append_nil]
      exact hp.1
    | cons ev before =>
      obtain ⟨rfl, hrest⟩ := List.cons.inj htrace
      exact hcalls before c r after hrest

theorem Obeys.of_ensures [∀ c, Nonempty (R c)] {p : Program ε C R α}
    (hp : p.Ensures fun seg x => Complies G t seg ∧ ∀ a, x = .ok a → Q (t ++ seg) a) :
    Obeys G p Q t := by
  induction p generalizing t with
  | ret a =>
    have hvalue := hp.2 a rfl
    rwa [List.append_nil] at hvalue
  | fail e => trivial
  | abort => trivial
  | call d next ih =>
    have hfirst : G t d := by
      have anyHandler : Handler C R Unit := fun c _ => (Classical.arbitrary (R c), ())
      have hrun := (hp (Classical.arbitrary (R d))).run anyHandler ()
      have hcall := hrun.1 [] d _ _ rfl
      rwa [List.append_nil] at hcall
    refine ⟨hfirst, fun r => ih r ((hp r).mono fun seg x hseg => ⟨?_, ?_⟩)⟩
    · intro before c r' after htrace
      rw [List.append_assoc]
      exact hseg.1 (⟨d, r⟩ :: before) c r' after (congrArg (_ :: ·) htrace)
    · intro a ha
      rw [List.append_assoc]
      exact hseg.2 a ha

/-- A program that makes only calls of one kind, which are permitted as long as `L` holds and
keep `L`. -/
theorem Obeys.of_onlyCalls [∀ c, Nonempty (R c)] {p : Program ε C R α} {P : C → Prop}
    {L : History C R → Prop} (hp : p.OnlyCalls P) (hcall : ∀ t c, L t → P c → G t c)
    (hnext : ∀ t c r, L t → P c → L (t ++ [⟨c, r⟩])) (hL : L t) :
    Obeys G p (fun t' _ => L t') t := by
  induction p generalizing t with
  | ret a => exact hL
  | fail e => trivial
  | abort => trivial
  | call c next ih =>
    obtain ⟨hc, hrest⟩ := onlyCalls_call.mp hp
    exact ⟨hcall t c hL hc, fun r => ih r (hrest r) (hnext t c r hL hc)⟩

end Rules

section Loops
variable {ι τ A : Type} {G : History C R → C → Prop}

theorem obeys_forEach {next : ι → Program ε C R (Option β × ι)} {body : β → τ → Program ε C R τ}
    {I : History C R → ι → τ → Prop} {Q : History C R → τ → Prop}
    (hstep : ∀ t it x, I t it x → Obeys G (next it) (fun t' y =>
      match y.1 with
      | none => Q t' x
      | some b => Obeys G (body b x) (fun t'' x' => I t'' y.2 x') t') t)
    (fuel : ℕ) {t : History C R} {it : ι} {x : τ} (hI : I t it x) :
    Obeys G (forEach next body fuel it x) Q t := by
  induction fuel generalizing t it x with
  | zero => trivial
  | succ fuel ih =>
    rw [forEach, obeys_bind]
    refine (hstep t it x hI).mono fun t' y hy => ?_
    obtain ⟨item, rest⟩ := y
    cases item with
    | none => exact hy
    | some b =>
      rw [obeys_bind]
      exact hy.mono fun t'' x' hI' => ih hI'

theorem obeys_session {step : τ → A → Program ε C R τ} {I : History C R → τ → Prop}
    (hstep : ∀ t x a, I t x → Obeys G (step x a) I t) (l : List A) {t : History C R} {x : τ}
    (hI : I t x) : Obeys G (session step l x) I t := by
  induction l generalizing t x with
  | nil => exact hI
  | cons a l ih =>
    rw [session, obeys_bind]
    exact (hstep t x a hI).mono fun t' y hy => ih hy

end Loops
end LibnvmeRs.Guards
