import LibnvmeRs.Interaction

/-!
# Sessions

A session carries a state of its own through a sequence of actions, each of them
a program that calls the outside party. It is a program again, so one handler
answers all the calls, and its trace is the concatenation of the traces of the
steps.

`session_invariant` is the rule for whole sessions: a relation between the trace
so far and the state is kept by every step that meets its condition, hence it
holds at the end, and what it implies of the trace holds even when the process
stops on the way.
-/

namespace LibnvmeRs.Sessions

open Interaction Program

variable {ε C σ τ A : Type} {R : C → Type}

def session (step : τ → A → Program ε C R τ) : List A → τ → Program ε C R τ
  | [], x => .ret x
  | a :: l, x => step x a >>= session step l

theorem session_append (step : τ → A → Program ε C R τ) (l₁ l₂ : List A) (x : τ) :
    session step (l₁ ++ l₂) x = session step l₁ x >>= session step l₂ := by
  induction l₁ generalizing x with
  | nil => rfl
  | cons a l ih =>
    rw [List.cons_append, session, session, bind_bind]
    exact congrArg (step x a >>= ·) (funext ih)

section Run
variable (h : Handler C R σ) (step : τ → A → Program ε C R τ)

def Along (cond : τ → A → Prop) : List A → τ → σ → Prop
  | [], _, _ => True
  | a :: l, x, s =>
    cond x a ∧ ∀ y, ((step x a).run h s).exit = .ok y → Along cond l y ((step x a).run h s).state

variable {h step}

theorem along_true (l : List A) (x : τ) (s : σ) : Along h step (fun _ _ => True) l x s := by
  induction l generalizing x s with
  | nil => trivial
  | cons a l ih => exact ⟨trivial, fun y _ => ih y _⟩

theorem Along.cons {cond : τ → A → Prop} {a : A} {l : List A} {x y : τ} {s : σ} (hcond : cond x a)
    (hexit : ((step x a).run h s).exit = .ok y)
    (hl : Along h step cond l y ((step x a).run h s).state) : Along h step cond (a :: l) x s := by
  refine ⟨hcond, fun z hz => ?_⟩
  obtain rfl := Exit.ok.inj (hexit.symm.trans hz)
  exact hl

theorem session_invariant {cond : τ → A → Prop} {I : List (Event C R) → τ → Prop}
    {S : List (Event C R) → Prop} (hsafe : ∀ t x, I t x → S t)
    (hstep : ∀ t x a s, I t x → cond x a →
      S (t ++ ((step x a).run h s).trace) ∧
        ∀ y, ((step x a).run h s).exit = .ok y → I (t ++ ((step x a).run h s).trace) y)
    {l : List A} {x : τ} {s : σ} {t : List (Event C R)} (hI : I t x)
    (hl : Along h step cond l x s) :
    S (t ++ ((session step l x).run h s).trace) ∧
      ∀ y, ((session step l x).run h s).exit = .ok y →
        I (t ++ ((session step l x).run h s).trace) y := by
  induction l generalizing x s t with
  | nil =>
    have hnil : ((session step [] x : Program ε C R τ).run h s).trace = [] := rfl
    rw [hnil, List.append_nil]
    refine ⟨hsafe t x hI, fun y hy => ?_⟩
    obtain rfl : x = y := by simpa [session] using hy
    exact hI
  | cons a l ih =>
    obtain ⟨hcond, hrest⟩ := hl
    obtain ⟨hsafe', hnext⟩ := hstep t x a s hI hcond
    rw [session]
    cases hx : ((step x a).run h s).exit with
    | ok y =>
      have hrun := run_bind_ok h s hx (session step l)
      have htail := ih (hnext y hx) (hrest y hx)
      rw [hrun]
      simpa only [List.append_assoc] using htail
    | error e | aborted =>
      have hstopped : ∀ y, ((step x a).run h s).exit ≠ .ok y := by simp [hx]
      obtain ⟨htrace, hexit⟩ := run_bind_stopped h s hstopped (session step l)
      rw [htrace]
      exact ⟨hsafe', fun y hy => (hexit y hy).elim⟩

theorem session_returns {I : List A → τ → Prop}
    (hstep : ∀ done x a s, I done x →
      ∃ y, ((step x a).run h s).exit = .ok y ∧ I (done ++ [a]) y)
    (l : List A) {x : τ} (hx : I [] x) (s : σ) :
    ∃ y, ((session step l x).run h s).exit = .ok y ∧ I l y := by
  induction l generalizing I x s with
  | nil => exact ⟨x, rfl, hx⟩
  | cons a l ih =>
    obtain ⟨y, hy, hkept⟩ := hstep [] x a s hx
    have hrun := run_bind_ok h s hy (session step l)
    obtain ⟨z, hz, hdone⟩ := ih (I := fun done => I (a :: done))
      (fun done x b s hx => hstep (a :: done) x b s hx) hkept ((step x a).run h s).state
    refine ⟨z, ?_, hdone⟩
    rw [session, hrun]
    exact hz

/-- The trace of a session is cut into those of its steps, as far as it gets. -/
theorem session_segments {P : A → List (Event C R) → Prop}
    (hstep : ∀ x a s, P a ((step x a).run h s).trace) (l : List A) (x : τ) (s : σ) :
    ∃ segs, ((session step l x).run h s).trace = segs.flatten ∧
      List.Forall₂ P (l.take segs.length) segs := by
  induction l generalizing x s with
  | nil => exact ⟨[], rfl, .nil⟩
  | cons a l ih =>
    rw [session]
    cases hx : ((step x a).run h s).exit with
    | ok y =>
      obtain ⟨segs, htrace, hsegs⟩ := ih y ((step x a).run h s).state
      refine ⟨((step x a).run h s).trace :: segs, ?_, .cons (hstep x a s) hsegs⟩
      rw [run_bind_ok h s hx, htrace, List.flatten_cons]
    | error e | aborted =>
      have hstopped : ∀ y, ((step x a).run h s).exit ≠ .ok y := by simp [hx]
      refine ⟨[((step x a).run h s).trace], ?_, .cons (hstep x a s) .nil⟩
      rw [(run_bind_stopped h s hstopped _).1, List.flatten_singleton]

end Run
end LibnvmeRs.Sessions
