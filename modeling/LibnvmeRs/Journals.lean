import LibnvmeRs.Sessions

/-!
# Journals

A journal is what a session of operations leaves behind: the operations in their
order, each with its result or its failure. `Follows` says that the steps the
journal tells of lead from one state of the outside party to another, and `learned`
is what a reader of the journal comes to know of a state that it never saw.
-/

namespace LibnvmeRs.Journals

open Interaction Program Sessions

variable {ε C σ Op V : Type} {R : C → Type}

abbrev Journal (Op ε V : Type) := List (Op × Except ε V)

def journalStep (run : Op → Program ε C R V) (log : Journal Op ε V) (op : Op) :
    Program ε C R (Journal Op ε V) := do
  let r ← (run op).attempt
  return log ++ [(op, r)]

def journal (run : Op → Program ε C R V) (ops : List Op) : Program ε C R (Journal Op ε V) :=
  session (journalStep run) ops []

def Follows (Step : Op → Except ε V → σ → σ → Prop) : Journal Op ε V → σ → σ → Prop
  | [], s, s' => s' = s
  | (op, r) :: log, s, s' => ∃ s₁, Step op r s s₁ ∧ Follows Step log s₁ s'

section Follows
variable {Step : Op → Except ε V → σ → σ → Prop}

theorem follows_append {l₁ l₂ : Journal Op ε V} {s s' : σ} :
    Follows Step (l₁ ++ l₂) s s' ↔ ∃ s₁, Follows Step l₁ s s₁ ∧ Follows Step l₂ s₁ s' := by
  induction l₁ generalizing s with
  | nil => simp [Follows]
  | cons x l ih =>
    simp only [List.cons_append, Follows, ih]
    constructor
    · rintro ⟨s₁, hstep, s₂, hl, hrest⟩
      exact ⟨s₂, ⟨s₁, hstep, hl⟩, hrest⟩
    · rintro ⟨s₂, ⟨s₁, hstep, hl⟩, hrest⟩
      exact ⟨s₁, hstep, s₂, hl, hrest⟩

theorem Follows.invariant {P : σ → Prop} {log : Journal Op ε V} {s s' : σ}
    (hlog : Follows Step log s s') (hs : P s)
    (hstep : ∀ x ∈ log, ∀ u u', Step x.1 x.2 u u' → P u → P u') : P s' := by
  induction log generalizing s with
  | nil =>
    obtain rfl : s' = s := hlog
    exact hs
  | cons x log ih =>
    obtain ⟨s₁, hfirst, hrest⟩ := hlog
    exact ih hrest (hstep x List.mem_cons_self s s₁ hfirst hs) fun y hy =>
      hstep y (List.mem_cons_of_mem _ hy)

def learned {K : Type} (learn : Op → Except ε V → K → K) (log : Journal Op ε V) (k : K) : K :=
  log.foldl (fun k x => learn x.1 x.2 k) k

/-- Reading one line turns knowledge of the state before into knowledge of it after. -/
def Teaches {K : Type} (Step : Op → Except ε V → σ → σ → Prop) (Knows : K → σ → Prop)
    (learn : Op → Except ε V → K → K) : Prop :=
  ∀ op r s s' k, Step op r s s' → Knows k s → Knows (learn op r k) s'

theorem Follows.learned {K : Type} {Knows : K → σ → Prop} {learn : Op → Except ε V → K → K}
    (hsound : Teaches Step Knows learn) {log : Journal Op ε V} {s s' : σ}
    (hlog : Follows Step log s s') {k : K} (hk : Knows k s) :
    Knows (Journals.learned learn log k) s' := by
  induction log generalizing s k with
  | nil =>
    obtain rfl : s' = s := hlog
    exact hk
  | cons x log ih =>
    obtain ⟨s₁, hstep, hrest⟩ := hlog
    exact ih hrest (hsound x.1 x.2 s s₁ k hstep hk)

end Follows

section Run
variable {h : Handler C R σ} {run : Op → Program ε C R V} {Step : Op → Except ε V → σ → σ → Prop}

theorem journalStep_follows {op : Op}
    (hstep : ∀ s r, ((run op).run h s).exit = .ofExcept r → Step op r s ((run op).run h s).state)
    {log log' : Journal Op ε V} {s : σ}
    (hexit : ((journalStep run log op).run h s).exit = .ok log') :
    ∃ r, log' = log ++ [(op, r)] ∧ Step op r s ((journalStep run log op).run h s).state := by
  obtain ⟨-, hstate, hattempt⟩ := run_attempt h s (run op)
  have hrun := run_bind_ret h s (run op).attempt fun r => log ++ [(op, r)]
  rw [journalStep] at hexit ⊢
  obtain ⟨r, hr, hlog⟩ := exists_of_run_bind h s hexit
  refine ⟨r, (Exit.ok.inj hlog).symm, ?_⟩
  change Step op r s (((run op).attempt >>= fun r => .ret (log ++ [(op, r)])).run h s).state
  rw [hrun, hstate]
  exact hstep s r ((hattempt r).mp hr)

theorem session_follows {ops : List Op}
    (hstep : ∀ op ∈ ops, ∀ s r, ((run op).run h s).exit = .ofExcept r →
      Step op r s ((run op).run h s).state)
    {log out : Journal Op ε V} {s : σ}
    (hexit : ((session (journalStep run) ops log).run h s).exit = .ok out) :
    ∃ new, out = log ++ new ∧ new.map Prod.fst = ops ∧
      Follows Step new s ((session (journalStep run) ops log).run h s).state := by
  induction ops generalizing log s with
  | nil => exact ⟨[], by simpa [session, eq_comm] using hexit, rfl, rfl⟩
  | cons op ops ih =>
    rw [session] at hexit ⊢
    obtain ⟨log', hfirst, hrest⟩ := exists_of_run_bind h s hexit
    obtain ⟨r, rfl, hdone⟩ := journalStep_follows (hstep op List.mem_cons_self) hfirst
    obtain ⟨new, hout, hops, hfollows⟩ :=
      ih (fun o ho => hstep o (List.mem_cons_of_mem _ ho)) hrest
    refine ⟨(op, r) :: new, ?_, ?_, ?_⟩
    · rw [hout, List.append_assoc, List.singleton_append]
    · rw [List.map_cons, hops]
    · rw [run_bind_ok h s hfirst]
      exact ⟨_, hdone, hfollows⟩

theorem journal_follows {ops : List Op}
    (hstep : ∀ op ∈ ops, ∀ s r, ((run op).run h s).exit = .ofExcept r →
      Step op r s ((run op).run h s).state)
    {log : Journal Op ε V} {s : σ} (hexit : ((journal run ops).run h s).exit = .ok log) :
    log.map Prod.fst = ops ∧ Follows Step log s ((journal run ops).run h s).state := by
  obtain ⟨new, rfl, hops, hfollows⟩ := session_follows hstep hexit
  exact ⟨hops, hfollows⟩

theorem journal_of_results {ops : List Op} {s : σ} {results : List (Except ε V)}
    (hresults : ((journal run ops).run h s).exit.map (List.map Prod.snd) = .ok results) :
    ((journal run ops).run h s).exit = .ok (ops.zip results) := by
  cases hexit : ((journal run ops).run h s).exit with
  | ok log =>
    have hjournal : log.map Prod.fst = ops ∧ Follows (fun _ _ _ _ => True) log s
        ((journal run ops).run h s).state := journal_follows (fun _ _ _ _ _ => trivial) hexit
    rw [hexit, Exit.map_ok] at hresults
    rw [← List.zip_of_prod hjournal.1 (Exit.ok.inj hresults)]
  | error e =>
    rw [hexit] at hresults
    cases hresults
  | aborted =>
    rw [hexit] at hresults
    cases hresults

end Run
end LibnvmeRs.Journals
