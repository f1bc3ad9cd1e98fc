import Mathlib.Data.Nat.Notation
import Mathlib.Tactic.Common

/-!
# Programs that call an outside party

A `Program` is a finite tree: it returns, fails, aborts the process, or asks an
outside party one question and goes on with the answer. The outside party is a
`Handler` over a state of its own, so one run is a value, a state and the exact
list of calls with their answers. Nothing here is about a particular library.

`Ensures` states a postcondition on the trace and the exit for every answer the
outside party may give, and `ensures_iff_run` ties it to the runs themselves.

A `Submission` is the shape most wrappers of a device have: check the arguments,
open the device, send one command, read off the result. `Submission.ensures_iff`
is the one rule its clients need.
-/

namespace LibnvmeRs.Interaction

inductive Program (ε C : Type) (R : C → Type) (α : Type) where
  | ret (a : α)
  | fail (e : ε)
  | abort
  | call (c : C) (next : R c → Program ε C R α)

/-- How a run ends. `aborted` is a process that stopped without a result. -/
inductive Exit (ε α : Type) where
  | ok (a : α)
  | error (e : ε)
  | aborted
  deriving DecidableEq, Repr

abbrev Handler (C : Type) (R : C → Type) (σ : Type) := (c : C) → σ → R c × σ

abbrev Event (C : Type) (R : C → Type) := Σ c : C, R c

structure Outcome (ε C : Type) (R : C → Type) (σ α : Type) where
  exit : Exit ε α
  state : σ
  trace : List (Event C R)

variable {ε C σ α β γ δ : Type} {R : C → Type}

def Exit.map (f : α → β) : Exit ε α → Exit ε β
  | .ok a => .ok (f a)
  | .error e => .error e
  | .aborted => .aborted

def Exit.ofExcept : Except ε α → Exit ε α
  | .ok a => .ok a
  | .error e => .error e

@[simp] theorem Exit.ofExcept_ok (a : α) : Exit.ofExcept (.ok a : Except ε α) = .ok a := rfl
@[simp] theorem Exit.ofExcept_error (e : ε) :
    Exit.ofExcept (.error e : Except ε α) = .error e := rfl

theorem Exit.ofExcept_ne_aborted (x : Except ε α) : Exit.ofExcept x ≠ .aborted := by
  cases x <;> simp

theorem Exit.ofExcept_inj {x y : Except ε α} : Exit.ofExcept x = .ofExcept y ↔ x = y := by
  cases x <;> cases y <;> simp

theorem Exit.ofExcept_eq_ok {x : Except ε α} {a : α} : Exit.ofExcept x = .ok a ↔ x = .ok a := by
  cases x <;> simp

theorem Exit.ofExcept_eq_error {x : Except ε α} {e : ε} :
    Exit.ofExcept x = .error e ↔ x = .error e := by
  cases x <;> simp

@[simp] theorem Exit.map_ok (f : α → β) (a : α) : (Exit.ok a : Exit ε α).map f = .ok (f a) := rfl
@[simp] theorem Exit.map_error (f : α → β) (e : ε) :
    (Exit.error e : Exit ε α).map f = .error e := rfl
@[simp] theorem Exit.map_aborted (f : α → β) : (Exit.aborted : Exit ε α).map f = .aborted := rfl

@[simp] theorem Exit.map_eq_error {f : α → β} {x : Exit ε α} {e : ε} :
    x.map f = .error e ↔ x = .error e := by
  cases x <;> simp [Exit.map]

def Exit.bind (x : Exit ε α) (f : α → Exit ε β) : Exit ε β :=
  match x with
  | .ok a => f a
  | .error e => .error e
  | .aborted => .aborted

instance : Monad (Exit ε) where
  pure := .ok
  bind := Exit.bind

@[simp] theorem Exit.pure_eq (a : α) : (pure a : Exit ε α) = .ok a := rfl
@[simp] theorem Exit.ok_bind (a : α) (f : α → Exit ε β) : Exit.ok a >>= f = f a := rfl
@[simp] theorem Exit.aborted_bind (f : α → Exit ε β) : Exit.aborted >>= f = .aborted := rfl

def Exit.getD (x : Exit ε α) (d : α) : α :=
  match x with
  | .ok a => a
  | _ => d

def Outcome.calls (o : Outcome ε C R σ α) : List C := o.trace.map Sigma.fst

namespace Program

def bind : Program ε C R α → (α → Program ε C R β) → Program ε C R β
  | .ret a, f => f a
  | .fail e, _ => .fail e
  | .abort, _ => .abort
  | .call c next, f => .call c fun r => (next r).bind f

instance : Monad (Program ε C R) where
  pure := .ret
  bind := bind

@[simp] theorem pure_eq (a : α) : (pure a : Program ε C R α) = .ret a := rfl
@[simp] theorem ret_bind (a : α) (f : α → Program ε C R β) : Program.ret a >>= f = f a := rfl
@[simp] theorem fail_bind (e : ε) (f : α → Program ε C R β) : Program.fail e >>= f = .fail e := rfl
@[simp] theorem abort_bind (f : α → Program ε C R β) : Program.abort >>= f = .abort := rfl
@[simp] theorem call_bind (c : C) (next : R c → Program ε C R α) (f : α → Program ε C R β) :
    Program.call c next >>= f = .call c fun r => next r >>= f := rfl

@[simp] theorem bind_bind (p : Program ε C R α) (f : α → Program ε C R β)
    (g : β → Program ε C R γ) : p >>= f >>= g = p >>= fun a => f a >>= g := by
  induction p with
  | ret a => rfl
  | fail e => rfl
  | abort => rfl
  | call c next ih => simp only [call_bind, ih]

theorem map_eq (f : α → β) (p : Program ε C R α) : f <$> p = p >>= fun a => .ret (f a) := rfl

@[simp] theorem bind_ret_unit (p : Program ε C R Unit) : (p >>= fun _ => .ret ()) = p := by
  induction p with
  | ret a => rfl
  | fail e => rfl
  | abort => rfl
  | call c next ih => simp only [call_bind, ih]

def ask (c : C) : Program ε C R (R c) := .call c .ret

@[simp] theorem ask_bind (c : C) (f : R c → Program ε C R α) : ask c >>= f = .call c f := rfl

def ofExcept : Except ε α → Program ε C R α
  | .ok a => .ret a
  | .error e => .fail e

instance : MonadLift (Except ε) (Program ε C R) := ⟨ofExcept⟩

@[simp] theorem liftM_eq (x : Except ε α) : (liftM x : Program ε C R α) = ofExcept x := rfl
@[simp] theorem ofExcept_ok (a : α) : (ofExcept (.ok a) : Program ε C R α) = .ret a := rfl
@[simp] theorem ofExcept_error (e : ε) :
    (ofExcept (.error e : Except ε α) : Program ε C R α) = .fail e := rfl

theorem ofExcept_bind (x : Except ε α) (f : α → Except ε β) :
    (ofExcept (x >>= f) : Program ε C R β) = ofExcept x >>= fun a => ofExcept (f a) := by
  cases x <;> rfl

def ofExit : Exit ε α → Program ε C R α
  | .ok a => .ret a
  | .error e => .fail e
  | .aborted => .abort

@[simp] theorem ofExit_ok (a : α) : (ofExit (.ok a) : Program ε C R α) = .ret a := rfl
@[simp] theorem ofExit_error (e : ε) :
    (ofExit (.error e : Exit ε α) : Program ε C R α) = .fail e := rfl
@[simp] theorem ofExit_aborted : (ofExit (.aborted : Exit ε α) : Program ε C R α) = .abort := rfl

@[simp] theorem ofExit_ofExcept (x : Except ε α) :
    (ofExit (.ofExcept x) : Program ε C R α) = ofExcept x := by
  cases x <;> rfl

def run (h : Handler C R σ) : Program ε C R α → σ → Outcome ε C R σ α
  | .ret a, s => ⟨.ok a, s, []⟩
  | .fail e, s => ⟨.error e, s, []⟩
  | .abort, s => ⟨.aborted, s, []⟩
  | .call c next, s =>
    let answer := h c s
    let rest := run h (next answer.1) answer.2
    ⟨rest.exit, rest.state, ⟨c, answer.1⟩ :: rest.trace⟩

section Run
variable (h : Handler C R σ) (s : σ)

@[simp] theorem run_ret (a : α) : (Program.ret a : Program ε C R α).run h s = ⟨.ok a, s, []⟩ := rfl
@[simp] theorem run_fail (e : ε) :
    (Program.fail e : Program ε C R α).run h s = ⟨.error e, s, []⟩ := rfl
@[simp] theorem run_abort :
    (Program.abort : Program ε C R α).run h s = ⟨.aborted, s, []⟩ := rfl
@[simp] theorem run_call (c : C) (next : R c → Program ε C R α) :
    (Program.call c next).run h s =
      ⟨((next (h c s).1).run h (h c s).2).exit, ((next (h c s).1).run h (h c s).2).state,
        ⟨c, (h c s).1⟩ :: ((next (h c s).1).run h (h c s).2).trace⟩ := rfl

def discard : Program ε C R α → Program ε C R Unit
  | .ret _ => .ret ()
  | .fail e => .fail e
  | .abort => .abort
  | .call c next => .call c fun r => (next r).discard

@[simp] theorem discard_ret (a : α) : (Program.ret a : Program ε C R α).discard = .ret () := rfl
@[simp] theorem discard_fail (e : ε) :
    (Program.fail e : Program ε C R α).discard = .fail e := rfl
@[simp] theorem discard_abort : (Program.abort : Program ε C R α).discard = .abort := rfl
@[simp] theorem discard_call (c : C) (next : R c → Program ε C R α) :
    (Program.call c next).discard = .call c fun r => (next r).discard := rfl

@[simp] theorem discard_bind (p : Program ε C R α) (f : α → Program ε C R β) :
    (p >>= f).discard = p >>= fun a => (f a).discard := by
  induction p with
  | ret a => rfl
  | fail e => rfl
  | abort => rfl
  | call c next ih => simp only [call_bind, discard_call, ih]

theorem discard_bind_ret (p : Program ε C R α) (f : α → β) :
    (p >>= fun a => .ret (f a)).discard = p.discard := by
  induction p with
  | ret a => rfl
  | fail e => rfl
  | abort => rfl
  | call c next ih => simp only [call_bind, discard_call, ih]

@[simp] theorem discard_unit (p : Program ε C R Unit) : p.discard = p := by
  induction p with
  | ret a => rfl
  | fail e => rfl
  | abort => rfl
  | call c next ih => simp only [discard_call, ih]

theorem run_discard (p : Program ε C R α) :
    p.discard.run h s =
      ⟨(p.run h s).exit.map fun _ => (), (p.run h s).state, (p.run h s).trace⟩ := by
  induction p generalizing s with
  | ret a => rfl
  | fail e => rfl
  | abort => rfl
  | call c next ih => simp only [discard, run_call, ih]

theorem run_bind_ret (p : Program ε C R α) (f : α → β) :
    (p >>= fun a => .ret (f a)).run h s =
      ⟨(p.run h s).exit.map f, (p.run h s).state, (p.run h s).trace⟩ := by
  induction p generalizing s with
  | ret a => rfl
  | fail e => rfl
  | abort => rfl
  | call c next ih => simp only [call_bind, run_call, ih]

theorem run_bind_ok {p : Program ε C R α} {a : α} (hp : (p.run h s).exit = .ok a)
    (f : α → Program ε C R β) :
    (p >>= f).run h s =
      ⟨((f a).run h (p.run h s).state).exit, ((f a).run h (p.run h s).state).state,
        (p.run h s).trace ++ ((f a).run h (p.run h s).state).trace⟩ := by
  induction p generalizing s with
  | ret b =>
    obtain rfl : b = a := by simpa using hp
    rfl
  | fail e => cases hp
  | abort => cases hp
  | call c next ih =>
    simp only [run_call] at hp
    simp only [call_bind, run_call, ih _ _ hp, List.cons_append]

theorem run_bind_stopped {p : Program ε C R α} (hp : ∀ a, (p.run h s).exit ≠ .ok a)
    (f : α → Program ε C R β) :
    ((p >>= f).run h s).trace = (p.run h s).trace ∧ ∀ b, ((p >>= f).run h s).exit ≠ .ok b := by
  induction p generalizing s with
  | ret a => exact (hp a rfl).elim
  | fail e => exact ⟨rfl, fun b => by simp⟩
  | abort => exact ⟨rfl, fun b => by simp⟩
  | call c next ih =>
    have hnext := ih (h c s).1 (h c s).2 fun a => by simpa using hp a
    exact ⟨congrArg (_ :: ·) hnext.1, hnext.2⟩

theorem answer_of_mem_trace {p : Program ε C R α} {ev : Event C R}
    (hev : ev ∈ (p.run h s).trace) : ∃ s', ev.2 = (h ev.1 s').1 := by
  induction p generalizing s with
  | ret a => cases hev
  | fail e => cases hev
  | abort => cases hev
  | call c next ih =>
    rcases List.mem_cons.mp hev with rfl | hrest
    · exact ⟨s, rfl⟩
    · exact ih (h c s).1 (h c s).2 hrest

theorem exists_of_run_bind {p : Program ε C R α} {f : α → Program ε C R β} {b : β}
    (hb : ((p >>= f).run h s).exit = .ok b) :
    ∃ a, (p.run h s).exit = .ok a ∧ ((f a).run h (p.run h s).state).exit = .ok b := by
  induction p generalizing s with
  | ret a => exact ⟨a, rfl, hb⟩
  | fail e => simp at hb
  | abort => simp at hb
  | call c next ih => exact ih (h c s).1 (h c s).2 hb

theorem run_bind_aborted {p : Program ε C R α} {f : α → Program ε C R β}
    (habort : ((p >>= f).run h s).exit = .aborted) : (p.run h s).exit = .aborted ∨
      ∃ a, (p.run h s).exit = .ok a ∧ ((f a).run h (p.run h s).state).exit = .aborted := by
  induction p generalizing s with
  | ret a => exact Or.inr ⟨a, rfl, habort⟩
  | fail e => cases habort
  | abort => exact Or.inl rfl
  | call c next ih => exact ih (h c s).1 (h c s).2 habort

end Run

/-- Turn a failure into a value; a process that stops still stops. -/
def attempt : Program ε C R α → Program ε C R (Except ε α)
  | .ret a => .ret (.ok a)
  | .fail e => .ret (.error e)
  | .abort => .abort
  | .call c next => .call c fun r => (next r).attempt

theorem run_attempt (h : Handler C R σ) (s : σ) (p : Program ε C R α) :
    (p.attempt.run h s).trace = (p.run h s).trace ∧
      (p.attempt.run h s).state = (p.run h s).state ∧
      ∀ x : Except ε α, (p.attempt.run h s).exit = .ok x ↔ (p.run h s).exit = .ofExcept x := by
  induction p generalizing s with
  | ret a => exact ⟨rfl, rfl, fun x => by cases x <;> simp [attempt, eq_comm]⟩
  | fail e => exact ⟨rfl, rfl, fun x => by cases x <;> simp [attempt]⟩
  | abort => exact ⟨rfl, rfl, fun x => by cases x <;> simp [attempt]⟩
  | call c next ih =>
    obtain ⟨htrace, hstate, hexit⟩ := ih (h c s).1 (h c s).2
    exact ⟨congrArg (_ :: ·) htrace, hstate, hexit⟩

/-- Ask another interface instead: `f` renames the calls, `g` reads their answers. -/
def via {C' : Type} {R' : C' → Type} (f : C → C') (g : (c : C) → R' (f c) → R c) :
    Program ε C R α → Program ε C' R' α
  | .ret a => .ret a
  | .fail e => .fail e
  | .abort => .abort
  | .call c next => .call (f c) fun r => (next (g c r)).via f g

section Via
variable {C' : Type} {R' : C' → Type} (f : C → C') (g : (c : C) → R' (f c) → R c)

@[simp] theorem via_bind (p : Program ε C R α) (k : α → Program ε C R β) :
    (p >>= k).via f g = p.via f g >>= fun a => (k a).via f g := by
  induction p with
  | ret a => rfl
  | fail e => rfl
  | abort => rfl
  | call c next ih => simp only [call_bind, via, ih]

@[simp] theorem via_ofExcept (x : Except ε α) :
    (ofExcept x : Program ε C R α).via f g = ofExcept x := by
  cases x <;> rfl

@[simp] theorem via_ask (c : C) :
    (ask c : Program ε C R (R c)).via f g = ask (f c) >>= fun r => .ret (g c r) := rfl

def viaHandler (h : Handler C' R' σ) : Handler C R σ := fun c s =>
  (g c (h (f c) s).1, (h (f c) s).2)

theorem run_via (h : Handler C' R' σ) (s : σ) (p : Program ε C R α) :
    ((p.via f g).run h s).exit = (p.run (viaHandler f g h) s).exit ∧
      ((p.via f g).run h s).state = (p.run (viaHandler f g h) s).state ∧
      ((p.via f g).run h s).calls = (p.run (viaHandler f g h) s).calls.map f := by
  induction p generalizing s with
  | ret a => exact ⟨rfl, rfl, rfl⟩
  | fail e => exact ⟨rfl, rfl, rfl⟩
  | abort => exact ⟨rfl, rfl, rfl⟩
  | call c next ih =>
    obtain ⟨hexit, hstate, hcalls⟩ := ih (g c (h (f c) s).1) (h (f c) s).2
    exact ⟨hexit, hstate, congrArg (f c :: ·) hcalls⟩

end Via

/-- Against `h` the program comes to this value, in whatever state it starts. -/
def Returns (h : Handler C R σ) (p : Program ε C R α) (a : α) : Prop :=
  ∀ s, (p.run h s).exit = .ok a

theorem returns_ret (h : Handler C R σ) (a : α) : (Program.ret a : Program ε C R α).Returns h a :=
  fun _ => rfl

theorem Returns.bind {h : Handler C R σ} {p : Program ε C R α} {a : α} {f : α → Program ε C R β}
    {b : β} (hp : p.Returns h a) (hf : (f a).Returns h b) : (p >>= f).Returns h b := by
  intro s
  rw [run_bind_ok h s (hp s)]
  exact hf _

/-- A run in which a call may never come back; an answer brings along what it did. -/
def tryRun {ω : Type} (h : (c : C) → Option (R c × List ω)) :
    Program ε C R α → Option (Exit ε α × List ω)
  | .ret a => some (.ok a, [])
  | .fail e => some (.error e, [])
  | .abort => some (.aborted, [])
  | .call c next => (h c).bind fun answer =>
    ((next answer.1).tryRun h).map fun rest => (rest.1, answer.2 ++ rest.2)

section TryRun
variable {ω : Type} (h : (c : C) → Option (R c × List ω))

@[simp] theorem tryRun_call (c : C) (next : R c → Program ε C R α) :
    (Program.call c next).tryRun h = (h c).bind fun answer =>
      ((next answer.1).tryRun h).map fun rest => (rest.1, answer.2 ++ rest.2) := rfl

@[simp] theorem tryRun_ofExcept (x : Except ε α) :
    (ofExcept x : Program ε C R α).tryRun h = some (.ofExcept x, []) := by
  cases x <;> rfl

end TryRun

/-- `Q` holds of the trace and the exit, whatever the outside party answers. -/
def Ensures : Program ε C R α → (List (Event C R) → Exit ε α → Prop) → Prop
  | .ret a, Q => Q [] (.ok a)
  | .fail e, Q => Q [] (.error e)
  | .abort, Q => Q [] .aborted
  | .call c next, Q => ∀ r, (next r).Ensures fun t x => Q (⟨c, r⟩ :: t) x

section Ensures
variable {p : Program ε C R α} {Q : List (Event C R) → Exit ε α → Prop}

@[simp] theorem ensures_ret (a : α) : (Program.ret a).Ensures Q ↔ Q [] (.ok a) := Iff.rfl
@[simp] theorem ensures_fail (e : ε) : (Program.fail e).Ensures Q ↔ Q [] (.error e) := Iff.rfl
@[simp] theorem ensures_abort : Program.abort.Ensures Q ↔ Q [] .aborted := Iff.rfl
@[simp] theorem ensures_call (c : C) (next : R c → Program ε C R α) :
    (Program.call c next).Ensures Q ↔
      ∀ r, (next r).Ensures fun t x => Q (⟨c, r⟩ :: t) x := Iff.rfl

theorem Ensures.mono {Q' : List (Event C R) → Exit ε α → Prop} (hp : p.Ensures Q)
    (hQ : ∀ t x, Q t x → Q' t x) : p.Ensures Q' := by
  induction p generalizing Q Q' with
  | ret a => exact hQ _ _ hp
  | fail e => exact hQ _ _ hp
  | abort => exact hQ _ _ hp
  | call c next ih => exact fun r => ih r (hp r) fun t x => hQ _ x

theorem Ensures.run (hp : p.Ensures Q) (h : Handler C R σ) (s : σ) :
    Q (p.run h s).trace (p.run h s).exit := by
  induction p generalizing s Q with
  | ret a => exact hp
  | fail e => exact hp
  | abort => exact hp
  | call c next ih => exact ih (h c s).1 (hp (h c s).1) (h c s).2

noncomputable def answerFirst (c : C) (r : R c) (h : Handler C R σ) (s : σ) :
    Handler C R (Option σ) := by
  classical
  exact fun
    | d, none => if hd : c = d then (hd ▸ r, some s) else ((h d s).1, some (h d s).2)
    | d, some u => ((h d u).1, some (h d u).2)

theorem run_answerFirst (c : C) (r : R c) (h : Handler C R σ) (s u : σ) :
    (p.run (answerFirst c r h s) (some u)).trace = (p.run h u).trace ∧
      (p.run (answerFirst c r h s) (some u)).exit = (p.run h u).exit := by
  induction p generalizing u with
  | ret a => exact ⟨rfl, rfl⟩
  | fail e => exact ⟨rfl, rfl⟩
  | abort => exact ⟨rfl, rfl⟩
  | call d next ih =>
    have hn := ih (h d u).1 (h d u).2
    exact ⟨congrArg (_ :: ·) hn.1, hn.2⟩

/-- A postcondition of the tree is one of all its runs, and conversely: any
sequence of answers is given by some handler. -/
theorem ensures_iff_run [∀ c, Nonempty (R c)] :
    p.Ensures Q ↔ ∀ (σ : Type) (h : Handler C R σ) (s : σ),
      Q (p.run h s).trace (p.run h s).exit := by
  refine ⟨fun hp σ h s => hp.run h s, fun hrun => ?_⟩
  have anyHandler : Handler C R Unit := fun c s => (Classical.arbitrary (R c), s)
  induction p generalizing Q with
  | ret a => exact hrun Unit anyHandler ()
  | fail e => exact hrun Unit anyHandler ()
  | abort => exact hrun Unit anyHandler ()
  | call c next ih =>
    -- a handler of the rest is one of the whole that answers `r` first
    refine fun r => ih r fun σ h s => ?_
    have hfirst := hrun (Option σ) (answerFirst c r h s) none
    have hanswer : answerFirst c r h s c none = (r, some s) := by simp [answerFirst]
    have hrest := run_answerFirst (p := next r) c r h s s
    simpa only [run_call, hanswer, hrest.1, hrest.2] using hfirst

theorem ensures_discard {Q : List (Event C R) → Exit ε Unit → Prop} :
    p.discard.Ensures Q ↔ p.Ensures fun t x => Q t (x.map fun _ => ()) := by
  induction p generalizing Q with
  | ret a => rfl
  | fail e => rfl
  | abort => rfl
  | call c next ih => exact forall_congr' fun r => ih r

@[simp] theorem ensures_ofExcept (x : Except ε α) :
    (ofExcept x : Program ε C R α).Ensures Q ↔ Q [] (.ofExcept x) := by
  cases x <;> rfl

end Ensures

def OnlyCalls (p : Program ε C R α) (P : C → Prop) : Prop :=
  ∀ (σ : Type) (h : Handler C R σ) (s : σ), ∀ c ∈ (p.run h s).calls, P c

theorem onlyCalls_iff [∀ c, Nonempty (R c)] {p : Program ε C R α} {P : C → Prop} :
    p.OnlyCalls P ↔ p.Ensures fun t _ => ∀ e ∈ t, P e.1 := by
  rw [ensures_iff_run]
  exact forall_congr' fun σ => forall_congr' fun h => forall_congr' fun s => List.forall_mem_map

theorem onlyCalls_discard {p : Program ε C R α} {P : C → Prop} :
    p.discard.OnlyCalls P ↔ p.OnlyCalls P := by
  simp only [OnlyCalls, Outcome.calls, run_discard]

theorem OnlyCalls.bind [∀ c, Nonempty (R c)] {p : Program ε C R α} {f : α → Program ε C R β}
    {P : C → Prop} (hp : p.OnlyCalls P) (hf : ∀ a, (f a).OnlyCalls P) : (p >>= f).OnlyCalls P := by
  simp only [onlyCalls_iff] at hp hf ⊢
  induction p with
  | ret a => exact hf a
  | fail e => exact hp
  | abort => exact hp
  | call c next ih =>
    rw [call_bind, ensures_call]
    intro r
    have hhead : P c := by
      have hrun := (hp r).run (fun c _ => (Classical.arbitrary (R c), ())) ()
      exact hrun ⟨c, r⟩ List.mem_cons_self
    have htail := ih r ((hp r).mono fun t x ht ev hev => ht ev (List.mem_cons_of_mem _ hev))
    exact htail.mono fun t x ht => List.forall_mem_cons.mpr ⟨hhead, ht⟩

theorem onlyCalls_call [∀ c, Nonempty (R c)] {c : C} {next : R c → Program ε C R α} {P : C → Prop} :
    (Program.call c next).OnlyCalls P ↔ P c ∧ ∀ r, (next r).OnlyCalls P := by
  simp only [onlyCalls_iff]
  rw [ensures_call]
  constructor
  · intro hp
    refine ⟨?_, fun r => (hp r).mono fun t x ht ev hev => ht ev (List.mem_cons_of_mem _ hev)⟩
    have anyHandler : Handler C R Unit := fun c _ => (Classical.arbitrary (R c), ())
    obtain ⟨r⟩ : Nonempty (R c) := inferInstance
    exact (hp r).run anyHandler () ⟨c, r⟩ List.mem_cons_self
  · rintro ⟨hc, hnext⟩ r
    exact (hnext r).mono fun t x ht => List.forall_mem_cons.mpr ⟨hc, ht⟩

theorem OnlyCalls.attempt {p : Program ε C R α} {P : C → Prop} (hp : p.OnlyCalls P) :
    p.attempt.OnlyCalls P := by
  intro σ h s c hc
  rw [Outcome.calls, (run_attempt h s p).1] at hc
  exact hp σ h s c hc

theorem OnlyCalls.via {C' : Type} {R' : C' → Type} {f : C → C'} {g : (c : C) → R' (f c) → R c}
    {p : Program ε C R α} {P : C → Prop} {P' : C' → Prop} (hp : p.OnlyCalls P)
    (hf : ∀ c, P c → P' (f c)) : (p.via f g).OnlyCalls P' := by
  intro σ h s c hc
  rw [(run_via f g h s p).2.2] at hc
  obtain ⟨c₀, hc₀, rfl⟩ := List.mem_map.mp hc
  exact hf c₀ (hp σ _ s c₀ hc₀)

section
variable [∀ c, Nonempty (R c)] {P : C → Prop}

theorem onlyCalls_ret (a : α) : (Program.ret a : Program ε C R α).OnlyCalls P :=
  onlyCalls_iff.mpr (by simp)

theorem onlyCalls_fail (e : ε) : (Program.fail e : Program ε C R α).OnlyCalls P :=
  onlyCalls_iff.mpr (by simp)

theorem onlyCalls_ask {c : C} (hc : P c) : (ask c : Program ε C R (R c)).OnlyCalls P :=
  onlyCalls_iff.mpr fun r => by simpa using hc

theorem onlyCalls_ofExit (x : Exit ε α) : (ofExit x : Program ε C R α).OnlyCalls P := by
  cases x <;> exact onlyCalls_iff.mpr (by simp)

theorem onlyCalls_ofExcept (x : Except ε α) : (ofExcept x : Program ε C R α).OnlyCalls P := by
  cases x <;> exact onlyCalls_iff.mpr (by simp)

end

theorem OnlyCalls.mono {p : Program ε C R α} {P P' : C → Prop} (hp : p.OnlyCalls P)
    (hP : ∀ c, P c → P' c) : p.OnlyCalls P' :=
  fun σ h s c hc => hP c (hp σ h s c hc)

end Program

/-- Check the arguments, ask for the device, prepare, send the one command that
the opened device determines, read the result off its answer. -/
structure Submission (ε C : Type) (R : C → Type) (δ : Type) where
  check : Exit ε Unit
  device : C
  opened : R device → Except ε δ
  ready : Exit ε Unit
  command : δ → C
  finish : (d : δ) → R (command d) → Except ε Unit

namespace Submission
open Program
variable {b : Submission ε C R δ}

def send (b : Submission ε C R δ) (r : R b.device) : Program ε C R Unit := do
  let d ← ofExcept (b.opened r)
  ofExit b.ready
  let answer ← ask (b.command d)
  ofExcept (b.finish d answer)

def program (b : Submission ε C R δ) : Program ε C R Unit := do
  ofExit b.check
  let r ← ask b.device
  b.send r

theorem send_ensures {r : R b.device} {Q : List (Event C R) → Exit ε Unit → Prop} :
    (b.send r).Ensures Q ↔
      (∀ e, b.opened r = .error e → Q [] (.error e)) ∧
      ∀ d, b.opened r = .ok d →
        (b.ready ≠ .ok () → Q [] b.ready) ∧
        (b.ready = .ok () → ∀ a, Q [⟨b.command d, a⟩] (.ofExcept (b.finish d a))) := by
  unfold send
  cases b.opened r with
  | error e => simp
  | ok d => cases b.ready <;> simp

theorem ensures_iff {Q : List (Event C R) → Exit ε Unit → Prop} :
    b.program.Ensures Q ↔
      (b.check ≠ .ok () → Q [] b.check) ∧
      (b.check = .ok () → ∀ r,
        (∀ e, b.opened r = .error e → Q [⟨b.device, r⟩] (.error e)) ∧
        ∀ d, b.opened r = .ok d →
          (b.ready ≠ .ok () → Q [⟨b.device, r⟩] b.ready) ∧
          (b.ready = .ok () → ∀ a, Q [⟨b.device, r⟩, ⟨b.command d, a⟩]
            (.ofExcept (b.finish d a)))) := by
  unfold program
  cases b.check with
  | error e => simp
  | aborted => simp
  | ok u => simp [send_ensures]

theorem onlyCalls_iff [∀ c, Nonempty (R c)] {P : C → Prop} :
    b.program.OnlyCalls P ↔
      (b.check = .ok () → P b.device ∧
        ∀ r d, b.opened r = .ok d → b.ready = .ok () → P (b.command d)) := by
  rw [Program.onlyCalls_iff, ensures_iff]
  constructor
  · rintro ⟨-, hsend⟩ hcheck
    have hopen := hsend hcheck
    refine ⟨?_, fun r d hd hready => ?_⟩
    · obtain ⟨r⟩ : Nonempty (R b.device) := inferInstance
      rcases ho : b.opened r with e | d
      · simpa using (hopen r).1 e ho
      · by_cases hready : b.ready = .ok ()
        · obtain ⟨a⟩ : Nonempty (R (b.command d)) := inferInstance
          exact ((hopen r).2 d ho).2 hready a _ List.mem_cons_self
        · simpa using ((hopen r).2 d ho).1 hready
    · obtain ⟨a⟩ : Nonempty (R (b.command d)) := inferInstance
      have hmem := ((hopen r).2 d hd).2 hready a
      exact hmem ⟨b.command d, a⟩ (by simp)
  · intro hP
    refine ⟨by simp, fun hcheck r => ?_⟩
    obtain ⟨hdevice, hcommand⟩ := hP hcheck
    refine ⟨fun e _ => by simpa using hdevice, fun d hd => ⟨fun _ => by simpa using hdevice, ?_⟩⟩
    intro hready a
    simpa using ⟨hdevice, hcommand r d hd hready⟩

end Submission
end LibnvmeRs.Interaction
