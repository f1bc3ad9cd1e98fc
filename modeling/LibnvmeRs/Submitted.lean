import LibnvmeRs.Libnvme

/-!
# Operations with their results

A device operation as the source writes it, with what it returns: check the
arguments, open the device, send one command, classify its code, read the result
off the answer. A run of it ends in one of three ways, and `submit_step` is all that
later proofs use.
-/

namespace LibnvmeRs

open Interaction Program

section
variable {ε C δ σ α : Type} {R : C → Type} (check : Except ε Unit) (device : C)
variable (opened : R device → Except ε δ) (command : δ → C)
variable (finish : (d : δ) → R (command d) → Except ε α)

def submit : Program ε C R α := do
  ofExcept check
  let r ← ask device
  let d ← ofExcept (opened r)
  let a ← ask (command d)
  ofExcept (finish d a)

theorem submit_cases (h : Handler C R σ) (s : σ) :
    let out := (submit check device opened command finish).run h s
    let r := h device s
    (∃ e, check = .error e ∧ out = ⟨.error e, s, []⟩) ∨
    (∃ e, check = .ok () ∧ opened r.1 = .error e ∧ out = ⟨.error e, r.2, [⟨device, r.1⟩]⟩) ∨
    ∃ d, check = .ok () ∧ opened r.1 = .ok d ∧
      out = ⟨.ofExcept (finish d (h (command d) r.2).1), (h (command d) r.2).2,
        [⟨device, r.1⟩, ⟨command d, (h (command d) r.2).1⟩]⟩ := by
  intro out r
  cases hcheck : check with
  | error e =>
    refine Or.inl ⟨e, rfl, ?_⟩
    simp only [out, submit, hcheck, ofExcept_error, fail_bind, run_fail]
  | ok u =>
    refine Or.inr ?_
    cases hopened : opened r.1 with
    | error e =>
      refine Or.inl ⟨e, rfl, rfl, ?_⟩
      simp only [out, submit, hcheck, ofExcept_ok, ret_bind, ask_bind, run_call]
      rw [hopened]
      rfl
    | ok d =>
      refine Or.inr ⟨d, rfl, rfl, ?_⟩
      simp only [out, submit, hcheck, ofExcept_ok, ret_bind, ask_bind, run_call]
      rw [hopened]
      simp only [ofExcept_ok, ret_bind, run_call]
      cases finish d (h (command d) r.2).1 <;> rfl

inductive Segment (takes : δ → C → Prop) : List (Event C R) → Prop where
  | nothing : Segment takes []
  | opened (r : R device) : Segment takes [⟨device, r⟩]
  | sent (r : R device) {d : δ} (hd : opened r = .ok d) (c : C) (hc : takes d c) (a : R c) :
    Segment takes [⟨device, r⟩, ⟨c, a⟩]

theorem submit_segment {takes : δ → C → Prop} (hcommand : ∀ d, takes d (command d)) :
    (submit check device opened command finish).Ensures fun seg _ =>
      Segment device opened takes seg := by
  rw [submit]
  cases check with
  | error e => exact Segment.nothing
  | ok u =>
    rw [ofExcept_ok, ret_bind, ask_bind, ensures_call]
    intro r
    cases hopened : opened r with
    | error e => exact Segment.opened r
    | ok d =>
      rw [ofExcept_ok, ret_bind, ask_bind, ensures_call]
      intro a
      rw [ensures_ofExcept]
      exact Segment.sent r hopened (command d) (hcommand d) a

/-- A relation between the result and the states around the operation, from the three ways
it can go. -/
theorem submit_step {h : Handler C R σ} {Step : Except ε α → σ → σ → Prop} (s : σ)
    (hrefused : ∀ e, check = .error e → Step (.error e) s s)
    (hclosed : ∀ e, opened (h device s).1 = .error e → Step (.error e) s (h device s).2)
    (hsent : ∀ d, check = .ok () → opened (h device s).1 = .ok d →
      Step (finish d (h (command d) (h device s).2).1) s (h (command d) (h device s).2).2)
    {r : Except ε α}
    (hr : ((submit check device opened command finish).run h s).exit = .ofExcept r) :
    Step r s ((submit check device opened command finish).run h s).state := by
  rcases submit_cases check device opened command finish h s with
    ⟨e, hcheck, hout⟩ | ⟨e, -, hopen, hout⟩ | ⟨d, hcheck, hopen, hout⟩
  · rw [hout] at hr ⊢
    obtain rfl := Exit.ofExcept_eq_error.mp hr.symm
    exact hrefused e hcheck
  · rw [hout] at hr ⊢
    obtain rfl := Exit.ofExcept_eq_error.mp hr.symm
    exact hclosed e hopen
  · rw [hout] at hr ⊢
    obtain rfl := Exit.ofExcept_inj.mp hr
    exact hsent d hcheck hopen

end

theorem classified {α : Type} {P : Except Error α → Prop} {ret : CRet} {x : α}
    (hok : ret.ret = 0 → P (.ok x))
    (herror : ¬ret.ret = 0 → ∀ e, (∀ m, e ≠ .invalidArgument m) →
      (∀ k m, e ≠ .os (.custom k m)) → P (.error e)) :
    P (checkRet ret >>= fun _ => .ok x) := by
  cases hret : checkRet ret with
  | ok u => exact hok (checkRet_eq_ok.mp hret)
  | error e =>
    have hnonzero : ¬ret.ret = 0 := by
      intro hzero
      rw [checkRet_eq_ok.mpr hzero] at hret
      cases hret
    refine herror hnonzero e ?_ ?_
    · rcases checkRet_error hret with ⟨-, i, rfl⟩ | ⟨status, rfl⟩ <;> simp
    · rw [checkRet, if_neg hnonzero] at hret
      split_ifs at hret <;> cases hret <;> simp [CRet.lastOsError]

section
variable {α : Type} (check : Except Error Unit) (device : Device) (command : I32 → Call)
variable (result : (fd : I32) → Answer (command fd) → α)

def submitted : Ffi α := do
  ofExcept check
  let r ← ask device.getFd
  let fd ← ofExcept (openedFd (device.getFd.reply.cret r))
  let a ← ask (command fd)
  ofExcept (checkRet ((command fd).reply.cret a))
  return result fd a

theorem submitted_eq_submit :
    submitted check device command result =
      submit check device.getFd (fun r => openedFd (device.getFd.reply.cret r)) command
        fun fd a => checkRet ((command fd).reply.cret a) >>= fun _ => .ok (result fd a) := by
  rw [submitted, submit]
  refine congrArg _ (funext fun _ => congrArg _ (funext fun r => congrArg _ (funext fun fd =>
    congrArg _ (funext fun a => ?_))))
  cases checkRet ((command fd).reply.cret a) <;> rfl

theorem submitted_step {σ : Type} {h : Handler Call Answer σ} {P : Prop}
    {Q : Except Error α → σ → σ → Prop} (hcheck : Decides check P) (s : σ)
    (hrefused : ∀ e, Q (.error e) s s)
    (hclosed : ∀ e, Q (.error e) s (h device.getFd s).2)
    (hsent : P → ∀ fd, openedFd (device.getFd.reply.cret (h device.getFd s).1) = .ok fd →
      let sent := h (command fd) (h device.getFd s).2
      (((command fd).reply.cret sent.1).ret = 0 → Q (.ok (result fd sent.1)) s sent.2) ∧
      (¬((command fd).reply.cret sent.1).ret = 0 → ∀ e, (∀ m, e ≠ .invalidArgument m) →
        Q (.error e) s sent.2))
    {r : Except Error α}
    (hr : ((submitted check device command result).run h s).exit = .ofExcept r) :
    Q r s ((submitted check device command result).run h s).state := by
  rw [submitted_eq_submit] at hr ⊢
  refine submit_step check _ _ command _ s (fun e _ => hrefused e) (fun e _ => hclosed e)
    (fun fd hpass hopen => ?_) hr
  obtain ⟨hok, herror⟩ := hsent (hcheck.ok_iff.mp hpass) fd hopen
  exact classified (P := fun r => Q r s _) hok fun hnonzero e he _ => herror hnonzero e he

end
end LibnvmeRs
