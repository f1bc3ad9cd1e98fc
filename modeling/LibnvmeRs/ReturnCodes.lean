import LibnvmeRs.CommandFields
import LibnvmeRs.Pages
import LibnvmeRs.Rejection
import LibnvmeRs.Reservations
import Mathlib.Algebra.Ring.Nat

/-!
# Return codes

`check_ret` negates a code below `-1` to get the errno back. A build with overflow
checks stops at the one code whose negation does not fit, a build without gives it
back as it is; every other code comes out under a name of its own. The commands
themselves never take a failure for a success: a code of `0` is the only one that
lets an operation go on.
-/

namespace LibnvmeRs

open Interaction Program

namespace Build

def negI32 (b : Build) (x : I32) : Exit Error I32 :=
  if x = BitVec.intMin 32 then b.overflow (-x) else .ok (-x)

/-- `check_ret` with the negation of the build. -/
def checkRet (b : Build) (r : CRet) : Exit Error Unit :=
  if r.ret = 0 then .ok ()
  else if r.ret.slt 0 then do
    let err ← if r.ret = -1 then .ok r.lastOsError else b.negI32 r.ret >>= fun e => .ok (.raw e)
    .error (.os err)
  else .error (.nvme r.ret)

theorem negI32_of_ne (b : Build) {x : I32} (hx : x ≠ BitVec.intMin 32) : b.negI32 x = .ok (-x) :=
  if_neg hx

theorem checkRet_of_ne (b : Build) {r : CRet} (hr : r.ret ≠ BitVec.intMin 32) :
    b.checkRet r = .ofExcept (LibnvmeRs.checkRet r) := by
  unfold checkRet LibnvmeRs.checkRet
  rw [b.negI32_of_ne hr]
  split_ifs <;> rfl

theorem checkRet_cases (b : Build) (r : CRet) :
    b.checkRet r = .ofExcept (LibnvmeRs.checkRet r) ∨
      r.ret = BitVec.intMin 32 ∧ b.checkRet r = .aborted := by
  by_cases hr : r.ret = BitVec.intMin 32
  · have hzero : r.ret ≠ 0 := by rw [hr]; decide
    have hneg : r.ret.slt 0 = true := by rw [hr]; decide
    have hone : r.ret ≠ -1 := by rw [hr]; decide
    rw [checkRet, if_neg hzero, if_pos hneg, if_neg hone, negI32, if_pos hr]
    cases b with
    | debug => exact Or.inr ⟨hr, rfl⟩
    | release =>
      refine Or.inl ?_
      rw [LibnvmeRs.checkRet, if_neg hzero, if_pos hneg, if_neg hone]
      rfl
  · exact Or.inl (b.checkRet_of_ne hr)

end Build

/-- The result `x` tells the code it came from: success for `0`, the status of the
device, the thread's errno for `-1`, the negated code below. -/
structure Classified (r : CRet) (x : Exit Error Unit) : Prop where
  success : x = .ok () ↔ r.ret = 0
  status : 0 < r.ret.toInt → ∃ s : U32, x = .error (.nvme s) ∧ (s.toNat : ℤ) = r.ret.toInt
  lastError : r.ret = -1 → x = .error (.os (.raw r.errno))
  negated : r.ret.toInt < -1 → ∃ e : I32, x = .error (.os (.raw e)) ∧ e.toInt = -r.ret.toInt

section
variable {r r' : CRet}

theorem slt_zero_iff (x : I32) : x.slt 0 = true ↔ x.toInt < 0 := BitVec.slt_iff_toInt_lt

theorem checkRet_pos (hr : 0 < r.ret.toInt) : checkRet r = .error (.nvme r.ret) := by
  have hzero : r.ret ≠ 0 := fun h => by simp [h] at hr
  have hneg : ¬r.ret.slt 0 = true := by
    rw [slt_zero_iff]
    omega
  rw [checkRet, if_neg hzero, if_neg hneg]

theorem checkRet_lastError (hr : r.ret = -1) : checkRet r = .error (.os (.raw r.errno)) := by
  have hzero : r.ret ≠ 0 := by rw [hr]; decide
  have hneg : r.ret.slt 0 = true := by rw [hr]; decide
  rw [checkRet, if_neg hzero, if_pos hneg, if_pos hr, CRet.lastOsError]

theorem checkRet_negated (hr : r.ret.toInt < -1) : checkRet r = .error (.os (.raw (-r.ret))) := by
  have hzero : r.ret ≠ 0 := fun h => by simp [h] at hr
  have hone : r.ret ≠ -1 := fun h => by simp [h] at hr
  have hneg : r.ret.slt 0 = true := by
    rw [slt_zero_iff]
    omega
  rw [checkRet, if_neg hzero, if_pos hneg, if_neg hone]

theorem toNat_of_toInt_pos {x : I32} (hx : 0 < x.toInt) : (x.toNat : ℤ) = x.toInt := by
  rw [BitVec.toInt_eq_toNat_cond] at hx ⊢
  have hlt := x.isLt
  split_ifs at hx ⊢
  · rfl
  · omega

theorem classified_of_ne (hr : r.ret ≠ BitVec.intMin 32) :
    Classified r (.ofExcept (checkRet r)) where
  success := Exit.ofExcept_eq_ok.trans checkRet_eq_ok
  status hpos := ⟨r.ret, by rw [checkRet_pos hpos, Exit.ofExcept_error], toNat_of_toInt_pos hpos⟩
  lastError hone := by rw [checkRet_lastError hone, Exit.ofExcept_error]
  negated hneg := ⟨-r.ret, by rw [checkRet_negated hneg, Exit.ofExcept_error],
    BitVec.toInt_neg_of_ne_intMin hr⟩

theorem checkRet_inj (hr : r.ret ≠ -1) (hr' : r'.ret ≠ -1) (hsame : checkRet r = checkRet r') :
    r.ret = r'.ret := by
  unfold checkRet at hsame
  rw [if_neg hr, if_neg hr'] at hsame
  split_ifs at hsame with hzero hzero' hneg hzero' hneg' hzero' hneg'
  · rw [hzero, hzero']
  · exact BitVec.neg_inj.mp (IoError.raw.inj (Error.os.inj (Except.error.inj hsame)))
  · cases hsame
  · cases hsame
  · exact Error.nvme.inj (Except.error.inj hsame)

end

namespace Build
variable {b : Build} {r r' : CRet}

theorem checkRet_classified_iff : Classified r (b.checkRet r) ↔ r.ret ≠ BitVec.intMin 32 := by
  constructor
  · intro hclass hmin
    have hlow : r.ret.toInt = -2 ^ 31 := by rw [hmin]; decide
    obtain ⟨e, hexit, he⟩ := hclass.negated (by rw [hlow]; decide)
    -- the negated code is one more than an `i32` holds
    have htop : e.toInt < 2 ^ 31 := BitVec.toInt_lt
    omega
  · intro hr
    rw [b.checkRet_of_ne hr]
    exact classified_of_ne hr

theorem checkRet_inj (hr : r.ret ≠ -1) (hr' : r'.ret ≠ -1)
    (hsame : b.checkRet r = b.checkRet r') : r.ret = r'.ret := by
  rcases b.checkRet_cases r with hexit | ⟨hmin, hexit⟩ <;>
    rcases b.checkRet_cases r' with hexit' | ⟨hmin', hexit'⟩ <;> rw [hexit, hexit'] at hsame
  · exact LibnvmeRs.checkRet_inj hr hr' (Exit.ofExcept_inj.mp hsame)
  · exact (Exit.ofExcept_ne_aborted _ hsame).elim
  · exact (Exit.ofExcept_ne_aborted _ hsame.symm).elim
  · rw [hmin, hmin']

end Build

/-- The calls whose return code goes through `check_ret`: all that have one, but for
the two that open a device. -/
def Call.checked : Call → Bool
  | .nvmeNsGetFd _ | .nvmeCtrlGetFd _ => false
  | c =>
    match c.reply with
    | .status | .plain | .dword | .qword | .log => true
    | .pointer | .config | .nothing | .text | .borrowed | .flag | .child _ => false

/-- The operation with the `check_ret` of the build behind its calls. -/
def Build.compile {α : Type} (b : Build) : Ffi α → Ffi α
  | .ret a => .ret a
  | .fail e => .fail e
  | .abort => .abort
  | .call c next => .call c fun r =>
    if c.checked = true ∧ b.checkRet (c.reply.cret r) = .aborted then .abort
    else b.compile (next r)

section
variable {α : Type} {b : Build}

theorem Build.compile_checked {c : Call} (hc : c.checked = true) (f : Answer c → Ffi α) :
    (b.compile (.call c fun r => ofExcept (LibnvmeRs.checkRet (c.reply.cret r)) >>= fun _ => f r)) =
      .call c fun r => ofExit (b.checkRet (c.reply.cret r)) >>= fun _ => b.compile (f r) := by
  rw [Build.compile]
  congr 1
  funext r
  rcases b.checkRet_cases (c.reply.cret r) with hexit | ⟨-, hexit⟩
  · rw [hexit, if_neg fun h => Exit.ofExcept_ne_aborted _ h.2, ofExit_ofExcept]
    cases LibnvmeRs.checkRet (c.reply.cret r) <;> rfl
  · rw [hexit, if_pos ⟨hc, rfl⟩]
    rfl

theorem Build.compile_ensures {p : Ffi α} {Q : List (Event Call Answer) → Exit Error α → Prop}
    (hp : p.Ensures Q) (habort : ∀ trace, Q trace .aborted) : (b.compile p).Ensures Q := by
  induction p generalizing Q with
  | ret a => exact hp
  | fail e => exact hp
  | abort => exact hp
  | call c next ih =>
    intro r
    dsimp only
    split_ifs
    · exact habort [⟨c, r⟩]
    · exact ih r (hp r) fun trace => habort (⟨c, r⟩ :: trace)

end

def Succeeded (trace : Trace) : Prop :=
  (∃ ev ∈ trace, ev.1.checked = true) ∧
    ∀ ev ∈ trace, ev.1.checked = true → (ev.1.reply.cret ev.2).ret = 0

theorem Succeeded.cons {ev : Event Call Answer} {trace : Trace} (hev : ev.1.checked = false)
    (h : Succeeded trace) : Succeeded (ev :: trace) := by
  obtain ⟨⟨sent, hmem, hsent⟩, hall⟩ := h
  refine ⟨⟨sent, List.mem_cons_of_mem _ hmem, hsent⟩, List.forall_mem_cons.mpr ⟨?_, hall⟩⟩
  intro h
  rw [hev] at h
  cases h

theorem Succeeded.single {ev : Event Call Answer} (hev : ev.1.checked = true)
    (hret : (ev.1.reply.cret ev.2).ret = 0) : Succeeded [ev] :=
  ⟨⟨ev, List.mem_cons_self, hev⟩, List.forall_mem_singleton.mpr fun _ => hret⟩

def OkOnSuccess {α : Type} (p : Ffi α) : Prop :=
  p.Ensures fun trace x => ∀ a, x = .ok a → Succeeded trace

theorem OkOnSuccess.compile {α : Type} {p : Ffi α} (hp : OkOnSuccess p) (b : Build) :
    OkOnSuccess (b.compile p) :=
  Build.compile_ensures hp fun _ a ha => by cases ha

theorem OkOnSuccess.discard {α : Type} {p : Ffi α} (hp : OkOnSuccess p) :
    OkOnSuccess p.discard := by
  rw [OkOnSuccess, ensures_discard]
  refine hp.mono fun trace x hx u hu => ?_
  cases x with
  | ok a => exact hx a rfl
  | error e => cases hu
  | aborted => cases hu

theorem request_okOnSuccess {check ready : Exit Error Unit} {device : Device}
    {command : I32 → Call} (hcommand : ∀ fd, (command fd).checked = true) :
    OkOnSuccess (request check device ready command).program := by
  rw [OkOnSuccess, Submission.ensures_iff]
  refine ⟨fun hcheck a ha => (hcheck ha).elim, fun _ r => ⟨?_, fun fd _ => ⟨?_, ?_⟩⟩⟩
  · intro e _ a ha
    cases ha
  · intro hready a ha
    exact (hready ha).elim
  · intro _ answer a ha
    have hret := checkRet_eq_ok.mp (Exit.ofExcept_eq_ok.mp ha)
    have hopen : device.getFd.checked = false := by cases device <;> rfl
    exact Succeeded.cons hopen (Succeeded.single (hcommand fd) hret)

theorem DeviceOp.okOnSuccess (t : Target) {op : DeviceOp} (hop : ¬op.Idle) :
    OkOnSuccess (op.run t) := by
  rw [op.run_eq t hop, op.request_device]
  refine request_okOnSuccess fun fd => ?_
  cases op <;> rfl

theorem Reservation.okOnSuccess (t : Target) (op : Reservation) : OkOnSuccess (op.run t) := by
  rw [op.run_eq]
  refine request_okOnSuccess fun fd => ?_
  cases op <;> rfl

theorem Sanitize.okOnSuccess (hasSanitizeEmvs : Bool) (b : Sanitize) :
    OkOnSuccess (b.execute hasSanitizeEmvs).discard := by
  rw [b.execute_discard]
  exact request_okOnSuccess fun _ => rfl

namespace Connect

theorem addCtrl_okOnSuccess (t : Target) (b : Connect) (args : NvmeCreateCtrl) (ctrl : NvmeCtrl) :
    OkOnSuccess (b.addCtrl t args ctrl) := by
  refine addCtrl_ensures ?_ ?_ ?_ fun cfg r x hx a ha => ?_
  · exact fun _ _ _ h a ha => Succeeded.cons rfl (h a ha)
  · exact fun _ _ _ h a ha => Succeeded.cons rfl (h a ha)
  · exact fun _ _ _ h a ha => Succeeded.cons rfl (h a ha)
  · exact Succeeded.cons rfl (Succeeded.single rfl (hx a ha).2)

theorem execute_okOnSuccess (t : Target) (b : Connect) : OkOnSuccess (b.execute t) := by
  refine execute_ensures ?_ ?_ ?_
  · intro e _ a ha
    cases ha
  · intro args r _ _ a ha
    cases ha
  · intro args r ctrl _ _
    exact (b.addCtrl_okOnSuccess t args ctrl).mono fun _ _ hx a ha => Succeeded.cons rfl (hx a ha)

end Connect

inductive Execute where
  | device (op : DeviceOp) (hop : ¬op.Idle)
  | reservation (op : Reservation)
  | sanitize (b : Sanitize)
  | connect (b : Connect)

namespace Execute
variable (t : Target) (hasSanitizeEmvs : Bool)

def run : Execute → Ffi Unit
  | .device op _ => op.run t
  | .reservation op => op.run t
  | .sanitize b => (b.execute hasSanitizeEmvs).discard
  | .connect b => (b.execute t).discard

theorem okOnSuccess (op : Execute) : OkOnSuccess (op.run t hasSanitizeEmvs) := by
  cases op with
  | device op hop => exact op.okOnSuccess t hop
  | reservation op => exact op.okOnSuccess t
  | sanitize b => exact b.okOnSuccess hasSanitizeEmvs
  | connect b => exact (b.execute_okOnSuccess t).discard

end Execute

/-- The code `r` comes out as what it is and is mixed up with no other, and no
operation takes a failure for a success. -/
structure Build.Lossless (b : Build) (r : CRet) : Prop where
  classified : Classified r (b.checkRet r)
  distinct : ∀ r' : CRet, r.ret ≠ -1 → r'.ret ≠ -1 → b.checkRet r = b.checkRet r' → r.ret = r'.ret
  success : ∀ (t : Target) (hasSanitizeEmvs : Bool) (op : Execute),
    OkOnSuccess (b.compile (op.run t hasSanitizeEmvs))

theorem Build.lossless_of_classified {b : Build} {r : CRet}
    (hclass : Classified r (b.checkRet r)) : b.Lossless r where
  classified := hclass
  distinct _ hr hr' := Build.checkRet_inj hr hr'
  success t hasSanitizeEmvs op := (op.okOnSuccess t hasSanitizeEmvs).compile b

theorem check_ret_lossless_iff (b : Build) (r : CRet) :
    b.Lossless r ↔ r.ret ≠ BitVec.intMin 32 := by
  rw [← Build.checkRet_classified_iff (b := b)]
  constructor
  · intro hlossless
    exact hlossless.classified
  · intro hclass
    exact Build.lossless_of_classified hclass

theorem check_ret_lowest_code :
    Build.debug.checkRet ⟨BitVec.intMin 32, 0⟩ = .aborted ∧
      Build.release.checkRet ⟨BitVec.intMin 32, 0⟩ =
        .error (.os (.raw (BitVec.intMin 32))) ∧
      ∀ b : Build, ¬b.Lossless ⟨BitVec.intMin 32, 0⟩ := by
  refine ⟨by decide, by decide, fun b hlossless => ?_⟩
  exact Build.checkRet_classified_iff.mp hlossless.classified rfl

end LibnvmeRs
