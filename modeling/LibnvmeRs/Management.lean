import LibnvmeRs.Admin
import LibnvmeRs.ControllerLists
import LibnvmeRs.Journals

/-!
# The life of a namespace

A namespace is created, attached to controllers, detached from them and deleted,
each by a command of its own. libnvme documents what the commands do: a created
namespace exists and is attached to none, attaching and detaching act on the
namespace named, deleting removes it. On subsystems that do so, the journal of a
session alone says which namespaces there are and where they are attached, and an
identifier is not handed out twice without a deletion in between.
-/

namespace LibnvmeRs

open Interaction Program ByteOrder Journals

structure Volume where
  template : NvmeIdNs
  attached : U16 → Bool

namespace Volume

def created (template : NvmeIdNs) : Volume := ⟨template, fun _ => false⟩

def attach (v : Volume) (ids : List U16) : Volume :=
  { v with attached := fun i => decide (i ∈ ids) || v.attached i }

def detach (v : Volume) (ids : List U16) : Volume :=
  { v with attached := fun i => !decide (i ∈ ids) && v.attached i }

end Volume

abbrev Inventory := U32 → Option Volume

/-- The namespaces an identifier stands for. -/
def Names (nsid n : U32) : Prop := n = nsid ∨ nsid = nvmeNsidAll

instance (nsid n : U32) : Decidable (Names nsid n) := inferInstanceAs (Decidable (_ ∨ _))

namespace Inventory

def Keeps (touched : U32 → Prop) (v v' : Inventory) : Prop := ∀ n, ¬touched n → v' n = v n

/-- An attachment that did or did not work neither creates nor deletes. -/
def Attaches (nsid : U32) (v v' : Inventory) : Prop :=
  v.Keeps (· = nsid) v' ∧ (v' nsid).isSome = (v nsid).isSome

def Creates (template : NvmeIdNs) (n : U32) (v v' : Inventory) : Prop :=
  v.Keeps (· = n) v' ∧ v n = none ∧ v' n = some (.created template)

def Deletes (nsid : U32) (v v' : Inventory) : Prop :=
  v.Keeps (Names nsid) v' ∧ ∀ n, Names nsid n → v' n = none

variable {v v' : Inventory}

theorem keeps_refl (touched : U32 → Prop) (v : Inventory) : v.Keeps touched v := fun _ _ => rfl

end Inventory

/-- The subsystems behind the controllers: the namespaces of each in each state, and
the subsystem a controller and a descriptor belong to. -/
structure Inventories (σ : Type) where
  volumes : σ → ℕ → Inventory
  subsystem : Controller → ℕ
  target : I32 → ℕ

namespace Inventories
variable {σ : Type} (D : Inventories σ)

def Moves (s s' : σ) (d : ℕ) (effect : Inventory → Inventory → Prop) : Prop :=
  effect (D.volumes s d) (D.volumes s' d) ∧ ∀ other, other ≠ d →
    D.volumes s' other = D.volumes s other

/-- `nvme_ns_mgmt`. A creation that failed leaves the namespaces there are alone. -/
def MeetsMgmt (s s' : σ) (args : NvmeNsMgmtArgs) (done : Done U32) : Prop :=
  D.Moves s s' (D.target args.fd) fun v v' =>
    if args.sel = nvmeNsMgmtSelCreate then
      ∀ template ∈ args.ns,
        if done.cret.ret = 0 then v.Creates template done.result v'
        else v.Keeps (fun n => v n = none) v'
    else if args.sel = nvmeNsMgmtSelDelete then
      if done.cret.ret = 0 then v.Deletes args.nsid v' else v.Keeps (Names args.nsid) v'
    else True

def MeetsAttach (e : Endian) (s s' : σ) (args : NvmeNsAttachArgs) (r : CRet) : Prop :=
  let ids := (NvmeCtrlList.decode (args.ctrlist.memory e)).listed
  D.Moves s s' (D.target args.fd) fun v v' =>
    v.Attaches args.nsid v' ∧
    (r.ret = 0 → args.sel = nvmeNsAttachSelCtrlAttach →
      v' args.nsid = (v args.nsid).map (·.attach ids)) ∧
    (r.ret = 0 → args.sel = nvmeNsAttachSelCtrlDeattach →
      v' args.nsid = (v args.nsid).map (·.detach ids))

def Meets (e : Endian) (s s' : σ) : (c : AdminCall) → AdminAnswer c → Prop
  | .lib (.nvmeCtrlGetFd c), r => D.volumes s' = D.volumes s ∧
      ∀ fd, openedFd r = .ok fd → D.target fd = D.subsystem c
  | .lib (.nvmeNsAttach args), r => D.MeetsAttach e s s' args r
  | .nvmeNsMgmt args, done => D.MeetsMgmt s s' args done
  | _, _ => True

def Conforms (e : Endian) (h : Handler AdminCall AdminAnswer σ) : Prop :=
  ∀ c s, D.Meets e s (h c s).2 c (h c s).1

end Inventories

inductive NsOp where
  | create (c : Controller) (template : IdentifyNamespace)
  | delete (c : Controller) (nsid : U32)
  | attach (c : Controller) (nsid : U32) (controllerIds : List U16)
  | detach (c : Controller) (nsid : U32) (controllerIds : List U16)

inductive NsValue where
  | nothing
  | created (nsid : U32)
  deriving DecidableEq

namespace NsOp

def controller : NsOp → Controller
  | .create c _ | .delete c _ | .attach c _ _ | .detach c _ _ => c

def run : NsOp → Admin NsValue
  | .create c template => do
    let nsid ← c.createNamespace template
    return .created nsid
  | .delete c nsid => do
    let _ ← c.deleteNamespace nsid
    return .nothing
  | .attach c nsid controllerIds => do
    let _ ← (c.attachNamespace nsid controllerIds).admin
    return .nothing
  | .detach c nsid controllerIds => do
    let _ ← (c.detachNamespace nsid controllerIds).admin
    return .nothing

def Risks (op : NsOp) (v v' : Inventory) : Prop :=
  match op with
  | .create _ _ => v.Keeps (fun n => v n = none) v'
  | .delete _ nsid => v.Keeps (Names nsid) v'
  | .attach _ nsid _ | .detach _ nsid _ => v.Attaches nsid v'

def Does (op : NsOp) (x : NsValue) (v v' : Inventory) : Prop :=
  match op, x with
  | .create _ template, .created n => v.Creates template.inner n v'
  | .create _ _, .nothing => False
  | .delete _ nsid, _ => v.Deletes nsid v'
  | .attach _ nsid ids, _ => v.Attaches nsid v' ∧ v' nsid = (v nsid).map (·.attach ids)
  | .detach _ nsid ids, _ => v.Attaches nsid v' ∧ v' nsid = (v nsid).map (·.detach ids)

def Effect (op : NsOp) (r : Except Error NsValue) (v v' : Inventory) : Prop :=
  match r with
  | .ok x => op.Does x v v'
  | .error (.invalidArgument _) => v' = v
  | .error _ => op.Risks v v'

def Step {σ : Type} (D : Inventories σ) (op : NsOp) (r : Except Error NsValue) (s s' : σ) : Prop :=
  D.Moves s s' (D.subsystem op.controller) (op.Effect r)

theorem risks_refl (op : NsOp) (v : Inventory) : op.Risks v v := by
  cases op with
  | create c template => exact Inventory.keeps_refl _ v
  | delete c nsid => exact Inventory.keeps_refl _ v
  | attach c nsid ids => exact ⟨Inventory.keeps_refl _ v, rfl⟩
  | detach c nsid ids => exact ⟨Inventory.keeps_refl _ v, rfl⟩

section Step
variable {σ : Type} {D : Inventories σ} {h : Handler AdminCall AdminAnswer σ}

theorem step_failed (op : NsOp) {e : Error} {s s' : σ} (hs : D.volumes s' = D.volumes s) :
    op.Step D (.error e) s s' := by
  refine ⟨?_, fun other _ => congrFun hs other⟩
  rw [hs]
  cases e with
  | invalidArgument m => rfl
  | os | nvme | notAvailable | utf8 => exact op.risks_refl _

theorem step_submit {e : Endian} (hD : D.Conforms e h) (op : NsOp) {check : Except Error Unit}
    {P : Prop} (hcheck : Decides check P) (command : I32 → AdminCall)
    (result : (fd : I32) → AdminAnswer (command fd) → NsValue)
    (hsend : P → ∀ fd s s' a, D.Meets e s s' (command fd) a →
      D.Moves s s' (D.target fd) fun v v' =>
        if ((command fd).reply.cret a).ret = 0 then op.Does (result fd a) v v' else op.Risks v v')
    (s : σ) {r : Except Error NsValue}
    (hr : ((submit check (.lib (.nvmeCtrlGetFd op.controller)) openedFd command fun fd a =>
      checkRet ((command fd).reply.cret a) >>= fun _ => .ok (result fd a)).run h s).exit =
        .ofExcept r) :
    op.Step D r s ((submit check (.lib (.nvmeCtrlGetFd op.controller)) openedFd command fun fd a =>
      checkRet ((command fd).reply.cret a) >>= fun _ => .ok (result fd a)).run h s).state := by
  obtain ⟨hquiet, htarget⟩ := hD (.lib (.nvmeCtrlGetFd op.controller)) s
  refine submit_step check (.lib (.nvmeCtrlGetFd op.controller)) openedFd command
    (fun fd a => checkRet ((command fd).reply.cret a) >>= fun _ => .ok (result fd a)) s
    (fun err _ => op.step_failed rfl) (fun err _ => op.step_failed hquiet)
    (fun fd hpass hopen => ?_) hr
  have hmeets := hD (command fd) (h (.lib (.nvmeCtrlGetFd op.controller)) s).2
  generalize h (command fd) (h (.lib (.nvmeCtrlGetFd op.controller)) s).2 = sent at hmeets ⊢
  obtain ⟨heffect, hothers⟩ := hsend (hcheck.ok_iff.mp hpass) fd _ _ _ hmeets
  rw [htarget fd hopen, hquiet] at heffect hothers
  refine ⟨classified (P := fun r => op.Effect r _ _) (fun hzero => ?_) fun hnonzero e he _ => ?_,
    hothers⟩
  · rw [if_pos hzero] at heffect
    exact heffect
  · rw [if_neg hnonzero] at heffect
    cases e with
    | invalidArgument m => exact (he m rfl).elim
    | os | nvme | notAvailable | utf8 => exact heffect

end Step

theorem run_create (c : Controller) (template : IdentifyNamespace) :
    (NsOp.create c template).run =
      submit (.ok ()) (.lib (.nvmeCtrlGetFd c)) openedFd
        (fun fd => .nvmeNsMgmt (createArgs template fd))
        fun _ done => checkRet done.cret >>= fun _ => .ok (.created done.result) := by
  rw [run, Controller.createNamespace, c.adminFd_eq, submit]
  simp only [pure_eq, bind_bind, ofExcept_ok, ret_bind, ask_bind, call_bind, liftM_eq,
    ofExcept_bind]

theorem run_delete (c : Controller) (nsid : U32) :
    (NsOp.delete c nsid).run =
      submit (.ok ()) (.lib (.nvmeCtrlGetFd c)) openedFd
        (fun fd => .nvmeNsMgmt (deleteArgs nsid fd))
        fun _ done => checkRet done.cret >>= fun _ => .ok .nothing := by
  rw [run, Controller.deleteNamespace, c.adminFd_eq, submit]
  simp only [pure_eq, bind_bind, ofExcept_ok, ret_bind, ask_bind, call_bind, liftM_eq,
    ofExcept_bind]

theorem nsAttachOp_admin (c : Controller) (nsid : U32) (controllerIds : List U16) (sel : U32) :
    ((c.nsAttachOp nsid controllerIds sel).admin >>= fun _ => .ret NsValue.nothing) =
      submit (Controller.nsAttachCheck controllerIds) (.lib (.nvmeCtrlGetFd c)) openedFd
        (fun fd => .lib (.nvmeNsAttach (nsAttachArgs nsid controllerIds sel fd)))
        fun _ r => checkRet r >>= fun _ => .ok .nothing := by
  rw [Controller.nsAttachOp, Controller.nsAttachCheck, submit]
  split_ifs with hlength
  · rfl
  · rw [Ffi.admin, via_bind]
    change (c.adminFd >>= _) >>= _ = _
    rw [c.adminFd_eq]
    simp only [bind_bind, ofExcept_ok, ret_bind, ask_bind, call_bind, liftM_eq, ofExcept_bind, via,
      via_ofExcept]

section Run
variable {σ : Type} {D : Inventories σ} {h : Handler AdminCall AdminAnswer σ}
variable (hD : D.Conforms .little h) (s : σ) {r : Except Error NsValue}
include hD

theorem step_create (c : Controller) (template : IdentifyNamespace)
    (hr : ((create c template).run.run h s).exit = .ofExcept r) :
    (create c template).Step D r s ((create c template).run.run h s).state := by
  rw [run_create] at hr ⊢
  refine (create c template).step_submit hD Decides.pass
    (fun fd => .nvmeNsMgmt (createArgs template fd)) (fun _ done => .created done.result)
    (fun _ fd s s' done hmeets => ?_) s hr
  obtain ⟨heffect, hothers⟩ := hmeets
  refine ⟨?_, hothers⟩
  change if nvmeNsMgmtSelCreate = nvmeNsMgmtSelCreate then _ else _ at heffect
  rw [if_pos rfl] at heffect
  exact heffect _ rfl

theorem step_delete (c : Controller) (nsid : U32)
    (hr : ((delete c nsid).run.run h s).exit = .ofExcept r) :
    (delete c nsid).Step D r s ((delete c nsid).run.run h s).state := by
  have hsel : ¬nvmeNsMgmtSelDelete = nvmeNsMgmtSelCreate := by decide
  rw [run_delete] at hr ⊢
  refine (delete c nsid).step_submit hD Decides.pass
    (fun fd => .nvmeNsMgmt (deleteArgs nsid fd)) (fun _ _ => .nothing)
    (fun _ fd s s' done hmeets => ?_) s hr
  obtain ⟨heffect, hothers⟩ := hmeets
  refine ⟨?_, hothers⟩
  change if nvmeNsMgmtSelDelete = nvmeNsMgmtSelCreate then _
    else if nvmeNsMgmtSelDelete = nvmeNsMgmtSelDelete then _ else _ at heffect
  rw [if_neg hsel, if_pos rfl] at heffect
  exact heffect

theorem step_attach (c : Controller) (nsid : U32) (ids : List U16)
    (hr : ((attach c nsid ids).run.run h s).exit = .ofExcept r) :
    (attach c nsid ids).Step D r s ((attach c nsid ids).run.run h s).state := by
  have hrun := nsAttachOp_admin c nsid ids nvmeNsAttachSelCtrlAttach
  change (attach c nsid ids).run = _ at hrun
  rw [hrun] at hr ⊢
  refine (attach c nsid ids).step_submit hD (Controller.nsAttachCheck_decides ids)
    (fun fd => .lib (.nvmeNsAttach (nsAttachArgs nsid ids nvmeNsAttachSelCtrlAttach fd)))
    (fun _ _ => .nothing) (fun hlength fd s s' ret hmeets => ?_) s hr
  obtain ⟨⟨hattaches, hdone, -⟩, hothers⟩ := hmeets
  refine ⟨?_, hothers⟩
  rw [nsAttachArgs, (NvmeCtrlList.ctrlList_carries hlength).listed] at hdone
  split_ifs with hzero
  · exact ⟨hattaches, hdone hzero rfl⟩
  · exact hattaches

theorem step_detach (c : Controller) (nsid : U32) (ids : List U16)
    (hr : ((detach c nsid ids).run.run h s).exit = .ofExcept r) :
    (detach c nsid ids).Step D r s ((detach c nsid ids).run.run h s).state := by
  have hrun := nsAttachOp_admin c nsid ids nvmeNsAttachSelCtrlDeattach
  change (detach c nsid ids).run = _ at hrun
  rw [hrun] at hr ⊢
  refine (detach c nsid ids).step_submit hD (Controller.nsAttachCheck_decides ids)
    (fun fd => .lib (.nvmeNsAttach (nsAttachArgs nsid ids nvmeNsAttachSelCtrlDeattach fd)))
    (fun _ _ => .nothing) (fun hlength fd s s' ret hmeets => ?_) s hr
  obtain ⟨⟨hattaches, -, hdone⟩, hothers⟩ := hmeets
  refine ⟨?_, hothers⟩
  rw [nsAttachArgs, (NvmeCtrlList.ctrlList_carries hlength).listed] at hdone
  split_ifs with hzero
  · exact ⟨hattaches, hdone hzero rfl⟩
  · exact hattaches

theorem step_of_run (op : NsOp) (hr : (op.run.run h s).exit = .ofExcept r) :
    op.Step D r s (op.run.run h s).state := by
  cases op with
  | create c template => exact step_create hD s c template hr
  | delete c nsid => exact step_delete hD s c nsid hr
  | attach c nsid ids => exact step_attach hD s c nsid ids hr
  | detach c nsid ids => exact step_detach hD s c nsid ids hr

end Run
end NsOp
end LibnvmeRs
