import LibnvmeRs.Addressing
import LibnvmeRs.FeatureStore
import LibnvmeRs.Management

/-!
# Sessions of all the commands

The commands of the plain interface, those that manage namespaces, the getters and
setters of features, and the self-test, lockdown and property commands are one type:
every method that opens a device file. A session mixes them with any other calls to
the library.
-/

namespace LibnvmeRs

open Interaction Program Sessions

namespace AdminCall

def fd? : AdminCall → Option I32
  | .lib c => c.fd?
  | .nvmeNsMgmt args => some args.fd
  | .nvmeDevSelfTest args => some args.fd
  | .nvmeLockdown args => some args.fd
  | .nvmeSetProperty args => some args.fd
  | .nvmeGetProperty args => some args.fd
  | .nvmeGetFeatures _ fd _ | .nvmeSetFeatures _ fd _ => some fd

def nsid? : AdminCall → Option U32
  | .lib c => c.nsid?
  | .nvmeNsMgmt args => some args.nsid
  | .nvmeDevSelfTest args => some args.nsid
  | _ => none

end AdminCall

inductive Command where
  | plain (op : PlainCommand)
  | namespaces (op : NsOp)
  | feature (op : FeatureOp)
  | selfTest (c : Controller) (nsid : U32) (action : SelfTestAction)
  | lockdown (c : Controller) (args : LockdownArgs)
  | setProperty (c : Controller) (offset : I32) (value : U64)
  | getProperty (c : Controller) (offset : I32)

namespace Command
variable (t : Target) (hasSanitizeEmvs : Bool)

def run : Command → Admin Unit
  | .plain op => (op.run t hasSanitizeEmvs).admin
  | .namespaces op => op.run.discard
  | .feature op => op.run.discard
  | .selfTest c nsid action => Controller.selfTest c nsid action
  | .lockdown c args => Controller.lockdown c args
  | .setProperty c offset value => Controller.setProperty c offset value
  | .getProperty c offset => (Controller.getProperty c offset).discard

def opens : Command → Device
  | .plain op => op.opens
  | .namespaces op => .ctrl op.controller
  | .feature op => .ctrl op.controller
  | .selfTest c _ _ | .lockdown c _ | .setProperty c _ _ | .getProperty c _ => .ctrl c

/-- The namespace identifier the command has to carry. -/
def nsid? : Command → Option U32
  | .plain op =>
    match op.opens with
    | .ns ns => some (Namespace.nsid ns)
    | .ctrl _ => none
  | .namespaces (.delete _ nsid) | .namespaces (.attach _ nsid _)
  | .namespaces (.detach _ nsid _) | .selfTest _ nsid _ => some nsid
  | _ => none

def Takes (op : Command) (fd : I32) (c : AdminCall) : Prop :=
  c.fd? = some fd ∧ ∀ nsid, op.nsid? = some nsid → c.nsid? = some nsid

/-- What the command does: nothing, or open its device, and then send one call down the
descriptor that opening has answered. -/
abbrev Segment (op : Command) : List (Event AdminCall AdminAnswer) → Prop :=
  LibnvmeRs.Segment (.lib op.opens.getFd) (fun r => openedFd (op.opens.getFd.reply.cret r)) op.Takes

end Command

def libEvent (ev : Event Call Answer) : Event AdminCall AdminAnswer := ⟨.lib ev.1, ev.2⟩

theorem ensures_admin {α : Type} {p : Ffi α} {Q : List (Event AdminCall AdminAnswer) → Prop}
    (hp : p.Ensures fun seg _ => Q (seg.map libEvent)) : p.admin.Ensures fun seg _ => Q seg := by
  induction p generalizing Q with
  | ret a => exact hp
  | fail e => exact hp
  | abort => exact hp
  | call c next ih =>
    exact fun r => ih r (Q := fun seg => Q (⟨.lib c, r⟩ :: seg)) (hp r)

theorem segment_plain {op : PlainCommand} {seg : List (Event Call Answer)}
    (hseg : op.opens.Segment seg) : (Command.plain op).Segment (seg.map libEvent) := by
  cases hseg with
  | nothing => exact Segment.nothing
  | opened r => exact Segment.opened (show AdminAnswer (.lib op.opens.getFd) from r)
  | sent r hfd c hc a =>
    refine Segment.sent (show AdminAnswer (.lib op.opens.getFd) from r) hfd (.lib c)
      ⟨hc.1, fun nsid hnsid => ?_⟩ a
    rw [Command.nsid?] at hnsid
    cases hopens : op.opens with
    | ns ns =>
      rw [hopens] at hnsid
      obtain rfl := Option.some.inj hnsid
      exact hc.2 ns hopens
    | ctrl c =>
      rw [hopens] at hnsid
      cases hnsid

namespace Controller
variable (c : Controller)

def submitAdmin (command : I32 → AdminCall) : Admin Unit := do
  let fd ← c.adminFd
  let a ← ask (command fd)
  checkRet ((command fd).reply.cret a)

theorem submitAdmin_segment {command : I32 → AdminCall} {takes : I32 → AdminCall → Prop}
    (hcommand : ∀ fd, takes fd (command fd)) : (c.submitAdmin command).Ensures fun seg _ =>
      LibnvmeRs.Segment (.lib (.nvmeCtrlGetFd c)) openedFd takes seg := by
  have hsubmit : c.submitAdmin command = LibnvmeRs.submit (.ok ()) (.lib (.nvmeCtrlGetFd c))
      openedFd command fun fd a => checkRet ((command fd).reply.cret a) := by
    rw [submitAdmin, c.adminFd_eq, LibnvmeRs.submit]
    simp only [bind_bind, ofExcept_ok, ret_bind, liftM_eq]
  rw [hsubmit]
  exact submit_segment _ _ _ _ _ hcommand

theorem getProperty_discard (offset : I32) : (c.getProperty offset).discard =
    c.submitAdmin fun fd => .nvmeGetProperty (getPropertyArgs offset fd) := by
  rw [getProperty, submitAdmin]
  simp only [pure_eq, discard_bind, discard_ret, bind_ret_unit]
  rfl

end Controller

namespace Command

theorem segment_namespaces (op : NsOp) :
    op.run.Ensures fun seg _ => (Command.namespaces op).Segment seg := by
  cases op with
  | create c template =>
    rw [NsOp.run_create]
    exact submit_segment _ _ _ _ _ fun fd => ⟨rfl, nofun⟩
  | delete c nsid =>
    rw [NsOp.run_delete]
    refine submit_segment _ _ _ _ _ fun fd => ⟨rfl, ?_⟩
    rintro _ ⟨⟩
    rfl
  | attach c nsid ids =>
    have hrun := NsOp.nsAttachOp_admin c nsid ids nvmeNsAttachSelCtrlAttach
    change (NsOp.attach c nsid ids).run = _ at hrun
    rw [hrun]
    refine submit_segment _ _ _ _ _ fun fd => ⟨rfl, ?_⟩
    rintro _ ⟨⟩
    rfl
  | detach c nsid ids =>
    have hrun := NsOp.nsAttachOp_admin c nsid ids nvmeNsAttachSelCtrlDeattach
    change (NsOp.detach c nsid ids).run = _ at hrun
    rw [hrun]
    refine submit_segment _ _ _ _ _ fun fd => ⟨rfl, ?_⟩
    rintro _ ⟨⟩
    rfl

theorem segment_feature (op : FeatureOp) :
    op.run.Ensures fun seg _ => (Command.feature op).Segment seg := by
  cases op with
  | get c which sel =>
    rw [FeatureOp.run_get]
    exact submit_segment _ _ _ _ _ fun fd => ⟨rfl, nofun⟩
  | set c which save =>
    rw [FeatureOp.run_set]
    exact submit_segment _ _ _ _ _ fun fd => ⟨rfl, nofun⟩
  | getHostId c sel exhid hostid =>
    rw [FeatureOp.run_getHostId]
    exact submit_segment _ _ _ _ _ fun fd => ⟨rfl, nofun⟩
  | setHostId c exhid save hostid =>
    rw [FeatureOp.run_setHostId]
    exact submit_segment _ _ _ _ _ fun fd => ⟨rfl, nofun⟩
  | reset c =>
    rw [FeatureOp.run_reset]
    exact submit_segment _ _ _ _ _ fun fd => ⟨rfl, nofun⟩

theorem segment (t : Target) (hasSanitizeEmvs : Bool) (op : Command) :
    (op.run t hasSanitizeEmvs).Ensures fun seg _ => op.Segment seg := by
  cases op with
  | plain op =>
    exact ensures_admin ((op.segment t hasSanitizeEmvs).mono fun _ _ => segment_plain)
  | namespaces op => exact ensures_discard.mpr (segment_namespaces op)
  | feature op => exact ensures_discard.mpr (segment_feature op)
  | selfTest c nsid action =>
    refine c.submitAdmin_segment fun fd => ⟨rfl, ?_⟩
    rintro _ ⟨⟩
    rfl
  | lockdown c args => exact c.submitAdmin_segment fun fd => ⟨rfl, nofun⟩
  | setProperty c offset value => exact c.submitAdmin_segment fun fd => ⟨rfl, nofun⟩
  | getProperty c offset =>
    rw [run, Controller.getProperty_discard]
    exact c.submitAdmin_segment fun fd => ⟨rfl, nofun⟩

end Command

inductive CommandAction where
  | command (op : Command)
  | other (c : AdminCall)

def commandStep (t : Target) (hasSanitizeEmvs : Bool) (log : List (Except Error Unit)) :
    CommandAction → Admin (List (Except Error Unit))
  | .command op => do
    let r ← (op.run t hasSanitizeEmvs).attempt
    return log ++ [r]
  | .other c => do
    let _ ← ask c
    return log

def CommandAction.Segment : CommandAction → List (Event AdminCall AdminAnswer) → Prop
  | .command op, seg => op.Segment seg
  | .other c, seg => ∃ r, seg = [⟨c, r⟩]

/-- The calls of a session are those of its actions one after the other, and those of a
command open its own device and go down the descriptor of that opening. -/
theorem commands_addressed (t : Target) (hasSanitizeEmvs : Bool) (l : List CommandAction)
    {σ : Type} (h : Handler AdminCall AdminAnswer σ) (s : σ) :
    ∃ segs, ((session (commandStep t hasSanitizeEmvs) l []).run h s).trace = segs.flatten ∧
      List.Forall₂ CommandAction.Segment (l.take segs.length) segs := by
  refine session_segments (fun log a s => ?_) l [] s
  cases a with
  | command op =>
    have hsegment := (op.segment t hasSanitizeEmvs).run h s
    have htrace : ((commandStep t hasSanitizeEmvs log (.command op)).run h s).trace =
        ((op.run t hasSanitizeEmvs).run h s).trace :=
      (congrArg Outcome.trace (run_bind_ret h s _ fun r => log ++ [r])).trans
        (run_attempt h s _).1
    rw [htrace]
    exact hsegment
  | other c => exact ⟨(h c s).1, rfl⟩

end LibnvmeRs
