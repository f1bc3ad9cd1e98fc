import LibnvmeRs.BlockDevices
import LibnvmeRs.Disconnect
import LibnvmeRs.ReturnCodes

/-!
# Where commands go

Every operation opens the device file anew and sends its one command down the
descriptor it was given. A command of a namespace carries the identifier of that
namespace as well. In a session of many operations on many handles none of them
ends up at the device of another.
-/

namespace LibnvmeRs

open Interaction Program Sessions

namespace Call

def fd? : Call → Option I32
  | .nvmeIo args _ => some args.fd
  | .nvmeDsm args => some args.fd
  | .nvmeCopy args => some args.fd
  | .nvmeResvAcquire args => some args.fd
  | .nvmeResvRegister args => some args.fd
  | .nvmeResvRelease args => some args.fd
  | .nvmeResvReport args => some args.fd
  | .nvmeZnsMgmtSend args => some args.fd
  | .nvmeZnsMgmtRecv args => some args.fd
  | .nvmeZnsAppend args => some args.fd
  | .nvmeDirectiveSend args | .nvmeDirectiveRecv args => some args.fd
  | .nvmeAdminPassthru args | .nvmeIoPassthru args => some args.fd
  | .nvmeSecuritySend args => some args.fd
  | .nvmeSecurityReceive args => some args.fd
  | .nvmeGetLbaStatus args => some args.fd
  | .nvmeGetLog args => some args.fd
  | .nvmeFwDownloadSeq args => some args.fd
  | .nvmeNsAttach args => some args.fd
  | .nvmeFormatNvm args => some args.fd
  | .nvmeSanitizeNvm args => some args.fd
  | .nvmeFwCommit args => some args.fd
  | .nvmeGetFeaturesHostId fd .. | .nvmeSetFeaturesHostId fd .. | .nvmeCtrlReset fd => some fd
  | _ => none

def nsid? : Call → Option U32
  | .nvmeIo args _ => some args.nsid
  | .nvmeDsm args => some args.nsid
  | .nvmeCopy args => some args.nsid
  | .nvmeResvAcquire args => some args.nsid
  | .nvmeResvRegister args => some args.nsid
  | .nvmeResvRelease args => some args.nsid
  | .nvmeResvReport args => some args.nsid
  | .nvmeZnsMgmtSend args => some args.nsid
  | .nvmeZnsMgmtRecv args => some args.nsid
  | .nvmeZnsAppend args => some args.nsid
  | .nvmeDirectiveSend args | .nvmeDirectiveRecv args => some args.nsid
  | .nvmeAdminPassthru args | .nvmeIoPassthru args => some args.nsid
  | .nvmeSecuritySend args => some args.nsid
  | .nvmeSecurityReceive args => some args.nsid
  | .nvmeGetLbaStatus args => some args.nsid
  | .nvmeGetLog args => some args.nsid
  | .nvmeNsAttach args => some args.nsid
  | .nvmeFormatNvm args => some args.nsid
  | _ => none

end Call

def Device.Takes (d : Device) (fd : I32) (c : Call) : Prop :=
  c.fd? = some fd ∧ ∀ ns, d = .ns ns → c.nsid? = some (Namespace.nsid ns)

/-- What an operation on the device does: nothing, or open it, and then send it one
command down the descriptor it has answered. -/
abbrev Device.Segment (d : Device) : List (Event Call Answer) → Prop :=
  LibnvmeRs.Segment d.getFd (fun r => openedFd (d.getFd.reply.cret r)) d.Takes

theorem request_segment {check ready : Exit Error Unit} {device : Device} {command : I32 → Call}
    (hcommand : ∀ fd, device.Takes fd (command fd)) :
    (request check device ready command).program.Ensures fun seg _ => device.Segment seg := by
  rw [Submission.ensures_iff]
  refine ⟨fun _ => Segment.nothing, fun _ r => ⟨fun _ _ => Segment.opened r, fun fd hfd => ?_⟩⟩
  exact ⟨fun _ => Segment.opened r, fun _ a => Segment.sent r hfd (command fd) (hcommand fd) a⟩

theorem Namespace.readToVecRead_ns (t : Target) (ns : Namespace) (slba : U64) (nlb : U32) :
    ((ns.readToVecRead t slba nlb).getD (DataIo.new ns slba nlb .empty)).ns = ns := by
  by_cases hlen : nlb.toNat * ns.lbaSize.toNat ≤ t.allocLimit
  · rw [ns.readToVecRead_ok t slba hlen]
    rfl
  · rw [ns.readToVecRead_aborted t slba hlen]
    rfl

theorem Sanitize.takes (hasSanitizeEmvs : Bool) (b : Sanitize) (fd : I32) :
    (Device.ctrl b.ctrl).Takes fd (.nvmeSanitizeNvm (b.args hasSanitizeEmvs fd)) := by
  refine ⟨?_, fun ns hns => by cases hns⟩
  cases hasSanitizeEmvs <;> rfl

theorem DeviceOp.takes (t : Target) (op : DeviceOp) (fd : I32) :
    op.device.Takes fd ((op.request t).command fd) := by
  cases op with
  | read b | write b | compare b =>
    obtain ⟨hfd, hnsid, -⟩ := DataIo.args_io b (asU16 (b.nlb.toNat - 1)) fd
    refine ⟨congrArg some hfd, ?_⟩
    rintro ns ⟨⟩
    exact congrArg some hnsid
  | readToVec ns slba nlb =>
    have hns := ns.readToVecRead_ns t slba nlb
    obtain ⟨hfd, hnsid, -⟩ := DataIo.args_io
      ((ns.readToVecRead t slba nlb).getD (DataIo.new ns slba nlb .empty))
      (asU16 (nlb.toNat - 1)) fd
    refine ⟨congrArg some hfd, ?_⟩
    rintro _ ⟨⟩
    rw [hns] at hnsid
    exact congrArg some hnsid
  | adminPassthru | ioPassthru | securitySend | securityReceive | getLbaStatus | getLogPage
  | errorLog | fwDownload | attachNamespace | detachNamespace | getHostId | setHostId =>
    exact ⟨rfl, fun ns hns => by cases hns⟩
  | _ =>
    refine ⟨rfl, ?_⟩
    rintro ns ⟨⟩
    rfl

inductive PlainCommand where
  | device (op : DeviceOp)
  | reservation (op : Reservation)
  | flush (ns : Namespace)
  | sanitize (b : Sanitize)
  | fwCommit (c : Controller) (slot : U8) (action : FirmwareAction) (bpid : Bool)
  | reset (c : Controller)

namespace PlainCommand
variable (t : Target) (hasSanitizeEmvs : Bool)

def run : PlainCommand → Ffi Unit
  | .device op => op.run t
  | .reservation op => op.run t
  | .flush ns => ns.flush
  | .sanitize b => (b.execute hasSanitizeEmvs).discard
  | .fwCommit c slot action bpid => c.fwCommit slot action bpid
  | .reset c => Controller.reset c

def opens : PlainCommand → Device
  | .device op => op.device
  | .reservation op => .ns op.ns
  | .flush ns => .ns ns
  | .sanitize b => .ctrl b.ctrl
  | .fwCommit c _ _ _ => .ctrl c
  | .reset c => .ctrl c

theorem segment (op : PlainCommand) :
    (op.run t hasSanitizeEmvs).Ensures fun seg _ => op.opens.Segment seg := by
  cases op with
  | device op =>
    by_cases hidle : op.Idle
    · rw [run, op.run_idle t hidle]
      exact .nothing
    · rw [run, op.run_eq t hidle, op.request_device]
      exact request_segment (op.takes t)
  | reservation op =>
    rw [run, op.run_eq]
    refine request_segment fun fd => ?_
    cases op <;> exact ⟨rfl, fun ns hns => by cases hns; rfl⟩
  | flush ns =>
    have hrun : ns.flush.discard = (request (.ok ()) (.ns ns) (.ok ())
        fun fd => .nvmeIoPassthru (flushCommand ns fd)).program := discard_unit _
    rw [run, ← discard_unit ns.flush, hrun]
    refine request_segment fun fd => ⟨rfl, ?_⟩
    rintro _ ⟨⟩
    rfl
  | sanitize b =>
    rw [run, b.execute_discard]
    exact request_segment (b.takes hasSanitizeEmvs)
  | fwCommit c slot action bpid =>
    rw [run, ← discard_unit (c.fwCommit slot action bpid), c.fwCommit_discard]
    exact request_segment fun fd => ⟨rfl, fun ns hns => by cases hns⟩
  | reset c =>
    have hrun : (Controller.reset c).discard =
        (Controller.request c fun fd => .nvmeCtrlReset fd).program := discard_unit _
    rw [run, ← discard_unit (Controller.reset c), hrun]
    exact request_segment fun fd => ⟨rfl, fun ns hns => by cases hns⟩

end PlainCommand

end LibnvmeRs
