import LibnvmeRs.Interaction
import LibnvmeRs.Args

/-!
# The interface of libnvme

Every foreign call the modelled operations make, with the shape of its answer.
The wrapper decides nothing about these calls: a run is taken against an
arbitrary handler, so what is proved holds for every library and every device
behind it.

A call is effectful when it opens a device file, submits a command, or creates
or changes a controller or host object. Reading the handle tree, filling a
structure of the caller, and handing out or freeing memory are not.
-/

namespace LibnvmeRs

open Interaction Program ByteOrder

inductive CtrlString where
  | dhchapHostKey
  | dhchapKey
  | tlsKey
  | tlsKeyIdentity
  | keyring
  deriving DecidableEq, Repr

inductive CtrlGetter where
  | name
  | model
  | serial
  | firmware
  | transport
  | address
  | state
  | numaNode
  | queueCount
  | sqsize
  | physSlot
  | subsysnqn
  | traddr
  | trsvcid
  | hostTraddr
  | hostIface
  deriving DecidableEq, Repr

inductive CtrlFlag where
  | discoveryCtrl
  | discovered
  | uniqueDiscoveryCtrl
  | persistent
  deriving DecidableEq, Repr

inductive HostText where
  | nvmfHostnqnGenerate
  | nvmfHostidGenerate
  | nvmfHostnqnFromFile
  | nvmfHostidFromFile
  deriving DecidableEq, Repr

inductive PathParent where
  | controller (c : NvmeCtrl)
  | namespace (n : NvmeNs)
  deriving DecidableEq

/-- The child lists of the handle tree, each with a function for the first child
and one for the child after a given one. -/
inductive Link where
  | host
  | subsystem
  | ctrl
  | ns
  | path
  deriving DecidableEq, Repr

namespace Link

@[reducible] def Parent : Link → Type
  | .host => NvmeRoot
  | .subsystem => NvmeHost
  | .ctrl => NvmeSubsystem
  | .ns => NvmeCtrl
  | .path => PathParent

@[reducible] def Child : Link → Type
  | .host => NvmeHost
  | .subsystem => NvmeSubsystem
  | .ctrl => NvmeCtrl
  | .ns => NvmeNs
  | .path => NvmePath

instance (k : Link) : DecidableEq k.Child := by
  cases k <;> infer_instance

end Link

inductive Call where
  | nvmeNsGetFd (ns : NvmeNs)
  | nvmeCtrlGetFd (c : NvmeCtrl)
  | nvmeIo (args : NvmeIoArgs) (opcode : U8)
  | nvmeDsm (args : NvmeDsmArgs)
  | nvmeCopy (args : NvmeCopyArgs)
  | nvmeResvAcquire (args : NvmeResvAcquireArgs)
  | nvmeResvRegister (args : NvmeResvRegisterArgs)
  | nvmeResvRelease (args : NvmeResvReleaseArgs)
  | nvmeResvReport (args : NvmeResvReportArgs)
  | nvmeZnsMgmtSend (args : NvmeZnsMgmtSendArgs)
  | nvmeZnsMgmtRecv (args : NvmeZnsMgmtRecvArgs)
  | nvmeZnsAppend (args : NvmeZnsAppendArgs)
  | nvmeDirectiveSend (args : NvmeDirectiveArgs)
  | nvmeDirectiveRecv (args : NvmeDirectiveArgs)
  | nvmeAdminPassthru (args : NvmePassthru)
  | nvmeIoPassthru (args : NvmePassthru)
  | nvmeSecuritySend (args : NvmeSecuritySendArgs)
  | nvmeSecurityReceive (args : NvmeSecurityReceiveArgs)
  | nvmeGetLbaStatus (args : NvmeGetLbaStatusArgs)
  | nvmeGetLog (args : NvmeGetLogArgs)
  | nvmeFwDownloadSeq (args : NvmeFwDownloadSeq)
  | nvmeNsAttach (args : NvmeNsAttachArgs)
  | nvmeFormatNvm (args : NvmeFormatNvmArgs)
  | nvmeSanitizeNvm (args : NvmeSanitizeNvmArgs)
  | nvmeFwCommit (args : NvmeFwCommitArgs)
  | nvmeGetFeaturesHostId (fd : I32) (sel : U32) (exhid : Bool) (len : U32) (hostid : Slice)
  | nvmeSetFeaturesHostId (fd : I32) (exhid save : Bool) (hostid : Slice)
  | nvmeCreateCtrl (args : NvmeCreateCtrl)
  | nvmeCtrlSetDiscoveryCtrl (c : NvmeCtrl) (discovery : Bool)
  | nvmeCtrlSetUniqueDiscoveryCtrl (c : NvmeCtrl) (unique : Bool)
  | nvmeCtrlSetPersistent (c : NvmeCtrl) (persistent : Bool)
  | nvmfDefaultConfig (cfg : NvmeFabricsConfig)
  | nvmfAddCtrl (h : NvmeHost) (c : NvmeCtrl) (cfg : NvmeFabricsConfig)
  | nvmeLookupHost (r : NvmeRoot) (hostnqn : CString) (hostid : Option CString)
  | nvmeCtrlSetString (which : CtrlString) (c : NvmeCtrl) (value : CString)
  | nvmeCtrlGetString (which : CtrlGetter) (c : NvmeCtrl)
  | nvmeCtrlIs (which : CtrlFlag) (c : NvmeCtrl)
  | nvmeCtrlIdentify (c : NvmeCtrl)
  | nvmeCtrlReset (fd : I32)
  | nvmeDisconnectCtrl (c : NvmeCtrl)
  | nvmeFreeCtrl (c : NvmeCtrl)
  | nvmeFirst (k : Link) (parent : k.Parent)
  | nvmeNext (k : Link) (parent : k.Parent) (current : k.Child)
  | nvmfHostText (which : HostText)
  | nvmfGetDiscoveryLog (c : NvmeCtrl) (maxRetries : I32)
  | free (ptr : Option ℕ)

/-- What a submitted command leaves behind: its return code, its result and the
bytes stored at the data and metadata pointers. -/
structure Done (ρ : Type) where
  cret : CRet
  result : ρ
  data : List Byte
  metadata : List Byte
  deriving Inhabited

structure Pointer where
  value : Option ℕ
  errno : I32
  deriving Inhabited

structure OwnedText where
  value : Option (ℕ × CString)
  errno : I32
  deriving Inhabited

structure LogAnswer where
  cret : CRet
  logp : Option (ℕ × NvmfDiscoveryLog)
  deriving Inhabited

inductive Reply where
  | status
  | plain
  | dword
  | qword
  | pointer
  | config
  | nothing
  | text
  | borrowed
  | flag
  | child (k : Link)
  | log
  deriving DecidableEq, Repr

namespace Reply

@[reducible] def Value : Reply → Type
  | .status => CRet
  | .plain => Done Unit
  | .dword => Done U32
  | .qword => Done U64
  | .pointer => Pointer
  | .config => NvmeFabricsConfig
  | .nothing => Unit
  | .text => OwnedText
  | .borrowed => Option CString
  | .flag => Bool
  | .child k => Option k.Child
  | .log => LogAnswer

def cret : (k : Reply) → k.Value → CRet
  | .status, r => r
  | .plain, r => r.cret
  | .dword, r => r.cret
  | .qword, r => r.cret
  | .log, r => r.cret
  | .pointer, _ | .config, _ | .nothing, _ | .text, _ | .borrowed, _ | .flag, _
  | .child _, _ => ⟨0, 0⟩

def isNull : (k : Reply) → k.Value → Prop
  | .pointer, r => r.value = none
  | .text, r => r.value = none
  | .borrowed, r => r = none
  | .log, r => r.logp = none
  | _, _ => False

def failed (k : Reply) (r : k.Value) : Prop := (k.cret r).ret.slt 0 = true ∨ k.isNull r

end Reply

namespace Call

@[reducible] def reply : Call → Reply
  | .nvmeNsGetFd _ | .nvmeCtrlGetFd _ | .nvmeFwDownloadSeq _ | .nvmeNsAttach _
  | .nvmeFormatNvm _ | .nvmeFwCommit _ | .nvmeSetFeaturesHostId .. | .nvmfAddCtrl ..
  | .nvmeCtrlReset _ | .nvmeDisconnectCtrl _ => .status
  | .nvmeGetLog _ | .nvmeGetFeaturesHostId .. | .nvmeCtrlIdentify _ => .plain
  | .nvmeIo .. | .nvmeDsm _ | .nvmeCopy _ | .nvmeResvAcquire _ | .nvmeResvRegister _
  | .nvmeResvRelease _ | .nvmeResvReport _ | .nvmeZnsMgmtSend _ | .nvmeZnsMgmtRecv _
  | .nvmeDirectiveSend _ | .nvmeDirectiveRecv _ | .nvmeAdminPassthru _ | .nvmeIoPassthru _
  | .nvmeSecuritySend _ | .nvmeSecurityReceive _ | .nvmeGetLbaStatus _
  | .nvmeSanitizeNvm _ => .dword
  | .nvmeZnsAppend _ => .qword
  | .nvmeCreateCtrl _ | .nvmeLookupHost .. => .pointer
  | .nvmfDefaultConfig _ => .config
  | .nvmeCtrlSetDiscoveryCtrl .. | .nvmeCtrlSetUniqueDiscoveryCtrl ..
  | .nvmeCtrlSetPersistent .. | .nvmeCtrlSetString .. | .nvmeFreeCtrl _ | .free _ => .nothing
  | .nvmeCtrlGetString .. => .borrowed
  | .nvmeCtrlIs .. => .flag
  | .nvmeFirst k _ | .nvmeNext k _ _ => .child k
  | .nvmfHostText _ => .text
  | .nvmfGetDiscoveryLog .. => .log

def effectful : Call → Bool
  | .nvmfDefaultConfig _ | .nvmeCtrlGetString .. | .nvmeCtrlIs .. | .nvmeFirst .. | .nvmeNext ..
  | .nvmfHostText _ | .free _ => false
  | _ => true

end Call

abbrev Answer (c : Call) := c.reply.Value

def Reply.zero : (k : Reply) → k.Value
  | .status => default
  | .plain => default
  | .dword => default
  | .qword => default
  | .pointer => default
  | .config => {}
  | .nothing => ()
  | .text => default
  | .borrowed => none
  | .flag => false
  | .child _ => none
  | .log => default

instance (k : Reply) : Nonempty k.Value := ⟨k.zero⟩

abbrev Ffi (α : Type) := Program Error Call Answer α

/-- Turned away before any call, whatever libnvme would have answered. -/
def Refused {α : Type} (p : Ffi α) : Prop :=
  ∀ (σ : Type) (h : Handler Call Answer σ) (s : σ),
    (p.run h s).calls = [] ∧ ∃ m, (p.run h s).exit = .error (.invalidArgument m)

theorem Refused.exists_stopped {α : Type} {p : Ffi α} (hp : Refused p) :
    ∃ h : Handler Call Answer Unit, (p.run h ()).calls = [] := by
  have anyHandler : Handler Call Answer Unit := fun c s => (c.reply.zero, s)
  exact ⟨anyHandler, (hp Unit anyHandler ()).1⟩

theorem refused_discard {α : Type} {p : Ffi α} : Refused p.discard ↔ Refused p := by
  simp only [Refused, Outcome.calls, run_discard, Exit.map_eq_error]

/-- The part of the machine and of the build the code depends on. -/
structure Target where
  endian : Endian
  allocLimit : ℕ
  allocLimit_le : allocLimit ≤ isizeMax
  hasUniqueDiscoveryCtrl : Bool

def littleHost : Target :=
  { endian := .little
    allocLimit := isizeMax
    allocLimit_le := Nat.le_refl _
    hasUniqueDiscoveryCtrl := true }

/-- `vec![0u8; n]`: a request the allocator refuses ends the process. -/
def Target.alloc (t : Target) (n : ℕ) : Exit Error Slice :=
  if h : n ≤ t.allocLimit then .ok (.zeros n (Nat.le_trans h t.allocLimit_le)) else .aborted

theorem Target.alloc_ok (t : Target) {n : ℕ} (hn : n ≤ t.allocLimit) :
    t.alloc n = .ok (.zeros n (Nat.le_trans hn t.allocLimit_le)) := dif_pos hn

theorem Target.alloc_aborted (t : Target) {n : ℕ} (hn : ¬n ≤ t.allocLimit) :
    t.alloc n = .aborted := dif_neg hn

def openedFd (r : CRet) : Except Error I32 :=
  if r.ret.slt 0 then .error (.os r.lastOsError) else .ok r.ret

theorem openedFd_error {r : CRet} {e : Error} (he : openedFd r = .error e) :
    r.ret.slt 0 = true ∧ e = .os r.lastOsError := by
  unfold openedFd at he
  split at he
  · exact ⟨by assumption, (Except.error.inj he).symm⟩
  · cases he

inductive Device where
  | ns (n : NvmeNs)
  | ctrl (c : NvmeCtrl)

@[reducible] def Device.getFd : Device → Call
  | .ns n => .nvmeNsGetFd n
  | .ctrl c => .nvmeCtrlGetFd c

theorem Device.exists_answer (d : Device) (r : CRet) :
    ∃ a : Answer d.getFd, d.getFd.reply.cret a = r := by
  cases d <;> exact ⟨r, rfl⟩

abbrev Request := Submission Error Call Answer I32

/-- The shape of a device operation: check the arguments, open, prepare, send one
command, classify its return code. -/
def request (check : Exit Error Unit) (device : Device) (ready : Exit Error Unit)
    (command : I32 → Call) : Request where
  check := check
  device := device.getFd
  opened r := openedFd (device.getFd.reply.cret r)
  ready := ready
  command := command
  finish fd r := checkRet ((command fd).reply.cret r)

section Request
variable {α : Type} (device : Device) (command : I32 → Call)

theorem request_unchecked (result : (fd : I32) → Answer (command fd) → α) :
    (do
      let r ← ask device.getFd
      let fd ← ofExcept (openedFd (device.getFd.reply.cret r))
      let a ← ask (command fd)
      ofExcept (checkRet ((command fd).reply.cret a))
      return result fd a : Ffi α).discard = (request (.ok ()) device (.ok ()) command).program := by
  simp only [pure_eq, discard_bind, discard_ret, bind_ret_unit]
  rfl

theorem request_prepared {β : Type} (prep : Exit Error β) (d : β) (command : β → I32 → Call)
    (result : (b : β) → (fd : I32) → Answer (command b fd) → α) :
    (do
      let r ← ask device.getFd
      let fd ← ofExcept (openedFd (device.getFd.reply.cret r))
      let b ← ofExit prep
      let a ← ask (command b fd)
      ofExcept (checkRet ((command b fd).reply.cret a))
      return result b fd a : Ffi α).discard =
        (request (.ok ()) device (prep.map fun _ => ()) (command (prep.getD d))).program := by
  simp only [pure_eq, discard_bind, discard_ret, bind_ret_unit]
  cases prep <;> rfl

theorem request_checked (check : Except Error Unit) :
    (request (.ofExcept check) device (.ok ()) command).program =
      ofExcept check >>= fun _ => (request (.ok ()) device (.ok ()) command).program := by
  rw [Submission.program, request, ofExit_ofExcept]
  rfl

theorem openedFd_ok_iff {r : CRet} {fd : I32} :
    openedFd r = .ok fd ↔ r.ret.slt 0 = false ∧ r.ret = fd := by
  unfold openedFd
  split <;> simp_all

theorem request_onlyCalls {check ready : Exit Error Unit} {P : Call → Prop} :
    (request check device ready command).program.OnlyCalls P ↔
      (check = .ok () → P device.getFd ∧
        (ready = .ok () → ∀ fd : I32, fd.slt 0 = false → P (command fd))) := by
  rw [Submission.onlyCalls_iff]
  refine imp_congr_right fun _ => and_congr_right fun _ => ?_
  constructor
  · intro hsend hready fd hfd
    obtain ⟨a, ha⟩ := device.exists_answer ⟨fd, 0⟩
    exact hsend a fd (openedFd_ok_iff.mpr (by simpa [ha] using hfd)) hready
  · intro hsend r fd hr hready
    obtain ⟨hfd, rfl⟩ := openedFd_ok_iff.mp hr
    exact hsend hready _ hfd

theorem request_onlySent {check : Except Error Unit} {P : Prop} (hcheck : Decides check P)
    {A : Type} (read : Call → Option A) {sent : I32 → A} (hopen : read device.getFd = none)
    (hsent : ∀ fd, read (command fd) = some (sent fd)) {Q : A → Prop} :
    ((request (.ofExcept check) device (.ok ()) command).program.OnlyCalls fun c =>
      ∀ a, read c = some a → Q a) ↔ (P → ∀ fd : I32, fd.slt 0 = false → Q (sent fd)) := by
  rw [request_onlyCalls, Exit.ofExcept_eq_ok, hcheck.ok_iff]
  refine imp_congr_right fun _ => ?_
  constructor
  · intro h fd hfd
    exact h.2 rfl fd hfd _ (hsent fd)
  · intro h
    refine ⟨fun a ha => ?_, fun _ fd hfd a ha => ?_⟩
    · rw [hopen] at ha
      cases ha
    · rw [hsent fd] at ha
      obtain rfl := Option.some.inj ha
      exact h fd hfd

def Device.openThen {σ : Type} (h : Handler Call Answer σ) (s : σ) : List Call :=
  match openedFd (device.getFd.reply.cret (h device.getFd s).1) with
  | .error _ => [device.getFd]
  | .ok fd => [device.getFd, command fd]

theorem request_calls {σ : Type} (h : Handler Call Answer σ) (s : σ) :
    ((request (.ok ()) device (.ok ()) command).program.run h s).calls =
      device.openThen command h s := by
  rw [Submission.program, request, Device.openThen]
  simp only [ofExit_ok, ret_bind, ask_bind, run_call, Submission.send, Outcome.calls]
  cases openedFd (device.getFd.reply.cret (h device.getFd s).1) with
  | error e => rfl
  | ok fd =>
    simp only [ofExcept_ok, ret_bind, run_call, List.map_cons]
    cases checkRet _ <;> rfl

end Request
end LibnvmeRs
