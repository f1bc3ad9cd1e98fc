import LibnvmeRs.NamespaceCommands

/-!
# Reservations

Acquire, Register and Release carry no buffer, so nothing is checked before they go
out. `execute_to_vec` of a Report brings a page of its own, which is large enough for
the check `execute` makes.
-/

namespace LibnvmeRs

open Interaction Program

inductive ReservationType where
  | writeExclusive
  | exclusiveAccess
  | writeExclusiveRegistrantsOnly
  | exclusiveAccessRegistrantsOnly
  | writeExclusiveAllRegistrants
  | exclusiveAccessAllRegistrants
  deriving DecidableEq, Repr

def ReservationType.asRaw : ReservationType → U32
  | .writeExclusive => 1
  | .exclusiveAccess => 2
  | .writeExclusiveRegistrantsOnly => 3
  | .exclusiveAccessRegistrantsOnly => 4
  | .writeExclusiveAllRegistrants => 5
  | .exclusiveAccessAllRegistrants => 6

inductive ReservationAcquireAction where
  | acquire
  | preempt
  | preemptAndAbort
  deriving DecidableEq, Repr

def ReservationAcquireAction.asRaw : ReservationAcquireAction → U32
  | .acquire => 0
  | .preempt => 1
  | .preemptAndAbort => 2

inductive ReservationRegisterAction where
  | register
  | unregister
  | replace
  deriving DecidableEq, Repr

def ReservationRegisterAction.asRaw : ReservationRegisterAction → U32
  | .register => 0
  | .unregister => 1
  | .replace => 2

inductive ReservationReleaseAction where
  | release
  | clear
  deriving DecidableEq, Repr

def ReservationReleaseAction.asRaw : ReservationReleaseAction → U32
  | .release => 0
  | .clear => 1

inductive PtplChange where
  | noChange
  | clear
  | persist
  deriving DecidableEq, Repr

def PtplChange.asRaw : PtplChange → U32
  | .noChange => 0
  | .clear => 2
  | .persist => 3

structure ReservationAcquire where
  ns : Namespace
  crkey : U64 := 0
  nrkey : U64 := 0
  rtype : ReservationType := .writeExclusive
  action : ReservationAcquireAction := .acquire
  iekey : Bool := false
  timeoutMs : U32 := 0

structure ReservationRegister where
  ns : Namespace
  crkey : U64 := 0
  nrkey : U64 := 0
  action : ReservationRegisterAction := .register
  cptpl : PtplChange := .noChange
  iekey : Bool := false
  timeoutMs : U32 := 0

structure ReservationRelease where
  ns : Namespace
  crkey : U64 := 0
  rtype : ReservationType := .writeExclusive
  action : ReservationReleaseAction := .release
  iekey : Bool := false
  timeoutMs : U32 := 0

def sizeofNvmeResvAcquireArgs : I32 := 56
def sizeofNvmeResvRegisterArgs : I32 := 56
def sizeofNvmeResvReleaseArgs : I32 := 48

def ReservationAcquire.args (b : ReservationAcquire) (fd : I32) : NvmeResvAcquireArgs :=
  { crkey := b.crkey
    nrkey := b.nrkey
    argsSize := sizeofNvmeResvAcquireArgs
    fd := fd
    timeout := b.timeoutMs
    nsid := b.ns.nsid
    rtype := b.rtype.asRaw
    racqa := b.action.asRaw
    iekey := b.iekey }

def ReservationRegister.args (b : ReservationRegister) (fd : I32) : NvmeResvRegisterArgs :=
  { crkey := b.crkey
    nrkey := b.nrkey
    argsSize := sizeofNvmeResvRegisterArgs
    fd := fd
    timeout := b.timeoutMs
    nsid := b.ns.nsid
    rrega := b.action.asRaw
    cptpl := b.cptpl.asRaw
    iekey := b.iekey }

def ReservationRelease.args (b : ReservationRelease) (fd : I32) : NvmeResvReleaseArgs :=
  { crkey := b.crkey
    argsSize := sizeofNvmeResvReleaseArgs
    fd := fd
    timeout := b.timeoutMs
    nsid := b.ns.nsid
    rtype := b.rtype.asRaw
    rrela := b.action.asRaw
    iekey := b.iekey }

def ReservationAcquire.execute (b : ReservationAcquire) : Ffi U32 := do
  let fd ← nsFd b.ns
  let done ← ask (Call.nvmeResvAcquire (b.args fd))
  checkRet done.cret
  return done.result

def ReservationRegister.execute (b : ReservationRegister) : Ffi U32 := do
  let fd ← nsFd b.ns
  let done ← ask (Call.nvmeResvRegister (b.args fd))
  checkRet done.cret
  return done.result

def ReservationRelease.execute (b : ReservationRelease) : Ffi U32 := do
  let fd ← nsFd b.ns
  let done ← ask (Call.nvmeResvRelease (b.args fd))
  checkRet done.cret
  return done.result

def ReservationReport.executeToVec (t : Target) (b : ReservationReport) : Ffi Slice := do
  let buf ← ofExit (t.alloc 4096)
  let done ← ReservationReport.execute { b with buf := some buf }
  return done.2

section
variable {t : Target} (b : ReservationReport)

theorem ReservationReport.executeToVec_granted (hlen : 4096 ≤ t.allocLimit) :
    b.executeToVec t = ReservationReport.execute
      { b with buf := some (.zeros 4096 (Nat.le_trans hlen t.allocLimit_le)) } >>=
        fun done => .ret done.2 := by
  rw [executeToVec, t.alloc_ok hlen, ofExit_ok, ret_bind]
  simp only [pure_eq]

theorem ReservationReport.executeToVec_aborts (hlen : ¬4096 ≤ t.allocLimit) :
    b.executeToVec t = .abort := by
  rw [executeToVec, t.alloc_aborted hlen]
  rfl

theorem ReservationReport.check_page {buf : Slice} (hbuf : buf.length = 4096) :
    ReservationReport.check { b with buf := some buf } = .ok () := by
  have hheader : sizeofNvmeResvStatus ≤ buf.length := by
    rw [hbuf, sizeofNvmeResvStatus]
    omega
  exact (ReservationReport.check_decides _).ok_iff.mpr ⟨buf, rfl, hheader⟩

end

inductive Reservation where
  | acquire (b : ReservationAcquire)
  | register (b : ReservationRegister)
  | release (b : ReservationRelease)
  | reportToVec (b : ReservationReport)

namespace Reservation
variable (t : Target)

def run : Reservation → Ffi Unit
  | .acquire b => b.execute.discard
  | .register b => b.execute.discard
  | .release b => b.execute.discard
  | .reportToVec b => (b.executeToVec t).discard

def ns : Reservation → Namespace
  | .acquire b => b.ns
  | .register b => b.ns
  | .release b => b.ns
  | .reportToVec b => b.ns

def check : Reservation → Exit Error Unit
  | .reportToVec _ => (t.alloc 4096).map fun _ => ()
  | _ => .ok ()

def command : Reservation → I32 → Call
  | .acquire b, fd => .nvmeResvAcquire (b.args fd)
  | .register b, fd => .nvmeResvRegister (b.args fd)
  | .release b, fd => .nvmeResvRelease (b.args fd)
  | .reportToVec b, fd => .nvmeResvReport (b.args ((t.alloc 4096).getD .empty) fd)

def request (op : Reservation) : Request :=
  LibnvmeRs.request (op.check t) (.ns op.ns) (.ok ()) (op.command t)

theorem run_eq (op : Reservation) : op.run t = (op.request t).program := by
  cases op with
  | acquire b =>
    exact request_unchecked (.ns b.ns) (fun fd => .nvmeResvAcquire (b.args fd))
      fun _ done => done.result
  | register b =>
    exact request_unchecked (.ns b.ns) (fun fd => .nvmeResvRegister (b.args fd))
      fun _ done => done.result
  | release b =>
    exact request_unchecked (.ns b.ns) (fun fd => .nvmeResvRelease (b.args fd))
      fun _ done => done.result
  | reportToVec b =>
    by_cases hlen : 4096 ≤ t.allocLimit
    · have hpage := b.check_page (Slice.length_zeros 4096 (Nat.le_trans hlen t.allocLimit_le))
      rw [run, b.executeToVec_granted hlen, discard_bind_ret, ReservationReport.execute_discard,
        ReservationReport.request, hpage, request, check, t.alloc_ok hlen]
      unfold command
      rw [t.alloc_ok hlen]
      rfl
    · rw [run, b.executeToVec_aborts hlen, request, check, t.alloc_aborted hlen]
      rfl

end Reservation
end LibnvmeRs
