import LibnvmeRs.Zns

/-!
# Further commands of a namespace

Reservation Report, the two Directive commands, `read_to_vec` and Format NVM.
The first two take an optional buffer; the third allocates one for itself before
any argument of the Read has been looked at.
-/

namespace LibnvmeRs

open Interaction Program ByteOrder

def sizeofNvmeResvStatus : ℕ := 64

def sizeofNvmeResvReportArgs : I32 := 40

structure ReservationReport where
  ns : Namespace
  buf : Option Slice := none
  eds : Bool := false
  timeoutMs : U32 := 0

def ReservationReport.args (b : ReservationReport) (buf : Slice) (fd : I32) :
    NvmeResvReportArgs :=
  { report := buf
    argsSize := sizeofNvmeResvReportArgs
    fd := fd
    timeout := b.timeoutMs
    nsid := b.ns.nsid
    len := asU32 buf.length
    eds := b.eds }

def ReservationReport.execute (b : ReservationReport) : Ffi (U32 × Slice) :=
  match b.buf with
  | none => .fail (.invalidArgument "ReservationReport requires a buffer via .buffer()")
  | some buf =>
    if buf.length < sizeofNvmeResvStatus then
      .fail (.invalidArgument "ReservationReport buffer smaller than nvme_resv_status header")
    else do
      let fd ← nsFd b.ns
      let done ← ask (Call.nvmeResvReport (b.args buf fd))
      checkRet done.cret
      return (done.result, buf.fill done.data)

def ReservationReport.check (b : ReservationReport) : Except Error Unit :=
  match b.buf with
  | none => .error (.invalidArgument "ReservationReport requires a buffer via .buffer()")
  | some buf =>
    if buf.length < sizeofNvmeResvStatus then
      .error (.invalidArgument "ReservationReport buffer smaller than nvme_resv_status header")
    else .ok ()

def ReservationReport.Valid (b : ReservationReport) : Prop :=
  ∃ buf, b.buf = some buf ∧ sizeofNvmeResvStatus ≤ buf.length

theorem ReservationReport.check_decides (b : ReservationReport) : Decides b.check b.Valid := by
  unfold ReservationReport.check ReservationReport.Valid
  cases b.buf with
  | none => exact (Decides.refuse _).of_iff (by simp)
  | some buf => exact (Decides.pass.ite _).of_iff (by simp)

def ReservationReport.request (b : ReservationReport) : Request :=
  LibnvmeRs.request (.ofExcept b.check) (.ns b.ns) (.ok ())
    fun fd => .nvmeResvReport (b.args (b.buf.getD .empty) fd)

theorem ReservationReport.execute_discard (b : ReservationReport) :
    b.execute.discard = b.request.program := by
  rw [ReservationReport.execute, ReservationReport.request, request_checked,
    ReservationReport.check]
  cases b.buf with
  | none => rfl
  | some buf =>
    dsimp only
    split_ifs with hsmall
    · rfl
    · exact request_unchecked (.ns b.ns) (fun fd => .nvmeResvReport (b.args buf fd)) fun _ done =>
        (done.result, buf.fill done.data)

inductive DirectiveType where
  | identify
  | streams
  | raw (v : U8)

def DirectiveType.asRaw : DirectiveType → U32
  | .identify => 0
  | .streams => 1
  | .raw v => v.setWidth 32

inductive DirectiveSendOp where
  | identifyEnable
  | streamsReleaseIdentifier
  | streamsReleaseResource
  | raw (v : U8)

def DirectiveSendOp.asRaw : DirectiveSendOp → U32
  | .identifyEnable | .streamsReleaseIdentifier => 0x01
  | .streamsReleaseResource => 0x02
  | .raw v => v.setWidth 32

inductive DirectiveRecvOp where
  | identifyReturnParameters
  | streamsReturnParameters
  | streamsGetStatus
  | streamsAllocateResources
  | raw (v : U8)

def DirectiveRecvOp.asRaw : DirectiveRecvOp → U32
  | .identifyReturnParameters | .streamsReturnParameters => 0x01
  | .streamsGetStatus => 0x02
  | .streamsAllocateResources => 0x03
  | .raw v => v.setWidth 32

/-- The builders of the two Directive commands, which differ in the operation type. -/
structure Directive (Op : Type) where
  ns : Namespace
  dtype : DirectiveType
  doper : Op
  data : Option Slice := none
  dspec : U16 := 0
  cdw12 : U32 := 0
  timeoutMs : U32 := 0

abbrev DirectiveSend := Directive DirectiveSendOp
abbrev DirectiveRecv := Directive DirectiveRecvOp

def sizeofNvmeDirectiveArgs : I32 := 56

def Directive.args {Op : Type} (asRaw : Op → U32) (b : Directive Op) (fd : I32) :
    NvmeDirectiveArgs :=
  { data := b.data
    argsSize := sizeofNvmeDirectiveArgs
    fd := fd
    timeout := b.timeoutMs
    nsid := b.ns.nsid
    doper := asRaw b.doper
    dtype := b.dtype.asRaw
    cdw12 := b.cdw12
    dataLen := optLen b.data
    dspec := b.dspec }

def DirectiveSend.execute (b : DirectiveSend) : Ffi U32 := do
  let fd ← nsFd b.ns
  let done ← ask (Call.nvmeDirectiveSend (b.args DirectiveSendOp.asRaw fd))
  checkRet done.cret
  return done.result

def DirectiveRecv.execute (b : DirectiveRecv) : Ffi (U32 × Option Slice) := do
  let fd ← nsFd b.ns
  let done ← ask (Call.nvmeDirectiveRecv (b.args DirectiveRecvOp.asRaw fd))
  checkRet done.cret
  return (done.result, b.data.map (·.fill done.data))

def DirectiveSend.request (b : DirectiveSend) : Request :=
  LibnvmeRs.request (.ok ()) (.ns b.ns) (.ok ())
    fun fd => .nvmeDirectiveSend (b.args DirectiveSendOp.asRaw fd)

def DirectiveRecv.request (b : DirectiveRecv) : Request :=
  LibnvmeRs.request (.ok ()) (.ns b.ns) (.ok ())
    fun fd => .nvmeDirectiveRecv (b.args DirectiveRecvOp.asRaw fd)

theorem DirectiveSend.execute_discard (b : DirectiveSend) :
    (DirectiveSend.execute b).discard = (DirectiveSend.request b).program := by
  exact request_unchecked (.ns b.ns)
    (fun fd => .nvmeDirectiveSend (b.args DirectiveSendOp.asRaw fd)) fun _ done => done.result

theorem DirectiveRecv.execute_discard (b : DirectiveRecv) :
    (DirectiveRecv.execute b).discard = (DirectiveRecv.request b).program := by
  exact request_unchecked (.ns b.ns)
    (fun fd => .nvmeDirectiveRecv (b.args DirectiveRecvOp.asRaw fd))
    fun _ done => (done.result, b.data.map (·.fill done.data))

def Namespace.readToVec (t : Target) (ns : Namespace) (slba : U64) (nlb : U32) : Ffi Slice :=
  match checkedMul nlb.toNat ns.lbaSize.toNat with
  | none => .fail (.invalidArgument "nlb * lba_size overflows usize")
  | some len => do
    let buf ← ofExit (t.alloc len)
    let done ← Read.execute (DataIo.new ns slba nlb buf)
    return done.data

def Namespace.readToVecRead (t : Target) (ns : Namespace) (slba : U64) (nlb : U32) :
    Exit Error Read :=
  match checkedMul nlb.toNat ns.lbaSize.toNat with
  | none => .error (.invalidArgument "nlb * lba_size overflows usize")
  | some len => (t.alloc len).map (DataIo.new ns slba nlb)

def Namespace.readToVecRequest (t : Target) (ns : Namespace) (slba : U64) (nlb : U32) :
    Request :=
  let read := ns.readToVecRead t slba nlb
  let b := read.getD (DataIo.new ns slba nlb .empty)
  LibnvmeRs.request (read.bind fun b => .ofExcept b.check) (.ns ns) (.ok ())
    fun fd => .nvmeIo (b.args (asU16 (nlb.toNat - 1)) fd) opcRead

theorem Namespace.readToVec_discard (t : Target) (ns : Namespace) (slba : U64) (nlb : U32) :
    (ns.readToVec t slba nlb).discard = (ns.readToVecRequest t slba nlb).program := by
  rw [Namespace.readToVec, Namespace.readToVecRequest, Namespace.readToVecRead]
  cases checkedMul nlb.toNat ns.lbaSize.toNat with
  | none => rfl
  | some len =>
    dsimp only
    cases t.alloc len with
    | ok buf =>
      exact (discard_bind_ret _ fun done : ReadOutcome => done.data).trans
        (Read.execute_discard (DataIo.new ns slba nlb buf))
    | error e => rfl
    | aborted => rfl

section
variable (t : Target) (ns : Namespace) (slba : U64) {nlb : U32}

theorem Namespace.readToVecRead_ok (hlen : nlb.toNat * ns.lbaSize.toNat ≤ t.allocLimit) :
    ns.readToVecRead t slba nlb =
      .ok (DataIo.new ns slba nlb (.zeros _ (Nat.le_trans hlen t.allocLimit_le))) := by
  rw [Namespace.readToVecRead, checkedMul_u32 nlb.isLt ns.lbaSize.isLt]
  dsimp only
  rw [t.alloc_ok hlen]
  rfl

theorem Namespace.readToVecRead_aborted (hlen : ¬nlb.toNat * ns.lbaSize.toNat ≤ t.allocLimit) :
    ns.readToVecRead t slba nlb = .aborted := by
  rw [Namespace.readToVecRead, checkedMul_u32 nlb.isLt ns.lbaSize.isLt]
  dsimp only
  rw [t.alloc_aborted hlen]
  rfl

theorem DataIo.new_check_decides {data : Slice}
    (hdata : data.length = nlb.toNat * ns.lbaSize.toNat) :
    Decides (DataIo.new ns slba nlb data).check (NlbValid nlb) :=
  (DataIo.check_decides _).of_iff ⟨fun h => h.2, fun h => ⟨hdata, h⟩⟩

end

inductive SecureErase where
  | none
  | userData
  | cryptographic
  deriving DecidableEq, Repr

def SecureErase.asRaw : SecureErase → U32
  | .none => 0
  | .userData => 1
  | .cryptographic => 2

inductive ProtectionInfo where
  | disabled
  | type1
  | type2
  | type3
  deriving DecidableEq, Repr

def ProtectionInfo.asRaw : ProtectionInfo → U32
  | .disabled => 0
  | .type1 => 1
  | .type2 => 2
  | .type3 => 3

inductive ProtectionLocation where
  | last
  | first
  deriving DecidableEq, Repr

def ProtectionLocation.asRaw : ProtectionLocation → U32
  | .last => 0
  | .first => 1

inductive MetadataSettings where
  | separate
  | extended
  deriving DecidableEq, Repr

def MetadataSettings.asRaw : MetadataSettings → U32
  | .separate => 0
  | .extended => 1

structure Format where
  ns : Namespace
  lbaFormat : U8 := 0
  secureErase : SecureErase := .none
  protectionInfo : ProtectionInfo := .disabled
  protectionLocation : ProtectionLocation := .last
  metadata : MetadataSettings := .separate
  lbaFormatUpper : U8 := 0
  timeoutMs : U32 := 0

def sizeofNvmeFormatNvmArgs : I32 := 56

def Format.args (b : Format) (fd : I32) : NvmeFormatNvmArgs :=
  { argsSize := sizeofNvmeFormatNvmArgs
    fd := fd
    timeout := b.timeoutMs
    nsid := b.ns.nsid
    mset := b.metadata.asRaw
    pi := b.protectionInfo.asRaw
    pil := b.protectionLocation.asRaw
    ses := b.secureErase.asRaw
    lbaf := b.lbaFormat
    rsvd1 := Vector.replicate 7 0
    lbafu := b.lbaFormatUpper }

def Format.execute (b : Format) : Ffi Unit := do
  let fd ← nsFd b.ns
  let r ← ask (Call.nvmeFormatNvm (b.args fd))
  checkRet r

def Format.request (b : Format) : Request :=
  LibnvmeRs.request (.ok ()) (.ns b.ns) (.ok ())
    fun fd => .nvmeFormatNvm (b.args fd)

theorem Format.execute_discard (b : Format) : b.execute.discard = b.request.program := by
  rw [discard_unit]
  rfl

end LibnvmeRs
