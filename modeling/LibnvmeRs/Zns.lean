import LibnvmeRs.Io

/-!
# Zoned namespaces

Zone Management Send and Receive, and Zone Append. Append keeps its own table of
control bits and its own argument checks, which test the block count before the
buffer length.
-/

namespace LibnvmeRs

open Interaction Program ByteOrder

inductive ZoneSendAction where
  | close
  | finish
  | open
  | reset
  | offline
  | setDescriptorExtension
  | zrwaFlush
  deriving DecidableEq, Repr

def ZoneSendAction.asRaw : ZoneSendAction → U32
  | .close => 0x1
  | .finish => 0x2
  | .open => 0x3
  | .reset => 0x4
  | .offline => 0x5
  | .setDescriptorExtension => 0x10
  | .zrwaFlush => 0x11

inductive ZoneRecvAction where
  | report
  | extendedReport
  deriving DecidableEq, Repr

def ZoneRecvAction.asRaw : ZoneRecvAction → U32
  | .report => 0x0
  | .extendedReport => 0x1

inductive ZoneReportFilter where
  | all
  | empty
  | implicitlyOpened
  | explicitlyOpened
  | closed
  | full
  | readOnly
  | offline
  deriving DecidableEq, Repr

def ZoneReportFilter.asRaw : ZoneReportFilter → U16
  | .all => 0x0
  | .empty => 0x1
  | .implicitlyOpened => 0x2
  | .explicitlyOpened => 0x3
  | .closed => 0x4
  | .full => 0x5
  | .readOnly => 0x6
  | .offline => 0x7

structure ZnsMgmtSend where
  ns : Namespace
  slba : U64
  action : ZoneSendAction
  data : Option Slice := none
  selectAll : Bool := false
  zsaso : U8 := 0
  timeoutMs : U32 := 0

def sizeofNvmeZnsMgmtSendArgs : I32 := 56

def ZnsMgmtSend.args (b : ZnsMgmtSend) (fd : I32) : NvmeZnsMgmtSendArgs :=
  { slba := b.slba
    data := b.data
    argsSize := sizeofNvmeZnsMgmtSendArgs
    fd := fd
    timeout := b.timeoutMs
    nsid := b.ns.nsid
    zsa := b.action.asRaw
    dataLen := optLen b.data
    selectAll := b.selectAll
    zsaso := b.zsaso }

def ZnsMgmtSend.execute (b : ZnsMgmtSend) : Ffi U32 := do
  let fd ← nsFd b.ns
  let done ← ask (Call.nvmeZnsMgmtSend (b.args fd))
  checkRet done.cret
  return done.result

def ZnsMgmtSend.request (b : ZnsMgmtSend) : Request :=
  LibnvmeRs.request (.ok ()) (.ns b.ns) (.ok ())
    fun fd => .nvmeZnsMgmtSend (b.args fd)

theorem ZnsMgmtSend.execute_discard (b : ZnsMgmtSend) :
    b.execute.discard = b.request.program := by
  exact request_unchecked (.ns b.ns) (fun fd => .nvmeZnsMgmtSend (b.args fd))
    fun _ done => done.result

structure ZnsMgmtRecv where
  ns : Namespace
  slba : U64
  action : ZoneRecvAction := .report
  filter : ZoneReportFilter := .all
  partialReport : Bool := false
  data : Option Slice := none
  timeoutMs : U32 := 0

def sizeofNvmeZnsMgmtRecvArgs : I32 := 56

def ZnsMgmtRecv.args (b : ZnsMgmtRecv) (buf : Slice) (fd : I32) : NvmeZnsMgmtRecvArgs :=
  { slba := b.slba
    data := buf
    argsSize := sizeofNvmeZnsMgmtRecvArgs
    fd := fd
    timeout := b.timeoutMs
    nsid := b.ns.nsid
    zra := b.action.asRaw
    dataLen := asU32 buf.length
    zrasf := b.filter.asRaw
    zrasFeat := b.partialReport }

def ZnsMgmtRecv.execute (b : ZnsMgmtRecv) : Ffi (U32 × Slice) :=
  match b.data with
  | none => .fail (.invalidArgument "zns_mgmt_recv requires a buffer via .buffer()")
  | some buf => do
    let fd ← nsFd b.ns
    let done ← ask (Call.nvmeZnsMgmtRecv (b.args buf fd))
    checkRet done.cret
    return (done.result, buf.fill done.data)

def ZnsMgmtRecv.check (b : ZnsMgmtRecv) : Except Error Unit :=
  match b.data with
  | none => .error (.invalidArgument "zns_mgmt_recv requires a buffer via .buffer()")
  | some _ => .ok ()

theorem ZnsMgmtRecv.check_decides (b : ZnsMgmtRecv) : Decides b.check (b.data ≠ none) := by
  unfold ZnsMgmtRecv.check
  cases b.data with
  | none => exact (Decides.refuse _).of_iff (by simp)
  | some buf => exact Decides.pass.of_iff (by simp)

def ZnsMgmtRecv.request (b : ZnsMgmtRecv) : Request :=
  LibnvmeRs.request (.ofExcept b.check) (.ns b.ns) (.ok ())
    fun fd => .nvmeZnsMgmtRecv (b.args (b.data.getD .empty) fd)

theorem ZnsMgmtRecv.execute_discard (b : ZnsMgmtRecv) :
    b.execute.discard = b.request.program := by
  rw [ZnsMgmtRecv.execute, ZnsMgmtRecv.request, request_checked, ZnsMgmtRecv.check]
  cases b.data with
  | none => rfl
  | some buf =>
    exact request_unchecked (.ns b.ns) (fun fd => .nvmeZnsMgmtRecv (b.args buf fd)) fun _ done =>
      (done.result, buf.fill done.data)

structure ZnsAppend where
  ns : Namespace
  zslba : U64
  nlb : U32
  data : Slice
  metadata : Option Slice := none
  ilbrt : U32 := 0
  ilbrtU64 : U64 := 0
  lbat : U16 := 0
  lbatm : U16 := 0
  control : U16 := 0
  timeoutMs : U32 := 0

def ZnsAppend.new (ns : Namespace) (zslba : U64) (nlb : U32) (data : Slice) : ZnsAppend :=
  { ns := ns, zslba := zslba, nlb := nlb, data := data }

def znsCtrlFua : U16 := 1 <<< 14
def znsCtrlLr : U16 := 1 <<< 15
def znsCtrlPrinfoPract : U16 := 1 <<< 13
def znsCtrlPrinfoPrchkGuard : U16 := 1 <<< 12
def znsCtrlPrinfoPrchkApp : U16 := 1 <<< 11
def znsCtrlPrinfoPrchkRef : U16 := 1 <<< 10

inductive ZnsAppendFlag where
  | fua
  | limitedRetry
  | protectionAction
  | checkGuard
  | checkApptag
  | checkReftag
  deriving DecidableEq, Repr

def ZnsAppendFlag.bit : ZnsAppendFlag → U16
  | .fua => znsCtrlFua
  | .limitedRetry => znsCtrlLr
  | .protectionAction => znsCtrlPrinfoPract
  | .checkGuard => znsCtrlPrinfoPrchkGuard
  | .checkApptag => znsCtrlPrinfoPrchkApp
  | .checkReftag => znsCtrlPrinfoPrchkRef

inductive ZnsAppendSetter where
  | flag (f : ZnsAppendFlag)
  | metadata (md : Slice)
  | refTag (ilbrt : U32)
  | refTagU64 (ilbrt : U64)
  | appTag (tag mask : U16)
  | timeoutMs (ms : U32)
  deriving DecidableEq

def ZnsAppend.set (b : ZnsAppend) : ZnsAppendSetter → ZnsAppend
  | .flag f => { b with control := b.control ||| f.bit }
  | .metadata md => { b with metadata := some md }
  | .refTag ilbrt => { b with ilbrt := ilbrt }
  | .refTagU64 ilbrt => { b with ilbrtU64 := ilbrt }
  | .appTag tag mask => { b with lbat := tag, lbatm := mask }
  | .timeoutMs ms => { b with timeoutMs := ms }

def sizeofNvmeZnsAppendArgs : I32 := 80

def ZnsAppend.args (b : ZnsAppend) (nlbEnc : U16) (fd : I32) : NvmeZnsAppendArgs :=
  { zslba := b.zslba
    data := b.data
    metadata := b.metadata
    argsSize := sizeofNvmeZnsAppendArgs
    fd := fd
    timeout := b.timeoutMs
    nsid := b.ns.nsid
    ilbrt := b.ilbrt
    dataLen := asU32 b.data.length
    metadataLen := optLen b.metadata
    nlb := nlbEnc
    control := b.control
    lbat := b.lbat
    lbatm := b.lbatm
    rsvd1 := Vector.replicate 4 0
    ilbrtU64 := b.ilbrtU64 }

def ZnsAppend.execute (b : ZnsAppend) : Ffi U64 :=
  if b.nlb = 0 ∨ 65536 < b.nlb.toNat then
    .fail (.invalidArgument s!"nlb must be 1..=65536, got {b.nlb.toNat}")
  else
    let nlbEnc := asU16 (b.nlb.toNat - 1)
    let want := b.nlb.toNat * b.ns.lbaSize.toNat
    if b.data.length ≠ want then
      .fail (.invalidArgument
        s!"buffer length {b.data.length} doesn't match nlb * lba_size = {want}")
    else do
      let fd ← nsFd b.ns
      let done ← ask (Call.nvmeZnsAppend (b.args nlbEnc fd))
      checkRet done.cret
      return done.result

def ZnsAppend.check (b : ZnsAppend) : Except Error Unit :=
  let want := b.nlb.toNat * b.ns.lbaSize.toNat
  if b.nlb = 0 ∨ 65536 < b.nlb.toNat then
    .error (.invalidArgument s!"nlb must be 1..=65536, got {b.nlb.toNat}")
  else if b.data.length ≠ want then
    .error (.invalidArgument
      s!"buffer length {b.data.length} doesn't match nlb * lba_size = {want}")
  else .ok ()

def ZnsAppend.Valid (b : ZnsAppend) : Prop :=
  b.data.length = b.nlb.toNat * b.ns.lbaSize.toNat ∧ NlbValid b.nlb

theorem ZnsAppend.check_decides (b : ZnsAppend) : Decides b.check b.Valid := by
  refine ((Decides.pass.ite _).ite _).of_iff ?_
  rw [← nlbValid_iff, and_true, not_ne_iff, and_comm]
  rfl

def ZnsAppend.request (b : ZnsAppend) : Request :=
  LibnvmeRs.request (.ofExcept b.check) (.ns b.ns) (.ok ())
    fun fd => .nvmeZnsAppend (b.args (asU16 (b.nlb.toNat - 1)) fd)

theorem ZnsAppend.execute_discard (b : ZnsAppend) : b.execute.discard = b.request.program := by
  rw [ZnsAppend.execute, ZnsAppend.request, request_checked, ZnsAppend.check]
  dsimp only
  split_ifs with hnlb hlen
  · rfl
  · rfl
  · exact request_unchecked (.ns b.ns) (fun fd => .nvmeZnsAppend (b.args _ fd))
      fun _ done => done.result

end LibnvmeRs
