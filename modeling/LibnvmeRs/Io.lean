import LibnvmeRs.Libnvme

/-!
# Namespace I/O commands

Read, Write and Compare share their fields, their setters and their submission
and differ in the opcode; so do Verify, Write Zeroes and Write Uncorrectable.
Dataset Management and Copy build an array of descriptors first. A setter is a
value, so that a sequence of setter calls is a list folded over the builder.
-/

namespace LibnvmeRs

open Interaction Program ByteOrder

abbrev Namespace := NvmeNs

namespace Namespace

def nsid (ns : Namespace) : U32 := ns.getNsid

def lbaSize (ns : Namespace) : U32 := ns.getLbaSize

def metaSize (ns : Namespace) : U32 := ns.getMetaSize

end Namespace

def blockNs : Namespace := { id := 0, getNsid := 1, getLbaSize := 512, getMetaSize := 0 }

def nsFd (ns : Namespace) : Ffi I32 := do
  let r ← ask (Call.nvmeNsGetFd ns)
  openedFd r

def optLen (data : Option Slice) : U32 :=
  match data with
  | some buf => asU32 buf.length
  | none => 0

namespace IoControl

def dtypeStreams : U16 := 1 <<< 4
def nsz : U16 := 1 <<< 7
def stc : U16 := 1 <<< 8
def deac : U16 := 1 <<< 9
def prinfoPrchkRef : U16 := 1 <<< 10
def prinfoPrchkApp : U16 := 1 <<< 11
def prinfoPrchkGuard : U16 := 1 <<< 12
def prinfoPract : U16 := 1 <<< 13
def fua : U16 := 1 <<< 14
def lr : U16 := 1 <<< 15

end IoControl

structure IoOpts where
  control : U16 := 0
  dsmHint : U8 := 0
  dspec : U16 := 0
  apptag : U16 := 0
  appmask : U16 := 0
  reftag : U32 := 0
  reftagU64 : U64 := 0
  storageTag : U64 := 0
  sts : U8 := 0
  pif : U8 := 0
  timeoutMs : U32 := 0

def IoOpts.applyTo (o : IoOpts) (args : NvmeIoArgs) : NvmeIoArgs :=
  { args with
    control := o.control
    dsm := o.dsmHint
    dspec := o.dspec
    apptag := o.apptag
    appmask := o.appmask
    reftag := o.reftag
    reftagU64 := o.reftagU64
    storageTag := o.storageTag
    sts := o.sts
    pif := o.pif
    timeout := o.timeoutMs }

def encodeNlb (nlb : U32) : Except Error U16 :=
  if nlb = 0 ∨ 65536 < nlb.toNat then
    .error (.invalidArgument s!"nlb must be 1..=65536, got {nlb.toNat}")
  else .ok (asU16 (nlb.toNat - 1))

theorem encodeNlb_ok {nlb : U32} {e : U16} (he : encodeNlb nlb = .ok e) :
    e = asU16 (nlb.toNat - 1) := by
  unfold encodeNlb at he
  split at he
  · cases he
  · exact (Except.ok.inj he).symm

def NlbValid (nlb : U32) : Prop := 1 ≤ nlb.toNat ∧ nlb.toNat ≤ 65536

theorem nlbValid_iff (nlb : U32) : NlbValid nlb ↔ ¬(nlb = 0 ∨ 65536 < nlb.toNat) := by
  have hzero : nlb = 0 ↔ nlb.toNat = 0 := BitVec.toNat_inj.symm
  rw [hzero, NlbValid]
  omega

theorem NlbValid.encode_add_one {nlb : U32} (hnlb : NlbValid nlb) :
    (asU16 (nlb.toNat - 1)).toNat + 1 = nlb.toNat := by
  obtain ⟨hmin, hmax⟩ := hnlb
  rw [asU16_of_lt (by omega)]
  omega

theorem encodeNlb_decides (nlb : U32) : Decides (encodeNlb nlb) (NlbValid nlb) :=
  (Decides.pass.ite _).of_iff (by rw [nlbValid_iff, and_true])

/-- The product is taken in 64 bits and cannot overflow there. -/
def checkBufLen (bufLen : ℕ) (nlb lbaSize : U32) : Except Error Unit :=
  let want := nlb.toNat * lbaSize.toNat
  if bufLen ≠ want then
    .error (.invalidArgument
      s!"buffer length {bufLen} bytes does not match nlb*lba_size = {nlb.toNat}*{lbaSize.toNat} = {want}")
  else .ok ()

theorem checkBufLen_decides (bufLen : ℕ) (nlb lbaSize : U32) :
    Decides (checkBufLen bufLen nlb lbaSize) (bufLen = nlb.toNat * lbaSize.toNat) :=
  (Decides.pass.ite _).of_iff (by simp)

def sizeofNvmeIoArgs : I32 := 96

def baseArgs (fd : I32) (nsid : U32) (slba : U64) (nlbEnc : U16) (data : Option Slice)
    (dataLen : U32) : NvmeIoArgs :=
  { argsSize := sizeofNvmeIoArgs
    fd := fd
    nsid := nsid
    slba := slba
    nlb := nlbEnc
    data := data
    dataLen := dataLen }

def opcWrite : U8 := 0x01
def opcRead : U8 := 0x02
def opcWriteUncor : U8 := 0x04
def opcCompare : U8 := 0x05
def opcWriteZeroes : U8 := 0x08
def opcVerify : U8 := 0x0C

structure DataIo where
  ns : Namespace
  slba : U64
  nlb : U32
  data : Slice
  metadata : Option Slice
  opts : IoOpts

def DataIo.new (ns : Namespace) (slba : U64) (nlb : U32) (data : Slice) : DataIo :=
  { ns := ns, slba := slba, nlb := nlb, data := data, metadata := none, opts := {} }

inductive DataFlag where
  | fua
  | limitedRetry
  | protectionAction
  | checkReftag
  | checkApptag
  | checkGuard
  | streams
  | checkStorageTag
  deriving DecidableEq, Repr

def DataFlag.bit : DataFlag → U16
  | .fua => IoControl.fua
  | .limitedRetry => IoControl.lr
  | .protectionAction => IoControl.prinfoPract
  | .checkReftag => IoControl.prinfoPrchkRef
  | .checkApptag => IoControl.prinfoPrchkApp
  | .checkGuard => IoControl.prinfoPrchkGuard
  | .streams => IoControl.dtypeStreams
  | .checkStorageTag => IoControl.stc

inductive DataSetter where
  | flag (f : DataFlag)
  | refTag (tag : U32)
  | refTagU64 (tag : U64)
  | appTag (tag : U16)
  | appMask (mask : U16)
  | datasetMgmt (dsm : U8)
  | directive (dspec : U16)
  | storageTag (tag : U64)
  | storageTagSize (sts : U8)
  | piFormat (pif : U8)
  | timeoutMs (ms : U32)
  | metadata (md : Slice)
  deriving DecidableEq

def DataIo.set (b : DataIo) : DataSetter → DataIo
  | .flag f => { b with opts.control := b.opts.control ||| f.bit }
  | .refTag tag => { b with opts.reftag := tag }
  | .refTagU64 tag => { b with opts.reftagU64 := tag }
  | .appTag tag => { b with opts.apptag := tag }
  | .appMask mask => { b with opts.appmask := mask }
  | .datasetMgmt dsm => { b with opts.dsmHint := dsm }
  | .directive dspec => { b with opts.dspec := dspec }
  | .storageTag tag => { b with opts.storageTag := tag }
  | .storageTagSize sts => { b with opts.sts := sts }
  | .piFormat pif => { b with opts.pif := pif }
  | .timeoutMs ms => { b with opts.timeoutMs := ms }
  | .metadata md => { b with metadata := some md }

def DataIo.args (b : DataIo) (nlbEnc : U16) (fd : I32) : NvmeIoArgs :=
  let args := baseArgs fd b.ns.nsid b.slba nlbEnc (some b.data) (asU32 b.data.length)
  let args := match b.metadata with
    | some md => { args with metadata := some md, metadataLen := asU32 md.length }
    | none => args
  b.opts.applyTo args

def DataIo.executeWith (opcode : U8) (b : DataIo) : Ffi (Done U32) := do
  checkBufLen b.data.length b.nlb b.ns.lbaSize
  let nlbEnc ← encodeNlb b.nlb
  let fd ← nsFd b.ns
  let done ← ask (Call.nvmeIo (b.args nlbEnc fd) opcode)
  checkRet done.cret
  return done

abbrev Read := DataIo
abbrev Write := DataIo
abbrev Compare := DataIo

structure ReadOutcome where
  result : U32
  data : Slice
  metadata : Option Slice

def Read.execute (b : Read) : Ffi ReadOutcome := do
  let done ← b.executeWith opcRead
  return ⟨done.result, b.data.fill done.data, b.metadata.map (·.fill done.metadata)⟩

def Write.execute (b : Write) : Ffi U32 := do
  let done ← b.executeWith opcWrite
  return done.result

def Compare.execute (b : Compare) : Ffi U32 := do
  let done ← b.executeWith opcCompare
  return done.result

section Request
variable (opcode : U8) (b : DataIo)

def DataIo.check : Except Error Unit := do
  checkBufLen b.data.length b.nlb b.ns.lbaSize
  let _ ← encodeNlb b.nlb

def DataIo.Valid : Prop :=
  b.data.length = b.nlb.toNat * b.ns.lbaSize.toNat ∧ NlbValid b.nlb

theorem DataIo.check_decides : Decides b.check b.Valid :=
  (checkBufLen_decides _ _ _).bind fun _ => (encodeNlb_decides _).map

def DataIo.request : Request :=
  LibnvmeRs.request (.ofExcept b.check) (.ns b.ns) (.ok ())
    fun fd => .nvmeIo (b.args (asU16 (b.nlb.toNat - 1)) fd) opcode

theorem DataIo.executeWith_discard :
    (b.executeWith opcode).discard = (b.request opcode).program := by
  rw [DataIo.executeWith, DataIo.request, request_checked, DataIo.check]
  cases checkBufLen b.data.length b.nlb b.ns.lbaSize with
  | error e => rfl
  | ok u =>
    cases he : encodeNlb b.nlb with
    | error e => rfl
    | ok nlbEnc =>
      obtain rfl := encodeNlb_ok he
      exact request_unchecked (.ns b.ns) (fun fd => .nvmeIo (b.args _ fd) opcode) fun _ done => done

end Request

section
variable (b : DataIo)

theorem Read.execute_discard : (Read.execute b).discard = (b.request opcRead).program :=
  (discard_bind_ret _ _).trans (b.executeWith_discard opcRead)

theorem Write.execute_discard : (Write.execute b).discard = (b.request opcWrite).program :=
  (discard_bind_ret _ _).trans (b.executeWith_discard opcWrite)

theorem Compare.execute_discard : (Compare.execute b).discard = (b.request opcCompare).program :=
  (discard_bind_ret _ _).trans (b.executeWith_discard opcCompare)

end

structure NodataIo where
  ns : Namespace
  slba : U64
  nlb : U32
  opts : IoOpts

def NodataIo.new (ns : Namespace) (slba : U64) (nlb : U32) : NodataIo :=
  { ns := ns, slba := slba, nlb := nlb, opts := {} }

inductive NodataFlag where
  | fua
  | limitedRetry
  | protectionAction
  | checkReftag
  | checkApptag
  | checkGuard
  deriving DecidableEq, Repr

def NodataFlag.bit : NodataFlag → U16
  | .fua => IoControl.fua
  | .limitedRetry => IoControl.lr
  | .protectionAction => IoControl.prinfoPract
  | .checkReftag => IoControl.prinfoPrchkRef
  | .checkApptag => IoControl.prinfoPrchkApp
  | .checkGuard => IoControl.prinfoPrchkGuard

inductive WriteZeroesFlag where
  | nodata (f : NodataFlag)
  | deallocate
  | noDeallocateAfterZero
  deriving DecidableEq, Repr

def WriteZeroesFlag.bit : WriteZeroesFlag → U16
  | .nodata f => f.bit
  | .deallocate => IoControl.deac
  | .noDeallocateAfterZero => IoControl.nsz

inductive NodataSetter (F : Type) where
  | flag (f : F)
  | refTag (tag : U32)
  | appTag (tag : U16)
  | appMask (mask : U16)
  | timeoutMs (ms : U32)
  deriving DecidableEq

def NodataIo.set {F : Type} (bit : F → U16) (b : NodataIo) : NodataSetter F → NodataIo
  | .flag f => { b with opts.control := b.opts.control ||| bit f }
  | .refTag tag => { b with opts.reftag := tag }
  | .appTag tag => { b with opts.apptag := tag }
  | .appMask mask => { b with opts.appmask := mask }
  | .timeoutMs ms => { b with opts.timeoutMs := ms }

def NodataIo.args (b : NodataIo) (nlbEnc : U16) (fd : I32) : NvmeIoArgs :=
  b.opts.applyTo (baseArgs fd b.ns.nsid b.slba nlbEnc none 0)

def NodataIo.executeWith (opcode : U8) (b : NodataIo) : Ffi U32 := do
  let nlbEnc ← encodeNlb b.nlb
  let fd ← nsFd b.ns
  let done ← ask (Call.nvmeIo (b.args nlbEnc fd) opcode)
  checkRet done.cret
  return done.result

abbrev Verify := NodataIo
abbrev WriteZeroes := NodataIo
abbrev WriteUncorrectable := NodataIo

def Verify.set (b : Verify) : NodataSetter NodataFlag → Verify := NodataIo.set NodataFlag.bit b

def WriteZeroes.set (b : WriteZeroes) : NodataSetter WriteZeroesFlag → WriteZeroes :=
  NodataIo.set WriteZeroesFlag.bit b

def WriteUncorrectable.timeoutMs (b : WriteUncorrectable) (ms : U32) : WriteUncorrectable :=
  { b with opts.timeoutMs := ms }

def Verify.execute (b : Verify) : Ffi U32 := b.executeWith opcVerify
def WriteZeroes.execute (b : WriteZeroes) : Ffi U32 := b.executeWith opcWriteZeroes
def WriteUncorrectable.execute (b : WriteUncorrectable) : Ffi U32 := b.executeWith opcWriteUncor

section Request
variable (opcode : U8) (b : NodataIo)

def NodataIo.check : Except Error Unit := do
  let _ ← encodeNlb b.nlb

theorem NodataIo.check_decides : Decides b.check (NlbValid b.nlb) := (encodeNlb_decides _).map

def NodataIo.request : Request :=
  LibnvmeRs.request (.ofExcept b.check) (.ns b.ns) (.ok ())
    fun fd => .nvmeIo (b.args (asU16 (b.nlb.toNat - 1)) fd) opcode

theorem NodataIo.executeWith_discard :
    (b.executeWith opcode).discard = (b.request opcode).program := by
  rw [NodataIo.executeWith, NodataIo.request, request_checked, NodataIo.check]
  cases he : encodeNlb b.nlb with
  | error e => rfl
  | ok nlbEnc =>
    obtain rfl := encodeNlb_ok he
    exact request_unchecked (.ns b.ns) (fun fd => .nvmeIo (b.args _ fd) opcode)
      fun _ done => done.result

end Request

end LibnvmeRs
