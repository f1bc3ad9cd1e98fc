import LibnvmeRs.Io

/-!
# Dataset Management and Copy

The two commands that hand the device an array of range descriptors. Every field
of a descriptor is converted to little-endian before the array is handed over,
and `image` is what the descriptor occupies in the host's memory.
-/

namespace LibnvmeRs

open Interaction Program ByteOrder

structure DsmAttr where
  bits : U32

def DsmAttr.integralRead : DsmAttr := ⟨1 <<< 0⟩
def DsmAttr.integralWrite : DsmAttr := ⟨1 <<< 1⟩
def DsmAttr.deallocate : DsmAttr := ⟨1 <<< 2⟩
def DsmAttr.bitor (a b : DsmAttr) : DsmAttr := ⟨a.bits ||| b.bits⟩

def saturatingSub {w : ℕ} (a b : BitVec w) : BitVec w := if a < b then 0 else a - b

theorem saturatingSub_toNat {w : ℕ} (a b : BitVec w) :
    (saturatingSub a b).toNat = a.toNat - b.toNat := by
  unfold saturatingSub
  split
  · rename_i hlt
    have := BitVec.lt_def.mp hlt
    simp
    omega
  · rename_i hge
    exact BitVec.toNat_sub_of_le (BitVec.not_lt.mp hge)

structure DsmRange where
  context : U32
  length : U32
  slba : U64

namespace DsmRange

def new (slba : U64) (nlb : U32) : DsmRange :=
  { context := 0, length := saturatingSub nlb 1, slba := slba }

def withContext (r : DsmRange) (context : U32) : DsmRange := { r with context := context }

def toRaw (e : Endian) (r : DsmRange) : NvmeDsmRange :=
  { cattr := e.toLe r.context, nlb := e.toLe r.length, slba := e.toLe r.slba }

end DsmRange

structure Dsm where
  ns : Namespace
  attrs : DsmAttr
  ranges : Option (List DsmRange)
  timeoutMs : U32

def Dsm.new (ns : Namespace) (attrs : DsmAttr) : Dsm :=
  { ns := ns, attrs := attrs, ranges := none, timeoutMs := 0 }

inductive DsmSetter where
  | ranges (ranges : List DsmRange)
  | timeoutMs (ms : U32)

def Dsm.set (b : Dsm) : DsmSetter → Dsm
  | .ranges ranges => { b with ranges := some ranges }
  | .timeoutMs ms => { b with timeoutMs := ms }

def sizeofNvmeDsmArgs : I32 := 40

def Dsm.args (e : Endian) (b : Dsm) (ranges : List DsmRange) (fd : I32) : NvmeDsmArgs :=
  let raw := ranges.map (DsmRange.toRaw e)
  { dsm := raw
    argsSize := sizeofNvmeDsmArgs
    fd := fd
    timeout := b.timeoutMs
    nsid := b.ns.nsid
    attrs := b.attrs.bits
    nrRanges := asU16 raw.length }

def Dsm.execute (e : Endian) (b : Dsm) : Ffi U32 :=
  let ranges := b.ranges.getD []
  if ranges.isEmpty then .fail (.invalidArgument "DSM requires at least one range")
  else if 256 < ranges.length then
    .fail (.invalidArgument s!"DSM supports at most 256 ranges, got {ranges.length}")
  else do
    let fd ← nsFd b.ns
    let done ← ask (Call.nvmeDsm (b.args e ranges fd))
    checkRet done.cret
    return done.result

def Dsm.check (b : Dsm) : Except Error Unit :=
  let ranges := b.ranges.getD []
  if ranges.isEmpty then .error (.invalidArgument "DSM requires at least one range")
  else if 256 < ranges.length then
    .error (.invalidArgument s!"DSM supports at most 256 ranges, got {ranges.length}")
  else .ok ()

def Dsm.Valid (b : Dsm) : Prop :=
  1 ≤ (b.ranges.getD []).length ∧ (b.ranges.getD []).length ≤ 256

theorem Dsm.check_decides (b : Dsm) : Decides b.check b.Valid := by
  refine ((Decides.pass.ite _).ite _).of_iff ?_
  rw [List.isEmpty_iff, ← List.length_eq_zero_iff, and_true, Dsm.Valid]
  omega

def Dsm.request (e : Endian) (b : Dsm) : Request :=
  LibnvmeRs.request (.ofExcept b.check) (.ns b.ns) (.ok ())
    fun fd => .nvmeDsm (b.args e (b.ranges.getD []) fd)

theorem Dsm.execute_discard (e : Endian) (b : Dsm) :
    (b.execute e).discard = (b.request e).program := by
  rw [Dsm.execute, Dsm.request, request_checked, Dsm.check]
  split_ifs with hempty hmany
  · rfl
  · rfl
  · exact request_unchecked (.ns b.ns) (fun fd => .nvmeDsm (b.args e _ fd))
      fun _ done => done.result

structure CopyRange where
  slba : U64 := 0
  nlb : U16 := 0
  eilbrt : U32 := 0
  elbat : U16 := 0
  elbatm : U16 := 0
  deriving DecidableEq

namespace CopyRange

def new (slba : U64) (nlb : U16) : CopyRange := { slba := slba, nlb := nlb }

def refTag (r : CopyRange) (eilbrt : U32) : CopyRange := { r with eilbrt := eilbrt }

def appTag (r : CopyRange) (elbat mask : U16) : CopyRange :=
  { r with elbat := elbat, elbatm := mask }

def toRaw (e : Endian) (r : CopyRange) : NvmeCopyRange :=
  { rsvd0 := Vector.replicate 8 0
    slba := e.toLe r.slba
    nlb := e.toLe (saturatingSub r.nlb 1)
    rsvd18 := Vector.replicate 6 0
    eilbrt := e.toLe r.eilbrt
    elbat := e.toLe r.elbat
    elbatm := e.toLe r.elbatm }

end CopyRange

structure Copy where
  ns : Namespace
  sdlba : U64
  ranges : List CopyRange
  ilbrt : U32 := 0
  ilbrtU64 : U64 := 0
  lbat : U16 := 0
  lbatm : U16 := 0
  prinfor : U8 := 0
  prinfow : U8 := 0
  fua : Bool := false
  lr : Bool := false
  dtype : U8 := 0
  dspec : U16 := 0
  format : U8 := 0
  timeoutMs : U32 := 0

def Copy.new (ns : Namespace) (sdlba : U64) (ranges : List CopyRange) : Copy :=
  { ns := ns, sdlba := sdlba, ranges := ranges }

inductive CopySetter where
  | fua
  | limitedRetry
  | destRefTag (tag : U32)
  | destRefTagU64 (tag : U64)
  | destAppTag (tag mask : U16)
  | prinfoRead (prinfo : U8)
  | prinfoWrite (prinfo : U8)
  | descriptorFormat (format : U8)
  | directive (dtype : U8) (dspec : U16)
  | timeoutMs (ms : U32)

def Copy.set (b : Copy) : CopySetter → Copy
  | .fua => { b with fua := true }
  | .limitedRetry => { b with lr := true }
  | .destRefTag tag => { b with ilbrt := tag }
  | .destRefTagU64 tag => { b with ilbrtU64 := tag }
  | .destAppTag tag mask => { b with lbat := tag, lbatm := mask }
  | .prinfoRead prinfo => { b with prinfor := prinfo }
  | .prinfoWrite prinfo => { b with prinfow := prinfo }
  | .descriptorFormat format => { b with format := format }
  | .directive dtype dspec => { b with dtype := dtype, dspec := dspec }
  | .timeoutMs ms => { b with timeoutMs := ms }

def sizeofNvmeCopyArgs : I32 := 72

def Copy.args (e : Endian) (b : Copy) (fd : I32) : NvmeCopyArgs :=
  let raw := b.ranges.map (CopyRange.toRaw e)
  { sdlba := b.sdlba
    copy := raw
    argsSize := sizeofNvmeCopyArgs
    fd := fd
    timeout := b.timeoutMs
    nsid := b.ns.nsid
    ilbrt := b.ilbrt
    lr := if b.lr then 1 else 0
    fua := if b.fua then 1 else 0
    nr := asU16 (raw.length - 1)
    dspec := b.dspec
    lbatm := b.lbatm
    lbat := b.lbat
    prinfor := b.prinfor
    prinfow := b.prinfow
    dtype := b.dtype
    format := b.format
    ilbrtU64 := b.ilbrtU64 }

def Copy.execute (e : Endian) (b : Copy) : Ffi U32 :=
  if b.ranges.isEmpty then .fail (.invalidArgument "Copy requires at least one source range")
  else if 128 < b.ranges.length then
    .fail (.invalidArgument s!"Copy supports at most 128 ranges, got {b.ranges.length}")
  else do
    let fd ← nsFd b.ns
    let done ← ask (Call.nvmeCopy (b.args e fd))
    checkRet done.cret
    return done.result

def Copy.check (b : Copy) : Except Error Unit :=
  if b.ranges.isEmpty then .error (.invalidArgument "Copy requires at least one source range")
  else if 128 < b.ranges.length then
    .error (.invalidArgument s!"Copy supports at most 128 ranges, got {b.ranges.length}")
  else .ok ()

def Copy.Valid (b : Copy) : Prop := 1 ≤ b.ranges.length ∧ b.ranges.length ≤ 128

theorem Copy.check_decides (b : Copy) : Decides b.check b.Valid := by
  refine ((Decides.pass.ite _).ite _).of_iff ?_
  rw [List.isEmpty_iff, ← List.length_eq_zero_iff, and_true, Copy.Valid]
  omega

def Copy.request (e : Endian) (b : Copy) : Request :=
  LibnvmeRs.request (.ofExcept b.check) (.ns b.ns) (.ok ())
    fun fd => .nvmeCopy (b.args e fd)

theorem Copy.execute_discard (e : Endian) (b : Copy) :
    (b.execute e).discard = (b.request e).program := by
  rw [Copy.execute, Copy.request, request_checked, Copy.check]
  split_ifs with hempty hmany
  · rfl
  · rfl
  · exact request_unchecked (.ns b.ns) (fun fd => .nvmeCopy (b.args e fd)) fun _ done => done.result

def Copy.sets (b : Copy) (calls : List CopySetter) : Copy := calls.foldl Copy.set b

section Image
variable (e : Endian)

def NvmeDsmRange.image (r : NvmeDsmRange) : List Byte :=
  e.store r.cattr ++ e.store r.nlb ++ e.store r.slba

def NvmeCopyRange.image (r : NvmeCopyRange) : List Byte :=
  r.rsvd0.toList ++ e.store r.slba ++ e.store r.nlb ++ r.rsvd18.toList ++ e.store r.eilbrt ++
    e.store r.elbat ++ e.store r.elbatm

def NvmeDsmArgs.array (args : NvmeDsmArgs) : List Byte := args.dsm.flatMap (·.image e)

def NvmeCopyArgs.array (args : NvmeCopyArgs) : List Byte := args.copy.flatMap (·.image e)

theorem NvmeDsmRange.length_image (r : NvmeDsmRange) : (r.image e).length = 16 := by
  simp [NvmeDsmRange.image]

theorem NvmeCopyRange.length_image (r : NvmeCopyRange) : (r.image e).length = 32 := by
  simp [NvmeCopyRange.image]

theorem DsmRange.image_toRaw (r : DsmRange) :
    (r.toRaw e).image e =
      leBytes 4 r.context.toNat ++ leBytes 4 r.length.toNat ++ leBytes 8 r.slba.toNat := by
  rw [DsmRange.toRaw, NvmeDsmRange.image, store_toLe e rfl, store_toLe e rfl, store_toLe e rfl]

theorem CopyRange.image_toRaw (r : CopyRange) :
    (r.toRaw e).image e =
      List.replicate 8 0 ++ leBytes 8 r.slba.toNat ++ leBytes 2 (r.nlb.toNat - 1) ++
        List.replicate 6 0 ++ leBytes 4 r.eilbrt.toNat ++ leBytes 2 r.elbat.toNat ++
        leBytes 2 r.elbatm.toNat := by
  have hnlb : e.store (e.toLe (saturatingSub r.nlb 1)) = leBytes 2 (r.nlb.toNat - 1) := by
    rw [store_toLe e rfl, saturatingSub_toNat]
    rfl
  rw [CopyRange.toRaw, NvmeCopyRange.image, hnlb, store_toLe e rfl, store_toLe e rfl,
    store_toLe e rfl, store_toLe e rfl]
  rfl

end Image
end LibnvmeRs
