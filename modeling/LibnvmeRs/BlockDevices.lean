import LibnvmeRs.BlockStore
import LibnvmeRs.RangeArrays
import LibnvmeRs.ReadToVec
import LibnvmeRs.Sessions
import LibnvmeRs.Submitted
import LibnvmeRs.Zns

/-!
# Block devices behind a namespace

libnvme documents what the commands of a namespace do to its blocks: a write
stores them, Write Zeroes clears them, Write Uncorrectable makes them unreadable
until they are written again, Read, Compare and Verify leave them alone, Append
stores at an address of the controller's choice. A controller that does so is a
store, and the operations of this crate, each told in the terms of its caller,
drive it: block counts are from one but for the ranges of a trim, which count as they
are stored, one block less than their caller asked for; buffers are in bytes, and a
refused call does nothing.
-/

namespace LibnvmeRs

open Interaction Program ByteOrder BlockStore Sessions

def opcFlush : U8 := 0x00

def flushCommand (ns : Namespace) (fd : I32) : NvmePassthru :=
  { fd := fd
    opcode := opcFlush
    flags := 0
    rsvd := 0
    nsid := ns.nsid
    cdw2 := 0
    cdw3 := 0
    cdw10 := 0
    cdw11 := 0
    cdw12 := 0
    cdw13 := 0
    cdw14 := 0
    cdw15 := 0
    dataLen := 0
    data := none
    metadataLen := 0
    metadata := none
    timeoutMs := 0 }

def flush (ns : Namespace) : Ffi Unit := do
  let fd ← nsFd ns
  let done ← ask (Call.nvmeIoPassthru (flushCommand ns fd))
  checkRet done.cret

def Namespace.flush (ns : Namespace) : Ffi Unit := LibnvmeRs.flush ns

section Cut
variable {size : ℕ}

def cut (size count : ℕ) (bytes : List Byte) : List (List Byte) :=
  (List.range count).map fun j => field (j * size) size bytes

@[simp] theorem length_cut (count : ℕ) (bytes : List Byte) :
    (cut size count bytes).length = count := by
  rw [cut, List.length_map, List.length_range]

theorem getElem?_cut {count j : ℕ} (hj : j < count) (bytes : List Byte) :
    (cut size count bytes)[j]? = some (field (j * size) size bytes) := by
  rw [cut, List.getElem?_map, List.getElem?_range hj, Option.map_some]

theorem cut_flatten {blocks : List (List Byte)} (hblocks : ∀ b ∈ blocks, b.length = size) :
    cut size blocks.length blocks.flatten = blocks := by
  have hval : (blocks.attachWith (fun b => b.length = size) hblocks).map Subtype.val = blocks :=
    List.attachWith_map_subtype_val hblocks
  have hread := map_field_flatMap_image
    (fun b : {b : List Byte // b.length = size} => b.2) id
    (blocks.attachWith (fun b => b.length = size) hblocks)
  simp only [List.flatMap_def, id, List.length_attachWith] at hread
  rw [hval] at hread
  exact hread

end Cut

/-- What stands behind the descriptors: the blocks of each disk in each state, the disk
a handle is for, and the disk a descriptor and a namespace identifier name. -/
structure Media (σ : Type) where
  medium : σ → ℕ → Medium (List Byte)
  blockSize : ℕ → ℕ
  zone : ℕ → ℕ → Span
  disk : Namespace → ℕ
  target : I32 → U32 → ℕ

/-- The handle reports the format of its disk. -/
def Media.Lists {σ : Type} (D : Media σ) (ns : Namespace) : Prop :=
  ns.lbaSize.toNat = D.blockSize (D.disk ns)

namespace NvmeIoArgs
variable (args : NvmeIoArgs)

def span : Span := ⟨args.slba.toNat, args.nlb.toNat + 1⟩

/-- The data of a command, as long as the length beside it is true and fits the span. -/
def carried (size : ℕ) : Option (List Byte) :=
  args.data.bind fun buf =>
    if args.dataLen.toNat = buf.length ∧ buf.length = args.span.count * size then some buf.bytes
    else none

end NvmeIoArgs

namespace Media
variable {σ : Type} (D : Media σ)

def Moves (s s' : σ) (d : ℕ) (changes : List (Change (List Byte))) : Prop :=
  Evolves changes (D.medium s d) (D.medium s' d) ∧ ∀ other, other ≠ d →
    D.medium s' other = D.medium s other

def Reads (s : σ) (d : ℕ) (span : Span) (bytes : List Byte) : Prop :=
  ∃ blocks, (D.medium s d).read span.first span.count = some blocks ∧ bytes = blocks.flatten ∧
    ∀ b ∈ blocks, b.length = D.blockSize d

/-- What the commands of one span do, as far as they say which data they carry. -/
def MeetsSpan (s s' : σ) (d : ℕ) (span : Span) (data : Option (List Byte)) (opcode : U8)
    (done : Done U32) : Prop :=
  let size := D.blockSize d
  let change cells := if done.cret.ret = 0 then Change.put span.first cells else .lose span
  if opcode = opcWrite then
    ∀ bytes ∈ data, D.Moves s s' d [change ((cut size span.count bytes).map some)]
  else if opcode = opcWriteZeroes then
    D.Moves s s' d [change (List.replicate span.count (some (List.replicate size 0)))]
  else if opcode = opcWriteUncor then
    D.Moves s s' d [change (List.replicate span.count none)]
  else if opcode = opcRead then
    ∀ bytes ∈ data, D.Moves s s' d [] ∧ (done.cret.ret = 0 → D.Reads s d span done.data)
  else if opcode = opcCompare then
    ∀ bytes ∈ data, D.Moves s s' d [] ∧ (done.cret.ret = 0 →
      (D.medium s d).read span.first span.count = some (cut size span.count bytes))
  else if opcode = opcVerify then
    D.Moves s s' d [] ∧
      (done.cret.ret = 0 → ((D.medium s d).read span.first span.count).isSome)
  else True

def MeetsIo (s s' : σ) (args : NvmeIoArgs) (opcode : U8) (done : Done U32) : Prop :=
  let d := D.target args.fd args.nsid
  D.MeetsSpan s s' d args.span (args.carried (D.blockSize d)) opcode done

def attributeDeallocate (attrs : U32) : Bool := attrs.getLsbD 2

def extentSpan (x : Extent) : Span := ⟨x.slba, x.blocks⟩

/-- Deallocated blocks may read as anything; the other attributes are hints. -/
def MeetsDsm (e : Endian) (s s' : σ) (args : NvmeDsmArgs) : Prop :=
  D.Moves s s' (D.target args.fd args.nsid)
    (if attributeDeallocate args.attrs then
      (args.extents e).map fun x => .lose (extentSpan x)
    else [])

/-- The data goes into the zone, at the address the command returns. -/
def MeetsAppend (s s' : σ) (args : NvmeZnsAppendArgs) (done : Done U64) : Prop :=
  let d := D.target args.fd args.nsid
  let size := D.blockSize d
  let count := args.nlb.toNat + 1
  args.dataLen.toNat = args.data.length → args.data.length = count * size →
    D.Moves s s' d [if done.cret.ret = 0 then
        .put done.result.toNat ((cut size count args.data.bytes).map some)
      else .lose (D.zone d args.zslba.toNat)] ∧
    (done.cret.ret = 0 → ∀ i, Span.Covers ⟨done.result.toNat, count⟩ i →
      (D.zone d args.zslba.toNat).Covers i)

def Meets (e : Endian) (s s' : σ) : (c : Call) → Answer c → Prop
  | .nvmeNsGetFd ns, r => D.medium s' = D.medium s ∧
      (D.Lists ns → ∀ fd, openedFd r = .ok fd → D.target fd (Namespace.nsid ns) = D.disk ns)
  | .nvmeIo args opcode, done => D.MeetsIo s s' args opcode done
  | .nvmeDsm args, _ => D.MeetsDsm e s s' args
  | .nvmeZnsAppend args, done => D.MeetsAppend s s' args done
  | .nvmeIoPassthru args, _ => args.opcode = opcFlush → D.medium s' = D.medium s
  | _, _ => True

def Conforms (e : Endian) (h : Handler Call Answer σ) : Prop :=
  ∀ c s, D.Meets e s (h c s).2 c (h c s).1

theorem moves_of_eq {s s' : σ} (hs : D.medium s' = D.medium s) (d : ℕ) : D.Moves s s' d [] :=
  ⟨congrFun hs d, fun other _ => congrFun hs other⟩

theorem Moves.after_open {D : Media σ} {s s₁ s' : σ} {d : ℕ} {changes : List (Change (List Byte))}
    (h : D.Moves s₁ s' d changes) (hs : D.medium s₁ = D.medium s) : D.Moves s s' d changes := by
  rw [Moves, ← hs]
  exact h

end Media

inductive IoOp where
  | read (b : Read)
  | write (b : Write)
  | compare (b : Compare)
  | verify (b : Verify)
  | writeZeroes (b : WriteZeroes)
  | writeUncorrectable (b : WriteUncorrectable)
  | dsm (b : Dsm)
  | append (b : ZnsAppend)
  | readToVec (ns : Namespace) (slba : U64) (nlb : U32)
  | flush (ns : Namespace)

inductive IoValue where
  | nothing
  | code (result : U32)
  | bytes (data : List Byte)
  | lba (address : U64)
  deriving DecidableEq

namespace IoOp
variable {σ : Type} (t : Target) (D : Media σ)

def ns : IoOp → Namespace
  | .read b | .write b | .compare b => b.ns
  | .verify b | .writeZeroes b | .writeUncorrectable b => b.ns
  | .dsm b => b.ns
  | .append b => b.ns
  | .readToVec ns _ _ => ns
  | .flush ns => ns

def run : IoOp → Ffi IoValue
  | .read b => do
    let done ← Read.execute b
    return .bytes done.data.bytes
  | .write b => do
    let result ← Write.execute b
    return .code result
  | .compare b => do
    let result ← Compare.execute b
    return .code result
  | .verify b => do
    let result ← Verify.execute b
    return .code result
  | .writeZeroes b => do
    let result ← WriteZeroes.execute b
    return .code result
  | .writeUncorrectable b => do
    let result ← WriteUncorrectable.execute b
    return .code result
  | .dsm b => do
    let result ← b.execute t.endian
    return .code result
  | .append b => do
    let address ← b.execute
    return .lba address
  | .readToVec ns slba nlb => do
    let data ← ns.readToVec t slba nlb
    return .bytes data.bytes
  | .flush ns => do
    let _ ← ns.flush
    return .nothing

def carries : IoOp → Option U32
  | .read b | .write b | .compare b => some b.nlb
  | .append b => some b.nlb
  | .readToVec _ _ nlb => some nlb
  | .verify _ | .writeZeroes _ | .writeUncorrectable _ | .dsm _ | .flush _ => none

/-- The handle reports the format of its disk, and the length of the data has 32 bits. -/
structure Fits (op : IoOp) : Prop where
  lists : D.Lists op.ns
  short : ∀ nlb ∈ op.carries, NlbValid nlb → nlb.toNat * op.ns.lbaSize.toNat < 2 ^ 32

theorem fits_of_small {D : Media σ} {op : IoOp} {ns : Namespace} (hns : op.ns = ns)
    (hlists : D.Lists ns) (hsmall : ns.lbaSize.toNat < 2 ^ 16) : op.Fits D := by
  subst hns
  refine ⟨hlists, fun nlb _ hnlb => ?_⟩
  calc nlb.toNat * op.ns.lbaSize.toNat ≤ 65536 * op.ns.lbaSize.toNat :=
        Nat.mul_le_mul_right _ hnlb.2
    _ < 2 ^ 32 := by omega

def disk (op : IoOp) : ℕ := D.disk op.ns

def size (op : IoOp) : ℕ := D.blockSize (op.disk D)

def spanOf (slba : U64) (nlb : U32) : Span := ⟨slba.toNat, nlb.toNat⟩

/-- The contents of deallocated blocks are open, as many of them as the ranges store. -/
def trims (b : Dsm) : List (Change (List Byte)) :=
  if Media.attributeDeallocate b.attrs.bits then
    (b.ranges.getD []).map fun r => .lose (Media.extentSpan r.extent)
  else []

def stores (op : IoOp) (v : IoValue) : List (Change (List Byte)) :=
  match op, v with
  | .write b, _ => [.put b.slba.toNat ((cut (op.size D) b.nlb.toNat b.data.bytes).map some)]
  | .writeZeroes b, _ =>
    [.put b.slba.toNat (List.replicate b.nlb.toNat (some (List.replicate (op.size D) 0)))]
  | .writeUncorrectable b, _ => [.put b.slba.toNat (List.replicate b.nlb.toNat none)]
  | .append b, .lba address =>
    [.put address.toNat ((cut (op.size D) b.nlb.toNat b.data.bytes).map some)]
  | .dsm b, _ => trims b
  | _, _ => []

def risks (op : IoOp) : List (Change (List Byte)) :=
  match op with
  | .write b => [.lose (spanOf b.slba b.nlb)]
  | .writeZeroes b | .writeUncorrectable b => [.lose (spanOf b.slba b.nlb)]
  | .append b => [.lose (D.zone (op.disk D) b.zslba.toNat)]
  | .dsm b => trims b
  | _ => []

def changes (op : IoOp) : Except Error IoValue → List (Change (List Byte))
  | .ok v => op.stores D v
  | .error (.invalidArgument _) => []
  | .error _ => op.risks D

def Answers (op : IoOp) (v : IoValue) (m : Medium (List Byte)) : Prop :=
  match op, v with
  | .read b, .bytes data => ∃ blocks, m.read b.slba.toNat b.nlb.toNat = some blocks ∧
      data = blocks.flatten ∧ ∀ x ∈ blocks, x.length = op.size D
  | .readToVec _ slba nlb, .bytes data => ∃ blocks, m.read slba.toNat nlb.toNat = some blocks ∧
      data = blocks.flatten ∧ ∀ x ∈ blocks, x.length = op.size D
  | .compare b, _ => m.read b.slba.toNat b.nlb.toNat =
      some (cut (op.size D) b.nlb.toNat b.data.bytes)
  | .verify b, _ => (m.read b.slba.toNat b.nlb.toNat).isSome
  | .append b, .lba address => ∀ i, (spanOf address b.nlb).Covers i →
      (D.zone (op.disk D) b.zslba.toNat).Covers i
  | _, _ => True

def Step (op : IoOp) (r : Except Error IoValue) (s s' : σ) : Prop :=
  D.Moves s s' (op.disk D) (op.changes D r) ∧
    ∀ v, r = .ok v → op.Answers D v (D.medium s (op.disk D))

end IoOp

section Step
variable {σ : Type} {D : Media σ} {h : Handler Call Answer σ}

theorem loses_nothing {m : Medium (List Byte)} {l : List (Change (List Byte))}
    (hl : ∀ c ∈ l, ∃ span, c = .lose span) : Evolves l m m := by
  induction l with
  | nil => rfl
  | cons c l ih =>
    obtain ⟨span, rfl⟩ := hl c List.mem_cons_self
    exact ⟨m, Change.takes_lose span m, ih fun d hd => hl d (List.mem_cons_of_mem _ hd)⟩

theorem IoOp.risks_lose (op : IoOp) : ∀ c ∈ op.risks D, ∃ span, c = .lose span := by
  intro c hc
  cases op with
  | dsm b =>
    change c ∈ IoOp.trims b at hc
    rw [IoOp.trims] at hc
    split_ifs at hc
    · obtain ⟨r, -, rfl⟩ := List.mem_map.mp hc
      exact ⟨_, rfl⟩
    · cases hc
  | write b | writeZeroes b | writeUncorrectable b | append b =>
    exact ⟨_, List.mem_singleton.mp hc⟩
  | read | compare | verify | readToVec | flush => cases hc

theorem IoOp.step_failed (op : IoOp) {e : Error} {s s' : σ} (hs : D.medium s' = D.medium s) :
    op.Step D (.error e) s s' := by
  have hkept : Evolves (op.changes D (.error e)) (D.medium s (op.disk D))
      (D.medium s (op.disk D)) := by
    cases e with
    | invalidArgument m => rfl
    | os | nvme | notAvailable | utf8 => exact loses_nothing op.risks_lose
  refine ⟨⟨?_, fun other _ => congrFun hs other⟩, fun v hv => by cases hv⟩
  rw [hs]
  exact hkept

/-- An operation of the shape `submitted` is a step of the store if its command is one. -/
theorem IoOp.step_submitted {e : Endian} (hD : D.Conforms e h) (op : IoOp) (hns : D.Lists op.ns)
    {check : Except Error Unit} {P : Prop} (hcheck : Decides check P) (command : I32 → Call)
    (result : (fd : I32) → Answer (command fd) → IoValue)
    (hsend : P → ∀ fd s s' a, D.target fd op.ns.nsid = op.disk D → D.Meets e s s' (command fd) a →
      let ret := ((command fd).reply.cret a).ret
      D.Moves s s' (op.disk D) (if ret = 0 then op.stores D (result fd a) else op.risks D) ∧
        (ret = 0 → op.Answers D (result fd a) (D.medium s (op.disk D))))
    (s : σ) {r : Except Error IoValue}
    (hr : ((submitted check (.ns op.ns) command result).run h s).exit = .ofExcept r) :
    op.Step D r s ((submitted check (.ns op.ns) command result).run h s).state := by
  obtain ⟨hquiet, htarget⟩ := hD (.nvmeNsGetFd op.ns) s
  refine submitted_step _ _ _ _ hcheck s (fun err => op.step_failed rfl)
    (fun err => op.step_failed hquiet) (fun hP fd hopen => ?_) hr
  obtain ⟨hmoves, hanswers⟩ := hsend hP fd _ _ _ (htarget hns fd hopen)
    (hD (command fd) (h (.nvmeNsGetFd op.ns) s).2)
  refine ⟨fun hzero => ?_, fun hnonzero err herr => ?_⟩
  · rw [if_pos hzero] at hmoves
    refine ⟨hmoves.after_open hquiet, fun v hv => ?_⟩
    obtain rfl := Except.ok.inj hv
    rw [← hquiet]
    exact hanswers hzero
  · rw [if_neg hnonzero] at hmoves
    refine ⟨?_, fun v hv => by cases hv⟩
    cases err with
    | invalidArgument m => exact (herr m rfl).elim
    | os | nvme | notAvailable | utf8 => exact hmoves.after_open hquiet

end Step

section Submissions
variable {α : Type}

theorem DataIo.executeWith_submitted (opcode : U8) (b : DataIo) (f : Done U32 → α) :
    (b.executeWith opcode >>= fun done => .ret (f done)) =
      submitted b.check (.ns b.ns) (fun fd => .nvmeIo (b.args (asU16 (b.nlb.toNat - 1)) fd) opcode)
        fun _ done => f done := by
  rw [DataIo.executeWith, submitted, DataIo.check]
  cases checkBufLen b.data.length b.nlb b.ns.lbaSize with
  | error e => rfl
  | ok u =>
    cases he : encodeNlb b.nlb with
    | error e => rfl
    | ok nlbEnc =>
      obtain rfl := encodeNlb_ok he
      simp only [nsFd, liftM_eq, ofExcept_ok, ret_bind, bind_bind, pure_eq]
      rfl

theorem NodataIo.executeWith_submitted (opcode : U8) (b : NodataIo) (f : U32 → α) :
    (b.executeWith opcode >>= fun result => .ret (f result)) =
      submitted b.check (.ns b.ns) (fun fd => .nvmeIo (b.args (asU16 (b.nlb.toNat - 1)) fd) opcode)
        fun _ done => f done.result := by
  rw [NodataIo.executeWith, submitted, NodataIo.check]
  cases he : encodeNlb b.nlb with
  | error e => rfl
  | ok nlbEnc =>
    obtain rfl := encodeNlb_ok he
    simp only [nsFd, liftM_eq, ofExcept_ok, ret_bind, bind_bind, pure_eq]
    rfl

theorem Dsm.execute_submitted (e : Endian) (b : Dsm) (f : U32 → α) :
    (b.execute e >>= fun result => .ret (f result)) =
      submitted b.check (.ns b.ns) (fun fd => .nvmeDsm (b.args e (b.ranges.getD []) fd))
        fun _ done => f done.result := by
  rw [Dsm.execute, submitted, Dsm.check]
  split_ifs
  · rfl
  · rfl
  · simp only [nsFd, liftM_eq, ofExcept_ok, ret_bind, bind_bind, pure_eq]
    rfl

theorem ZnsAppend.execute_submitted (b : ZnsAppend) (f : U64 → α) :
    (b.execute >>= fun address => .ret (f address)) =
      submitted b.check (.ns b.ns)
        (fun fd => .nvmeZnsAppend (b.args (asU16 (b.nlb.toNat - 1)) fd))
        fun _ done => f done.result := by
  rw [ZnsAppend.execute, submitted, ZnsAppend.check]
  dsimp only
  split_ifs
  · rfl
  · rfl
  · simp only [nsFd, liftM_eq, ofExcept_ok, ret_bind, bind_bind, pure_eq]
    rfl

end Submissions

section Operations
variable {σ : Type} {D : Media σ} {h : Handler Call Answer σ}

theorem DataIo.args_io (b : DataIo) (nlbEnc : U16) (fd : I32) :
    let args := b.args nlbEnc fd
    args.fd = fd ∧ args.nsid = b.ns.nsid ∧ args.span = ⟨b.slba.toNat, nlbEnc.toNat + 1⟩ ∧
      args.data = some b.data ∧ args.dataLen = asU32 b.data.length := by
  unfold DataIo.args
  cases b.metadata <;> exact ⟨rfl, rfl, rfl, rfl, rfl⟩

theorem DataIo.meets {b : DataIo} (hns : D.Lists b.ns) (hb : b.Valid)
    (hshort : b.nlb.toNat * b.ns.lbaSize.toNat < 2 ^ 32) {fd : I32} {s s' : σ}
    {opcode : U8} {done : Done U32} (hfd : D.target fd b.ns.nsid = D.disk b.ns)
    (hmeets : D.MeetsIo s s' (b.args (asU16 (b.nlb.toNat - 1)) fd) opcode done) :
    D.MeetsSpan s s' (D.disk b.ns) (IoOp.spanOf b.slba b.nlb) (some b.data.bytes) opcode done := by
  obtain ⟨hargfd, hnsid, hspan, hdata, hlen⟩ := b.args_io (asU16 (b.nlb.toNat - 1)) fd
  have hlen32 : b.data.length < 2 ^ 32 := hb.1 ▸ hshort
  have hspan' : (b.args (asU16 (b.nlb.toNat - 1)) fd).span = IoOp.spanOf b.slba b.nlb := by
    rw [hspan, hb.2.encode_add_one, IoOp.spanOf]
  have hcarried : (b.args (asU16 (b.nlb.toNat - 1)) fd).carried (D.blockSize (D.disk b.ns)) =
      some b.data.bytes := by
    rw [NvmeIoArgs.carried, hdata, Option.bind_some, hlen, hspan', ← hns]
    exact if_pos ⟨asU32_eq_iff.mpr hlen32, hb.1⟩
  rw [Media.MeetsIo, hargfd, hnsid, hfd, hspan', hcarried] at hmeets
  exact hmeets

theorem NodataIo.meets {b : NodataIo} (hb : NlbValid b.nlb) {fd : I32} {s s' : σ}
    {opcode : U8} {done : Done U32} (hfd : D.target fd b.ns.nsid = D.disk b.ns)
    (hmeets : D.MeetsIo s s' (b.args (asU16 (b.nlb.toNat - 1)) fd) opcode done) :
    D.MeetsSpan s s' (D.disk b.ns) (IoOp.spanOf b.slba b.nlb) none opcode done := by
  have hspan : (b.args (asU16 (b.nlb.toNat - 1)) fd).span = IoOp.spanOf b.slba b.nlb := by
    change (⟨b.slba.toNat, (asU16 (b.nlb.toNat - 1)).toNat + 1⟩ : Span) = _
    rw [hb.encode_add_one, IoOp.spanOf]
  have hdisk : D.target (b.args (asU16 (b.nlb.toNat - 1)) fd).fd
      (b.args (asU16 (b.nlb.toNat - 1)) fd).nsid = D.disk b.ns := hfd
  rw [Media.MeetsIo, hdisk, hspan] at hmeets
  exact hmeets

def IoOp.Sent (op : IoOp) (D : Media σ) (s s' : σ) (ret : I32) (v : IoValue) : Prop :=
  D.Moves s s' (op.disk D) (if ret = 0 then op.stores D v else op.risks D) ∧
    (ret = 0 → op.Answers D v (D.medium s (op.disk D)))

theorem IoOp.step_data {e : Endian} (hD : D.Conforms e h) (op : IoOp) {b : DataIo}
    (hb : op.ns = b.ns) (hop : op.Fits D) (hcarries : op.carries = some b.nlb) (opcode : U8)
    (f : Done U32 → IoValue)
    (hsend : b.Valid → ∀ s s' done, D.MeetsSpan s s' (op.disk D) (IoOp.spanOf b.slba b.nlb)
      (some b.data.bytes) opcode done → op.Sent D s s' done.cret.ret (f done))
    (s : σ) {r : Except Error IoValue}
    (hr : ((b.executeWith opcode >>= fun done => .ret (f done)).run h s).exit = .ofExcept r) :
    op.Step D r s ((b.executeWith opcode >>= fun done => .ret (f done)).run h s).state := by
  rw [DataIo.executeWith_submitted, ← hb] at hr ⊢
  refine IoOp.step_submitted hD op hop.lists b.check_decides _ _ ?_ s hr
  intro hvalid fd s s' done hdisk hmeets
  obtain ⟨hns, hshort⟩ := hop
  rw [IoOp.disk, hb] at hdisk
  rw [hb] at hns hshort
  have hspan := DataIo.meets hns hvalid (hshort b.nlb hcarries hvalid.2) hdisk hmeets
  rw [← hb] at hspan
  exact hsend hvalid s s' done hspan

theorem IoOp.step_nodata {e : Endian} (hD : D.Conforms e h) (op : IoOp) {b : NodataIo}
    (hb : op.ns = b.ns) (hns : D.Lists op.ns) (opcode : U8) (f : U32 → IoValue)
    (hsend : ∀ s s' done, D.MeetsSpan s s' (op.disk D) (IoOp.spanOf b.slba b.nlb)
      none opcode done → op.Sent D s s' done.cret.ret (f done.result))
    (s : σ) {r : Except Error IoValue}
    (hr : ((b.executeWith opcode >>= fun done => .ret (f done)).run h s).exit = .ofExcept r) :
    op.Step D r s ((b.executeWith opcode >>= fun done => .ret (f done)).run h s).state := by
  rw [NodataIo.executeWith_submitted, ← hb] at hr ⊢
  refine IoOp.step_submitted hD op hns b.check_decides _ _ ?_ s hr
  intro hvalid fd s s' done hdisk hmeets
  rw [IoOp.disk, hb] at hdisk
  have hspan := NodataIo.meets hvalid hdisk hmeets
  rw [← hb] at hspan
  exact hsend s s' done hspan

section
variable {e : Endian} (hD : D.Conforms e h) (t : Target) (s : σ) {r : Except Error IoValue}

theorem Read.fill_blocks {b : DataIo} (hns : D.Lists b.ns) (hb : b.data.length =
    b.nlb.toNat * b.ns.lbaSize.toNat) {s : σ} {bytes : List Byte}
    (hreads : D.Reads s (D.disk b.ns) (IoOp.spanOf b.slba b.nlb) bytes) :
    (b.data.fill bytes).bytes = bytes := by
  obtain ⟨blocks, hread, rfl, hsize⟩ := hreads
  refine Slice.bytes_fill ?_
  have hcount := (Medium.read_eq_some.mp hread).1
  have hsizes : blocks.map List.length = List.replicate blocks.length (D.blockSize (D.disk b.ns)) :=
    List.map_eq_replicate_iff.mpr hsize
  rw [hb, List.length_flatten, hsizes, List.sum_replicate_nat, hcount, hns]
  rfl

include hD

theorem IoOp.step_read (b : Read) (hop : (IoOp.read b).Fits D)
    (hr : (((IoOp.read b).run t).run h s).exit = .ofExcept r) :
    (IoOp.read b).Step D r s (((IoOp.read b).run t).run h s).state := by
  have hrun : (IoOp.read b).run t =
      (DataIo.executeWith opcRead b >>= fun done => .ret (.bytes (b.data.fill done.data).bytes)) :=
    bind_bind _ _ _
  rw [hrun] at hr ⊢
  refine IoOp.step_data hD (.read b) rfl hop rfl opcRead _ ?_ s hr
  intro hvalid s s' done hspan
  obtain ⟨hquiet, hreads⟩ := hspan b.data.bytes rfl
  refine ⟨by split_ifs <;> exact hquiet, fun hzero => ?_⟩
  change ∃ blocks, _
  rw [Read.fill_blocks hop.lists hvalid.1 (hreads hzero)]
  exact hreads hzero

theorem IoOp.step_write (b : Write) (hop : (IoOp.write b).Fits D)
    (hr : (((IoOp.write b).run t).run h s).exit = .ofExcept r) :
    (IoOp.write b).Step D r s (((IoOp.write b).run t).run h s).state := by
  have hrun : (IoOp.write b).run t =
      (DataIo.executeWith opcWrite b >>= fun done => .ret (.code done.result)) := bind_bind _ _ _
  rw [hrun] at hr ⊢
  refine IoOp.step_data hD (.write b) rfl hop rfl opcWrite _ ?_ s hr
  intro _ s s' done hspan
  have hmoves := hspan b.data.bytes rfl
  refine ⟨?_, fun _ => trivial⟩
  split_ifs at hmoves ⊢ <;> exact hmoves

theorem IoOp.step_compare (b : Compare) (hop : (IoOp.compare b).Fits D)
    (hr : (((IoOp.compare b).run t).run h s).exit = .ofExcept r) :
    (IoOp.compare b).Step D r s (((IoOp.compare b).run t).run h s).state := by
  have hrun : (IoOp.compare b).run t =
      (DataIo.executeWith opcCompare b >>= fun done => .ret (.code done.result)) := bind_bind _ _ _
  rw [hrun] at hr ⊢
  refine IoOp.step_data hD (.compare b) rfl hop rfl opcCompare _ ?_ s hr
  intro _ s s' done hspan
  obtain ⟨hquiet, hsame⟩ := hspan b.data.bytes rfl
  exact ⟨by split_ifs <;> exact hquiet, hsame⟩

theorem IoOp.step_verify (b : Verify) (hns : D.Lists b.ns)
    (hr : (((IoOp.verify b).run t).run h s).exit = .ofExcept r) :
    (IoOp.verify b).Step D r s (((IoOp.verify b).run t).run h s).state := by
  refine IoOp.step_nodata hD (.verify b) rfl hns opcVerify IoValue.code ?_ s hr
  intro s s' done hspan
  obtain ⟨hquiet, hreadable⟩ := hspan
  exact ⟨by split_ifs <;> exact hquiet, hreadable⟩

theorem IoOp.step_writeZeroes (b : WriteZeroes) (hns : D.Lists b.ns)
    (hr : (((IoOp.writeZeroes b).run t).run h s).exit = .ofExcept r) :
    (IoOp.writeZeroes b).Step D r s (((IoOp.writeZeroes b).run t).run h s).state := by
  refine IoOp.step_nodata hD (.writeZeroes b) rfl hns opcWriteZeroes IoValue.code ?_ s hr
  intro s s' done hspan
  have hmoves : D.Moves s s' (D.disk b.ns) [if done.cret.ret = 0 then
      .put b.slba.toNat (List.replicate b.nlb.toNat
        (some (List.replicate (D.blockSize (D.disk b.ns)) 0)))
      else .lose (IoOp.spanOf b.slba b.nlb)] := hspan
  refine ⟨?_, fun _ => trivial⟩
  split_ifs at hmoves ⊢ <;> exact hmoves

theorem IoOp.step_writeUncorrectable (b : WriteUncorrectable) (hns : D.Lists b.ns)
    (hr : (((IoOp.writeUncorrectable b).run t).run h s).exit = .ofExcept r) :
    (IoOp.writeUncorrectable b).Step D r s (((IoOp.writeUncorrectable b).run t).run h s).state := by
  refine IoOp.step_nodata hD (.writeUncorrectable b) rfl hns opcWriteUncor IoValue.code ?_ s hr
  intro s s' done hspan
  have hmoves : D.Moves s s' (D.disk b.ns) [if done.cret.ret = 0 then
      .put b.slba.toNat (List.replicate b.nlb.toNat none)
      else .lose (IoOp.spanOf b.slba b.nlb)] := hspan
  refine ⟨?_, fun _ => trivial⟩
  split_ifs at hmoves ⊢ <;> exact hmoves

theorem IoOp.step_dsm (he : t.endian = e) (b : Dsm) (hns : D.Lists b.ns)
    (hr : (((IoOp.dsm b).run t).run h s).exit = .ofExcept r) :
    (IoOp.dsm b).Step D r s (((IoOp.dsm b).run t).run h s).state := by
  subst he
  have hrun : (IoOp.dsm b).run t = _ := b.execute_submitted t.endian IoValue.code
  rw [hrun] at hr ⊢
  refine IoOp.step_submitted hD (.dsm b) hns b.check_decides _ _ ?_ s hr
  intro hvalid fd s s' done hdisk hmeets
  have hmoves : D.Moves s s' (D.target fd b.ns.nsid) (if Media.attributeDeallocate b.attrs.bits then
      ((b.args t.endian (b.ranges.getD []) fd).extents t.endian).map
        fun x => .lose (Media.extentSpan x)
    else []) := hmeets
  rw [b.args_extents t.endian hvalid.2, List.map_map] at hmoves
  have hdisk' : D.target fd b.ns.nsid = D.disk b.ns := hdisk
  rw [hdisk'] at hmoves
  refine ⟨?_, fun _ => trivial⟩
  split_ifs <;> exact hmoves

theorem IoOp.step_append (b : ZnsAppend) (hop : (IoOp.append b).Fits D)
    (hr : (((IoOp.append b).run t).run h s).exit = .ofExcept r) :
    (IoOp.append b).Step D r s (((IoOp.append b).run t).run h s).state := by
  have hrun : (IoOp.append b).run t = _ := b.execute_submitted IoValue.lba
  rw [hrun] at hr ⊢
  refine IoOp.step_submitted hD (.append b) hop.lists b.check_decides _ _ ?_ s hr
  intro hvalid fd s s' done hdisk hmeets
  have hns : b.ns.lbaSize.toNat = D.blockSize (D.disk b.ns) := hop.lists
  have hshort : b.data.length < 2 ^ 32 := hvalid.1 ▸ hop.short b.nlb rfl hvalid.2
  have hcount : (asU16 (b.nlb.toNat - 1)).toNat + 1 = b.nlb.toNat := hvalid.2.encode_add_one
  have happend : D.MeetsAppend s s' (b.args (asU16 (b.nlb.toNat - 1)) fd) done := hmeets
  have hdisk' : D.target fd b.ns.nsid = D.disk b.ns := hdisk
  simp only [Media.MeetsAppend, ZnsAppend.args, hcount, hdisk', ← hns] at happend
  obtain ⟨hmoves, hzone⟩ := happend (asU32_eq_iff.mpr hshort) hvalid.1
  rw [hns] at hmoves
  refine ⟨?_, hzone⟩
  change D.Moves s s' (D.disk b.ns) (if done.cret.ret = 0 then _ else _)
  split_ifs at hmoves ⊢ <;> exact hmoves

theorem IoOp.step_flush (ns : Namespace) (hns : D.Lists ns)
    (hr : (((IoOp.flush ns).run t).run h s).exit = .ofExcept r) :
    (IoOp.flush ns).Step D r s (((IoOp.flush ns).run t).run h s).state := by
  have hrun : (IoOp.flush ns).run t = submitted (.ok ()) (.ns ns)
      (fun fd => .nvmeIoPassthru (flushCommand ns fd)) fun _ _ => IoValue.nothing := by
    simp only [IoOp.run, Namespace.flush, LibnvmeRs.flush, submitted, nsFd, liftM_eq, ofExcept_ok,
      ret_bind, bind_bind, pure_eq]
    rfl
  rw [hrun] at hr ⊢
  refine IoOp.step_submitted hD (.flush ns) hns Decides.pass _ _ ?_ s hr
  intro _ fd s s' done _ hmeets
  refine ⟨?_, fun _ => trivial⟩
  split_ifs <;> exact D.moves_of_eq (hmeets rfl) _

theorem IoOp.step_readToVec (ns : Namespace) (slba : U64) (nlb : U32)
    (hop : (IoOp.readToVec ns slba nlb).Fits D)
    (hr : (((IoOp.readToVec ns slba nlb).run t).run h s).exit = .ofExcept r) :
    (IoOp.readToVec ns slba nlb).Step D r s
      (((IoOp.readToVec ns slba nlb).run t).run h s).state := by
  by_cases hlen : nlb.toNat * ns.lbaSize.toNat ≤ t.allocLimit
  · have hmax := Nat.le_trans hlen t.allocLimit_le
    have hrun : (IoOp.readToVec ns slba nlb).run t =
        (IoOp.read (DataIo.new ns slba nlb (.zeros _ hmax))).run t := by
      change (ns.readToVec t slba nlb >>= fun data => .ret (IoValue.bytes data.bytes)) = _
      rw [ns.readToVec_granted t slba hlen, bind_bind]
      rfl
    rw [hrun] at hr ⊢
    have hfits : (IoOp.read (DataIo.new ns slba nlb (.zeros _ hmax))).Fits D :=
      ⟨hop.lists, hop.short⟩
    obtain ⟨hmoves, hanswers⟩ := IoOp.step_read hD t s _ hfits hr
    refine ⟨?_, fun v hv => ?_⟩
    · cases r with
      | ok v => exact hmoves
      | error err => cases err <;> exact hmoves
    · have hread := hanswers v hv
      cases v <;> exact hread
  · have hrun : (IoOp.readToVec ns slba nlb).run t = .abort := by
      change (ns.readToVec t slba nlb >>= fun data => .ret (IoValue.bytes data.bytes)) = _
      rw [ns.readToVec_aborts t slba hlen]
      rfl
    rw [hrun] at hr
    cases r <;> cases hr

/-- Every operation is a step of the store it drives. -/
theorem IoOp.step_of_run (he : t.endian = e) (op : IoOp) (hop : op.Fits D)
    (hr : ((op.run t).run h s).exit = .ofExcept r) : op.Step D r s ((op.run t).run h s).state := by
  cases op with
  | read b => exact IoOp.step_read hD t s b hop hr
  | write b => exact IoOp.step_write hD t s b hop hr
  | compare b => exact IoOp.step_compare hD t s b hop hr
  | verify b => exact IoOp.step_verify hD t s b hop.lists hr
  | writeZeroes b => exact IoOp.step_writeZeroes hD t s b hop.lists hr
  | writeUncorrectable b => exact IoOp.step_writeUncorrectable hD t s b hop.lists hr
  | dsm b => exact IoOp.step_dsm hD t s he b hop.lists hr
  | append b => exact IoOp.step_append hD t s b hop hr
  | readToVec ns slba nlb => exact IoOp.step_readToVec hD t s ns slba nlb hop hr
  | flush ns => exact IoOp.step_flush hD t s ns hop.lists hr

end
end Operations
end LibnvmeRs
