import LibnvmeRs.IoRanges
import LibnvmeRs.SetterCalls
import LibnvmeRs.Zns

/-!
# Setters and the request they make

What a sequence of setter calls leaves in the arguments of the command. A value
setter leaves its last argument, a flag setter its bit, and everything else keeps
its default. The last part follows one field, the initial reference tag, which
has a setter and a member for each of two widths.
-/

namespace LibnvmeRs

open Interaction Program ByteOrder SetterCalls

def DataIo.sets (b : DataIo) (calls : List DataSetter) : DataIo := calls.foldl DataIo.set b

def NodataIo.sets {F : Type} (bit : F → U16) (b : NodataIo) (calls : List (NodataSetter F)) :
    NodataIo :=
  calls.foldl (NodataIo.set bit) b

def ZnsAppend.sets (b : ZnsAppend) (calls : List ZnsAppendSetter) : ZnsAppend :=
  calls.foldl ZnsAppend.set b

namespace DataSetter

def slot : DataSetter → DataSetter
  | .flag f => .flag f
  | .refTag _ => .refTag 0
  | .refTagU64 _ => .refTagU64 0
  | .appTag _ => .appTag 0
  | .appMask _ => .appMask 0
  | .datasetMgmt _ => .datasetMgmt 0
  | .directive _ => .directive 0
  | .storageTag _ => .storageTag 0
  | .storageTagSize _ => .storageTagSize 0
  | .piFormat _ => .piFormat 0
  | .timeoutMs _ => .timeoutMs 0
  | .metadata _ => .metadata .empty

def mask : DataSetter → U16
  | .flag f => f.bit
  | _ => 0

def refTag? : DataSetter → Option U32
  | .refTag tag => some tag
  | _ => none

def refTagU64? : DataSetter → Option U64
  | .refTagU64 tag => some tag
  | _ => none

def appTag? : DataSetter → Option U16
  | .appTag tag => some tag
  | _ => none

def appMask? : DataSetter → Option U16
  | .appMask mask => some mask
  | _ => none

def datasetMgmt? : DataSetter → Option U8
  | .datasetMgmt dsm => some dsm
  | _ => none

def directive? : DataSetter → Option U16
  | .directive dspec => some dspec
  | _ => none

def storageTag? : DataSetter → Option U64
  | .storageTag tag => some tag
  | _ => none

def storageTagSize? : DataSetter → Option U8
  | .storageTagSize sts => some sts
  | _ => none

def piFormat? : DataSetter → Option U8
  | .piFormat pif => some pif
  | _ => none

def timeoutMs? : DataSetter → Option U32
  | .timeoutMs ms => some ms
  | _ => none

def metadata? : DataSetter → Option Slice
  | .metadata md => some md
  | _ => none

end DataSetter

namespace NodataSetter
variable {F : Type}

def slot : NodataSetter F → NodataSetter F
  | .flag f => .flag f
  | .refTag _ => .refTag 0
  | .appTag _ => .appTag 0
  | .appMask _ => .appMask 0
  | .timeoutMs _ => .timeoutMs 0

def mask (bit : F → U16) : NodataSetter F → U16
  | .flag f => bit f
  | _ => 0

def refTag? : NodataSetter F → Option U32
  | .refTag tag => some tag
  | _ => none

def appTag? : NodataSetter F → Option U16
  | .appTag tag => some tag
  | _ => none

def appMask? : NodataSetter F → Option U16
  | .appMask mask => some mask
  | _ => none

def timeoutMs? : NodataSetter F → Option U32
  | .timeoutMs ms => some ms
  | _ => none

end NodataSetter

namespace ZnsAppendSetter

def slot : ZnsAppendSetter → ZnsAppendSetter
  | .flag f => .flag f
  | .metadata _ => .metadata .empty
  | .refTag _ => .refTag 0
  | .refTagU64 _ => .refTagU64 0
  | .appTag _ _ => .appTag 0 0
  | .timeoutMs _ => .timeoutMs 0

def mask : ZnsAppendSetter → U16
  | .flag f => f.bit
  | _ => 0

def metadata? : ZnsAppendSetter → Option Slice
  | .metadata md => some md
  | _ => none

def refTag? : ZnsAppendSetter → Option U32
  | .refTag ilbrt => some ilbrt
  | _ => none

def refTagU64? : ZnsAppendSetter → Option U64
  | .refTagU64 ilbrt => some ilbrt
  | _ => none

def appTag? : ZnsAppendSetter → Option (U16 × U16)
  | .appTag tag mask => some (tag, mask)
  | _ => none

def timeoutMs? : ZnsAppendSetter → Option U32
  | .timeoutMs ms => some ms
  | _ => none

end ZnsAppendSetter

def controlAfter {S : Type} (mask : S → U16) (control : U16) (l : List S) : U16 :=
  l.foldl (fun c s => c ||| mask s) control

theorem getLsbD_controlAfter {S : Type} (mask : S → U16) (control : U16) (l : List S) (i : ℕ) :
    (controlAfter mask control l).getLsbD i =
      (control.getLsbD i || l.any fun s => (mask s).getLsbD i) :=
  foldl_flag (p := fun s => (mask s).getLsbD i) (fun c => BitVec.getLsbD c i)
    (fun _ _ => BitVec.getLsbD_or) l control

def DataIo.after (b : DataIo) (l : List DataSetter) : DataIo :=
  { b with
    metadata := (lastSome DataSetter.metadata? l).or b.metadata
    opts :=
      { control := controlAfter DataSetter.mask b.opts.control l
        dsmHint := (lastSome DataSetter.datasetMgmt? l).getD b.opts.dsmHint
        dspec := (lastSome DataSetter.directive? l).getD b.opts.dspec
        apptag := (lastSome DataSetter.appTag? l).getD b.opts.apptag
        appmask := (lastSome DataSetter.appMask? l).getD b.opts.appmask
        reftag := (lastSome DataSetter.refTag? l).getD b.opts.reftag
        reftagU64 := (lastSome DataSetter.refTagU64? l).getD b.opts.reftagU64
        storageTag := (lastSome DataSetter.storageTag? l).getD b.opts.storageTag
        sts := (lastSome DataSetter.storageTagSize? l).getD b.opts.sts
        pif := (lastSome DataSetter.piFormat? l).getD b.opts.pif
        timeoutMs := (lastSome DataSetter.timeoutMs? l).getD b.opts.timeoutMs } }

theorem DataIo.sets_eq (b : DataIo) (l : List DataSetter) : b.sets l = b.after l := by
  refine foldl_eq_after (fun b => ?_) (fun b s l => ?_) b l
  · rfl
  · cases s <;> simp [DataIo.after, DataIo.set, controlAfter, lastSome, DataSetter.mask,
      DataSetter.metadata?, DataSetter.datasetMgmt?, DataSetter.directive?, DataSetter.appTag?,
      DataSetter.appMask?, DataSetter.refTag?, DataSetter.refTagU64?, DataSetter.storageTag?,
      DataSetter.storageTagSize?, DataSetter.piFormat?, DataSetter.timeoutMs?]

def NodataIo.after {F : Type} (bit : F → U16) (b : NodataIo) (l : List (NodataSetter F)) :
    NodataIo :=
  { b with
    opts :=
      { b.opts with
        control := controlAfter (NodataSetter.mask bit) b.opts.control l
        apptag := (lastSome NodataSetter.appTag? l).getD b.opts.apptag
        appmask := (lastSome NodataSetter.appMask? l).getD b.opts.appmask
        reftag := (lastSome NodataSetter.refTag? l).getD b.opts.reftag
        timeoutMs := (lastSome NodataSetter.timeoutMs? l).getD b.opts.timeoutMs } }

theorem NodataIo.sets_eq {F : Type} (bit : F → U16) (b : NodataIo) (l : List (NodataSetter F)) :
    b.sets bit l = b.after bit l := by
  refine foldl_eq_after (fun b => ?_) (fun b s l => ?_) b l
  · rfl
  · cases s <;> simp [NodataIo.after, NodataIo.set, controlAfter, lastSome, NodataSetter.mask,
      NodataSetter.appTag?, NodataSetter.appMask?, NodataSetter.refTag?, NodataSetter.timeoutMs?]

def ZnsAppend.after (b : ZnsAppend) (l : List ZnsAppendSetter) : ZnsAppend :=
  { b with
    metadata := (lastSome ZnsAppendSetter.metadata? l).or b.metadata
    ilbrt := (lastSome ZnsAppendSetter.refTag? l).getD b.ilbrt
    ilbrtU64 := (lastSome ZnsAppendSetter.refTagU64? l).getD b.ilbrtU64
    lbat := ((lastSome ZnsAppendSetter.appTag? l).getD (b.lbat, b.lbatm)).1
    lbatm := ((lastSome ZnsAppendSetter.appTag? l).getD (b.lbat, b.lbatm)).2
    control := controlAfter ZnsAppendSetter.mask b.control l
    timeoutMs := (lastSome ZnsAppendSetter.timeoutMs? l).getD b.timeoutMs }

theorem ZnsAppend.sets_eq (b : ZnsAppend) (l : List ZnsAppendSetter) : b.sets l = b.after l := by
  refine foldl_eq_after (fun b => ?_) (fun b s l => ?_) b l
  · rfl
  · cases s <;> simp [ZnsAppend.after, ZnsAppend.set, controlAfter, lastSome, ZnsAppendSetter.mask,
      ZnsAppendSetter.metadata?, ZnsAppendSetter.refTag?, ZnsAppendSetter.refTagU64?,
      ZnsAppendSetter.appTag?, ZnsAppendSetter.timeoutMs?]

theorem or_swap {w : ℕ} (c m n : BitVec w) : c ||| m ||| n = c ||| n ||| m := by
  rw [BitVec.or_assoc, BitVec.or_comm m n, BitVec.or_assoc]

theorem DataIo.lastWins : LastWins DataSetter.slot DataIo.set where
  commute b s t hst := by
    cases s <;> cases t <;> first
      | rfl
      | exact absurd rfl hst
      | simp only [DataIo.set, or_swap]
  absorb b s t hst := by
    cases s <;> cases t <;> cases hst <;> first
      | rfl
      | simp only [DataIo.set, BitVec.or_assoc, BitVec.or_self]

theorem NodataIo.lastWins {F : Type} (bit : F → U16) :
    LastWins NodataSetter.slot (NodataIo.set bit) where
  commute b s t hst := by
    cases s <;> cases t <;> first
      | rfl
      | exact absurd rfl hst
      | simp only [NodataIo.set, or_swap]
  absorb b s t hst := by
    cases s <;> cases t <;> cases hst <;> first
      | rfl
      | simp only [NodataIo.set, BitVec.or_assoc, BitVec.or_self]

theorem ZnsAppend.lastWins : LastWins ZnsAppendSetter.slot ZnsAppend.set where
  commute b s t hst := by
    cases s <;> cases t <;> first
      | rfl
      | exact absurd rfl hst
      | simp only [ZnsAppend.set, or_swap]
  absorb b s t hst := by
    cases s <;> cases t <;> cases hst <;> first
      | rfl
      | simp only [ZnsAppend.set, BitVec.or_assoc, BitVec.or_self]

def Call.ioArgs? : Call → Option NvmeIoArgs
  | .nvmeIo args _ => some args
  | _ => none

def Call.appendArgs? : Call → Option NvmeZnsAppendArgs
  | .nvmeZnsAppend args => some args
  | _ => none

theorem DataIo.request_onlyArgs (opcode : U8) (b : DataIo) {P : NvmeIoArgs → Prop} :
    ((b.request opcode).program.OnlyCalls fun c => ∀ args, c.ioArgs? = some args → P args) ↔
      (b.Valid → ∀ fd : I32, fd.slt 0 = false → P (b.args (asU16 (b.nlb.toNat - 1)) fd)) :=
  request_onlySent (.ns b.ns) _ b.check_decides Call.ioArgs? rfl fun _ => rfl

theorem NodataIo.request_onlyArgs (opcode : U8) (b : NodataIo) {P : NvmeIoArgs → Prop} :
    ((b.request opcode).program.OnlyCalls fun c => ∀ args, c.ioArgs? = some args → P args) ↔
      (NlbValid b.nlb → ∀ fd : I32, fd.slt 0 = false →
        P (b.args (asU16 (b.nlb.toNat - 1)) fd)) :=
  request_onlySent (.ns b.ns) _ b.check_decides Call.ioArgs? rfl fun _ => rfl

theorem ZnsAppend.request_onlyArgs (b : ZnsAppend) {P : NvmeZnsAppendArgs → Prop} :
    (b.request.program.OnlyCalls fun c => ∀ args, c.appendArgs? = some args → P args) ↔
      (b.Valid → ∀ fd : I32, fd.slt 0 = false → P (b.args (asU16 (b.nlb.toNat - 1)) fd)) :=
  request_onlySent (.ns b.ns) _ b.check_decides Call.appendArgs? rfl fun _ => rfl

def DataIo.requested (ns : Namespace) (slba : U64) (nlb : U32) (data : Slice)
    (l : List DataSetter) (control : U16) (fd : I32) : NvmeIoArgs :=
  { argsSize := sizeofNvmeIoArgs
    fd := fd
    nsid := ns.nsid
    slba := slba
    nlb := asU16 (nlb.toNat - 1)
    data := some data
    dataLen := asU32 data.length
    metadata := lastSome DataSetter.metadata? l
    metadataLen := optLen (lastSome DataSetter.metadata? l)
    control := control
    dsm := (lastSome DataSetter.datasetMgmt? l).getD 0
    dspec := (lastSome DataSetter.directive? l).getD 0
    apptag := (lastSome DataSetter.appTag? l).getD 0
    appmask := (lastSome DataSetter.appMask? l).getD 0
    reftag := (lastSome DataSetter.refTag? l).getD 0
    reftagU64 := (lastSome DataSetter.refTagU64? l).getD 0
    storageTag := (lastSome DataSetter.storageTag? l).getD 0
    sts := (lastSome DataSetter.storageTagSize? l).getD 0
    pif := (lastSome DataSetter.piFormat? l).getD 0
    timeout := (lastSome DataSetter.timeoutMs? l).getD 0 }

def NodataIo.requested {F : Type} (ns : Namespace) (slba : U64) (nlb : U32)
    (l : List (NodataSetter F)) (control : U16) (fd : I32) : NvmeIoArgs :=
  { argsSize := sizeofNvmeIoArgs
    fd := fd
    nsid := ns.nsid
    slba := slba
    nlb := asU16 (nlb.toNat - 1)
    control := control
    apptag := (lastSome NodataSetter.appTag? l).getD 0
    appmask := (lastSome NodataSetter.appMask? l).getD 0
    reftag := (lastSome NodataSetter.refTag? l).getD 0
    timeout := (lastSome NodataSetter.timeoutMs? l).getD 0 }

def ZnsAppend.requested (ns : Namespace) (zslba : U64) (nlb : U32) (data : Slice)
    (l : List ZnsAppendSetter) (control : U16) (fd : I32) : NvmeZnsAppendArgs :=
  { zslba := zslba
    data := data
    metadata := lastSome ZnsAppendSetter.metadata? l
    argsSize := sizeofNvmeZnsAppendArgs
    fd := fd
    timeout := (lastSome ZnsAppendSetter.timeoutMs? l).getD 0
    nsid := ns.nsid
    ilbrt := (lastSome ZnsAppendSetter.refTag? l).getD 0
    dataLen := asU32 data.length
    metadataLen := optLen (lastSome ZnsAppendSetter.metadata? l)
    nlb := asU16 (nlb.toNat - 1)
    control := control
    lbat := ((lastSome ZnsAppendSetter.appTag? l).getD (0, 0)).1
    lbatm := ((lastSome ZnsAppendSetter.appTag? l).getD (0, 0)).2
    rsvd1 := Vector.replicate 4 0
    ilbrtU64 := (lastSome ZnsAppendSetter.refTagU64? l).getD 0 }

theorem DataIo.args_sets (ns : Namespace) (slba : U64) (nlb : U32) (data : Slice)
    (l : List DataSetter) (fd : I32) :
    let b := (DataIo.new ns slba nlb data).sets l
    b.args (asU16 (b.nlb.toNat - 1)) fd =
      DataIo.requested ns slba nlb data l (controlAfter DataSetter.mask 0 l) fd := by
  rw [DataIo.sets_eq]
  dsimp only [DataIo.args, DataIo.after, DataIo.requested, DataIo.new]
  cases lastSome DataSetter.metadata? l <;> rfl

theorem NodataIo.args_sets {F : Type} (bit : F → U16) (ns : Namespace) (slba : U64) (nlb : U32)
    (l : List (NodataSetter F)) (fd : I32) :
    let b := (NodataIo.new ns slba nlb).sets bit l
    b.args (asU16 (b.nlb.toNat - 1)) fd =
      NodataIo.requested ns slba nlb l (controlAfter (NodataSetter.mask bit) 0 l) fd := by
  rw [NodataIo.sets_eq]
  rfl

theorem ZnsAppend.args_sets (ns : Namespace) (zslba : U64) (nlb : U32) (data : Slice)
    (l : List ZnsAppendSetter) (fd : I32) :
    let b := (ZnsAppend.new ns zslba nlb data).sets l
    b.args (asU16 (b.nlb.toNat - 1)) fd =
      ZnsAppend.requested ns zslba nlb data l (controlAfter ZnsAppendSetter.mask 0 l) fd := by
  rw [ZnsAppend.sets_eq]
  dsimp only [ZnsAppend.args, ZnsAppend.after, ZnsAppend.requested, ZnsAppend.new]
  rw [Option.or_none]

structure FlagBits {F : Type} (bit : F → U16) : Prop where
  single : ∀ f, ∃ i < 16, bit f = .twoPow 16 i
  injective : Function.Injective bit

theorem FlagBits.getLsbD_iff {F : Type} {bit : F → U16} (hbits : FlagBits bit) (f : F) (i : ℕ) :
    (bit f).getLsbD i = true ↔ bit f = .twoPow 16 i := by
  obtain ⟨j, hj, hf⟩ := hbits.single f
  rw [hf, BitVec.getLsbD_twoPow]
  constructor
  · intro hij
    obtain rfl : j = i := by simpa [hj] using hij
    rfl
  · intro heq
    -- bit `j` of `twoPow 16 i` can only be set for `j = i`
    have hbit := congrArg (fun w => BitVec.getLsbD w j) heq
    simp only [BitVec.getLsbD_twoPow, hj, decide_true, Bool.true_and] at hbit
    simp at hbit ⊢
    omega

/-- The laws of one builder with the calls `S`, the flags `F` and the arguments `A`.
`execute l` runs it after the calls `l`, and `args?` finds its arguments in a call. -/
structure SetterLaws {S F A α : Type} [DecidableEq S] (slot : S → S) (flag : F → S)
    (bit : F → U16) (execute : List S → Ffi α) (args? : Call → Option A) (control : A → U16)
    (requested : List S → U16 → I32 → A) : Prop where
  permute : ∀ l₁ l₂, (∀ k, (l₁.filter fun s => slot s = k) = l₂.filter fun s => slot s = k) →
    execute l₁ = execute l₂
  repeatFlag : ∀ f l₁ l₂, flag f ∈ l₁ ++ l₂ → execute (l₁ ++ flag f :: l₂) = execute (l₁ ++ l₂)
  depends : ∀ l₁ l₂, SameLast slot l₁ l₂ → execute l₁ = execute l₂
  recorded : ∀ l, (execute l).OnlyCalls fun c => ∀ args, args? c = some args →
    ∃ fd, args = requested l (control args) fd
  control_iff : ∀ l, (execute l).OnlyCalls fun c => ∀ args, args? c = some args →
    ∀ i, (control args).getLsbD i = true ↔ ∃ f, flag f ∈ l ∧ bit f = .twoPow 16 i
  bits : FlagBits bit

theorem SetterLaws.of_lastWins {B S F A α : Type} [DecidableEq S] {slot : S → S} {flag : F → S}
    {bit : F → U16} {set : B → S → B} {b : B} {exec : B → Ffi α} {args? : Call → Option A}
    {control : A → U16} {requested : List S → U16 → I32 → A} (mask : S → U16)
    (hset : LastWins slot set) (hflag : ∀ f s, slot s = slot (flag f) → s = flag f)
    (hmask : ∀ s i, (mask s).getLsbD i = true ↔ ∃ f, s = flag f ∧ (bit f).getLsbD i = true)
    (hbits : FlagBits bit) (hcontrol : ∀ l w fd, control (requested l w fd) = w)
    (hargs : ∀ l, (exec (l.foldl set b)).OnlyCalls fun c => ∀ args, args? c = some args →
      ∃ fd, args = requested l (controlAfter mask 0 l) fd) :
    SetterLaws slot flag bit (fun l => exec (l.foldl set b)) args? control requested := by
  have hdepends : ∀ l₁ l₂, SameLast slot l₁ l₂ → exec (l₁.foldl set b) = exec (l₂.foldl set b) :=
    fun l₁ l₂ hl => congrArg exec (hset.foldl_eq hl b)
  refine ⟨fun l₁ l₂ hl => hdepends l₁ l₂ (sameLast_of_filter_eq hl),
    fun f l₁ l₂ hmem => hdepends _ _ (sameLast_insert (hflag f) hmem), hdepends,
    fun l => ?_, fun l => ?_, hbits⟩
  · refine (hargs l).mono fun c hc args hcall => ?_
    obtain ⟨fd, rfl⟩ := hc args hcall
    exact ⟨fd, by rw [hcontrol]⟩
  · refine (hargs l).mono fun c hc args hcall i => ?_
    obtain ⟨fd, rfl⟩ := hc args hcall
    have hzero : (0 : U16).getLsbD i = false := BitVec.getLsbD_zero
    rw [hcontrol, getLsbD_controlAfter, hzero, Bool.false_or, List.any_eq_true]
    constructor
    · rintro ⟨s, hs, hbit⟩
      obtain ⟨f, rfl, hf⟩ := (hmask s i).mp hbit
      exact ⟨f, hs, (hbits.getLsbD_iff f i).mp hf⟩
    · rintro ⟨f, hf, hbit⟩
      exact ⟨flag f, hf, (hmask _ i).mpr ⟨f, rfl, (hbits.getLsbD_iff f i).mpr hbit⟩⟩

theorem DataFlag.bits : FlagBits DataFlag.bit where
  single f := by
    cases f
    · exact ⟨14, by decide⟩
    · exact ⟨15, by decide⟩
    · exact ⟨13, by decide⟩
    · exact ⟨10, by decide⟩
    · exact ⟨11, by decide⟩
    · exact ⟨12, by decide⟩
    · exact ⟨4, by decide⟩
    · exact ⟨8, by decide⟩
  injective f g := by cases f <;> cases g <;> decide

theorem NodataFlag.bits : FlagBits NodataFlag.bit where
  single f := by
    cases f
    · exact ⟨14, by decide⟩
    · exact ⟨15, by decide⟩
    · exact ⟨13, by decide⟩
    · exact ⟨10, by decide⟩
    · exact ⟨11, by decide⟩
    · exact ⟨12, by decide⟩
  injective f g := by cases f <;> cases g <;> decide

theorem WriteZeroesFlag.bits : FlagBits WriteZeroesFlag.bit where
  single f := by
    cases f with
    | nodata f => exact NodataFlag.bits.single f
    | deallocate => exact ⟨9, by decide⟩
    | noDeallocateAfterZero => exact ⟨7, by decide⟩
  injective f g := by
    cases f with
    | nodata f =>
      cases g with
      | nodata g => exact fun h => congrArg WriteZeroesFlag.nodata (NodataFlag.bits.injective h)
      | deallocate => cases f <;> decide
      | noDeallocateAfterZero => cases f <;> decide
    | deallocate => rcases g with g | _ | _ <;> first | decide | (cases g <;> decide)
    | noDeallocateAfterZero => rcases g with g | _ | _ <;> first | decide | (cases g <;> decide)

theorem ZnsAppendFlag.bits : FlagBits ZnsAppendFlag.bit where
  single f := by
    cases f
    · exact ⟨14, by decide⟩
    · exact ⟨15, by decide⟩
    · exact ⟨13, by decide⟩
    · exact ⟨12, by decide⟩
    · exact ⟨11, by decide⟩
    · exact ⟨10, by decide⟩
  injective f g := by cases f <;> cases g <;> decide

def ZnsAppendFlag.dataFlag : ZnsAppendFlag → DataFlag
  | .fua => .fua
  | .limitedRetry => .limitedRetry
  | .protectionAction => .protectionAction
  | .checkGuard => .checkGuard
  | .checkApptag => .checkApptag
  | .checkReftag => .checkReftag

def ZnsAppendFlag.nodataFlag : ZnsAppendFlag → NodataFlag
  | .fua => .fua
  | .limitedRetry => .limitedRetry
  | .protectionAction => .protectionAction
  | .checkGuard => .checkGuard
  | .checkApptag => .checkApptag
  | .checkReftag => .checkReftag

section
variable (ns : Namespace) (slba : U64) (nlb : U32) (data : Slice)

theorem DataIo.setterLaws {α : Type} (opcode : U8) {execute : DataIo → Ffi α}
    (hexec : ∀ b, (execute b).discard = (b.request opcode).program) :
    SetterLaws DataSetter.slot .flag DataFlag.bit
      (fun l => execute ((DataIo.new ns slba nlb data).sets l)) Call.ioArgs? (·.control)
      (DataIo.requested ns slba nlb data) := by
  refine .of_lastWins DataSetter.mask DataIo.lastWins ?_ ?_ DataFlag.bits (fun _ _ _ => rfl)
    fun l => ?_
  · intro f s hs
    cases s <;> cases hs
    rfl
  · intro s i
    cases s <;> simp [DataSetter.mask]
  · rw [← onlyCalls_discard, hexec, DataIo.request_onlyArgs]
    exact fun _ fd _ => ⟨fd, DataIo.args_sets ns slba nlb data l fd⟩

theorem NodataIo.setterLaws {F : Type} [DecidableEq F] {bit : F → U16} (hbits : FlagBits bit)
    (opcode : U8) :
    SetterLaws NodataSetter.slot .flag bit
      (fun l => NodataIo.executeWith opcode ((NodataIo.new ns slba nlb).sets bit l)) Call.ioArgs?
      (·.control) (NodataIo.requested ns slba nlb) := by
  refine .of_lastWins (NodataSetter.mask bit) (NodataIo.lastWins bit) ?_ ?_ hbits
    (fun _ _ _ => rfl) fun l => ?_
  · intro f s hs
    cases s <;> cases hs
    rfl
  · intro s i
    cases s <;> simp [NodataSetter.mask]
  · rw [← onlyCalls_discard, NodataIo.executeWith_discard, NodataIo.request_onlyArgs]
    exact fun _ fd _ => ⟨fd, NodataIo.args_sets bit ns slba nlb l fd⟩

theorem ZnsAppend.setterLaws :
    SetterLaws ZnsAppendSetter.slot .flag ZnsAppendFlag.bit
      (fun l => ((ZnsAppend.new ns slba nlb data).sets l).execute) Call.appendArgs? (·.control)
      (ZnsAppend.requested ns slba nlb data) := by
  refine .of_lastWins ZnsAppendSetter.mask ZnsAppend.lastWins ?_ ?_ ZnsAppendFlag.bits
    (fun _ _ _ => rfl) fun l => ?_
  · intro f s hs
    cases s <;> cases hs
    rfl
  · intro s i
    cases s <;> simp [ZnsAppendSetter.mask]
  · rw [← onlyCalls_discard, ZnsAppend.execute_discard, ZnsAppend.request_onlyArgs]
    exact fun _ fd _ => ⟨fd, ZnsAppend.args_sets ns slba nlb data l fd⟩

end

def Verify.sets (b : Verify) (calls : List (NodataSetter NodataFlag)) : Verify :=
  calls.foldl Verify.set b

def WriteZeroes.sets (b : WriteZeroes) (calls : List (NodataSetter WriteZeroesFlag)) :
    WriteZeroes :=
  calls.foldl WriteZeroes.set b

theorem io_setters_commute (ns : Namespace) (slba : U64) (nlb : U32) (data : Slice) :
    SetterLaws DataSetter.slot .flag DataFlag.bit
      (fun l => Read.execute ((DataIo.new ns slba nlb data).sets l)) Call.ioArgs? (·.control)
      (DataIo.requested ns slba nlb data) ∧
    SetterLaws DataSetter.slot .flag DataFlag.bit
      (fun l => Write.execute ((DataIo.new ns slba nlb data).sets l)) Call.ioArgs? (·.control)
      (DataIo.requested ns slba nlb data) ∧
    SetterLaws DataSetter.slot .flag DataFlag.bit
      (fun l => Compare.execute ((DataIo.new ns slba nlb data).sets l)) Call.ioArgs? (·.control)
      (DataIo.requested ns slba nlb data) ∧
    SetterLaws NodataSetter.slot .flag NodataFlag.bit
      (fun l => Verify.execute (Verify.sets (NodataIo.new ns slba nlb) l)) Call.ioArgs? (·.control)
      (NodataIo.requested ns slba nlb) ∧
    SetterLaws NodataSetter.slot .flag WriteZeroesFlag.bit
      (fun l => WriteZeroes.execute (WriteZeroes.sets (NodataIo.new ns slba nlb) l)) Call.ioArgs?
      (·.control) (NodataIo.requested ns slba nlb) ∧
    SetterLaws ZnsAppendSetter.slot .flag ZnsAppendFlag.bit
      (fun l => ((ZnsAppend.new ns slba nlb data).sets l).execute) Call.appendArgs? (·.control)
      (ZnsAppend.requested ns slba nlb data) ∧
    ∀ f : ZnsAppendFlag, f.bit = f.dataFlag.bit ∧ f.bit = f.nodataFlag.bit := by
  refine ⟨DataIo.setterLaws ns slba nlb data opcRead Read.execute_discard,
    DataIo.setterLaws ns slba nlb data opcWrite Write.execute_discard,
    DataIo.setterLaws ns slba nlb data opcCompare Compare.execute_discard,
    NodataIo.setterLaws ns slba nlb NodataFlag.bits opcVerify,
    NodataIo.setterLaws ns slba nlb WriteZeroesFlag.bits opcWriteZeroes,
    ZnsAppend.setterLaws ns slba nlb data, fun f => ?_⟩
  cases f <;> exact ⟨rfl, rfl⟩

/-- The tag libnvme puts into the command, for each structure that has two members for it. -/
structure TagLibrary where
  io : NvmeIoArgs → U64
  copy : NvmeCopyArgs → U64
  append : NvmeZnsAppendArgs → U64

/-- Where the announced size reaches past the 64-bit member, the tag comes from there. -/
structure TagLibrary.Documented (lib : TagLibrary) : Prop where
  io_eq : ∀ args, 88 ≤ args.argsSize.toInt → lib.io args = args.reftagU64
  copy_eq : ∀ args, 72 ≤ args.argsSize.toInt → lib.copy args = args.ilbrtU64
  append_eq : ∀ args, 80 ≤ args.argsSize.toInt → lib.append args = args.ilbrtU64

def TagLibrary.tag? (lib : TagLibrary) : Call → Option U64
  | .nvmeIo args _ => some (lib.io args)
  | .nvmeCopy args => some (lib.copy args)
  | .nvmeZnsAppend args => some (lib.append args)
  | _ => none

inductive RefTag where
  | w32 (tag : U32)
  | w64 (tag : U64)
  deriving DecidableEq

namespace RefTag

def value : RefTag → U64
  | .w32 tag => tag.setWidth 64
  | .w64 tag => tag

def wide? : RefTag → Option U64
  | .w32 _ => none
  | .w64 tag => some tag

end RefTag

def DataSetter.tag? : DataSetter → Option RefTag
  | .refTag tag => some (.w32 tag)
  | .refTagU64 tag => some (.w64 tag)
  | _ => none

def CopySetter.tag? : CopySetter → Option RefTag
  | .destRefTag tag => some (.w32 tag)
  | .destRefTagU64 tag => some (.w64 tag)
  | _ => none

def ZnsAppendSetter.tag? : ZnsAppendSetter → Option RefTag
  | .refTag ilbrt => some (.w32 ilbrt)
  | .refTagU64 ilbrt => some (.w64 ilbrt)
  | _ => none

theorem DataSetter.wide_tag (s : DataSetter) : s.tag?.bind RefTag.wide? = s.refTagU64? := by
  cases s <;> rfl

theorem ZnsAppendSetter.wide_tag (s : ZnsAppendSetter) :
    s.tag?.bind RefTag.wide? = s.refTagU64? := by
  cases s <;> rfl

inductive Tagged where
  | read (ns : Namespace) (slba : U64) (nlb : U32) (data : Slice) (calls : List DataSetter)
  | write (ns : Namespace) (slba : U64) (nlb : U32) (data : Slice) (calls : List DataSetter)
  | compare (ns : Namespace) (slba : U64) (nlb : U32) (data : Slice) (calls : List DataSetter)
  | copy (ns : Namespace) (sdlba : U64) (ranges : List CopyRange) (calls : List CopySetter)
  | znsAppend (ns : Namespace) (zslba : U64) (nlb : U32) (data : Slice)
      (calls : List ZnsAppendSetter)

namespace Tagged

def run (e : Endian) : Tagged → Ffi Unit
  | .read ns slba nlb data calls =>
    (Read.execute ((DataIo.new ns slba nlb data).sets calls)).discard
  | .write ns slba nlb data calls =>
    (Write.execute ((DataIo.new ns slba nlb data).sets calls)).discard
  | .compare ns slba nlb data calls =>
    (Compare.execute ((DataIo.new ns slba nlb data).sets calls)).discard
  | .copy ns sdlba ranges calls => (((Copy.new ns sdlba ranges).sets calls).execute e).discard
  | .znsAppend ns zslba nlb data calls =>
    ((ZnsAppend.new ns zslba nlb data).sets calls).execute.discard

def Valid : Tagged → Prop
  | .read ns slba nlb data _ | .write ns slba nlb data _ | .compare ns slba nlb data _ =>
    (DataIo.new ns slba nlb data).Valid
  | .copy ns sdlba ranges _ => (Copy.new ns sdlba ranges).Valid
  | .znsAppend ns zslba nlb data _ => (ZnsAppend.new ns zslba nlb data).Valid

def tags : Tagged → List RefTag
  | .read _ _ _ _ calls | .write _ _ _ _ calls | .compare _ _ _ _ calls =>
    calls.filterMap DataSetter.tag?
  | .copy _ _ _ calls => calls.filterMap CopySetter.tag?
  | .znsAppend _ _ _ _ calls => calls.filterMap ZnsAppendSetter.tag?

def lastTag (b : Tagged) : Option RefTag := b.tags.getLast?

def lastWide (b : Tagged) : Option U64 := (b.tags.filterMap RefTag.wide?).getLast?

def TagEffective (lib : TagLibrary) (e : Endian) (b : Tagged) : Prop :=
  ∀ t, b.lastTag = some t → (b.run e).OnlyCalls fun c => ∀ v, lib.tag? c = some v → v = t.value

theorem lastWide_of_lastTag {b : Tagged} {t : U64} (hb : b.lastTag = some (.w64 t)) :
    b.lastWide = some t := by
  obtain ⟨earlier, htags⟩ := List.getLast?_eq_some_iff.mp hb
  rw [lastWide, htags, List.filterMap_append]
  exact List.getLast?_concat

theorem lastWide_eq {S : Type} {tag? : S → Option RefTag} {wide? : S → Option U64}
    (hwide : ∀ s, (tag? s).bind RefTag.wide? = wide? s) (calls : List S) :
    ((calls.filterMap tag?).filterMap RefTag.wide?).getLast? = lastSome wide? calls := by
  rw [List.filterMap_filterMap, lastSome_eq_getLast?]
  exact congrArg (fun f => (List.filterMap f calls).getLast?) (funext hwide)

theorem request_onlyTag {lib : TagLibrary} {check : Except Error Unit} {P : Prop}
    (hcheck : Decides check P) (ns : Namespace) {command : I32 → Call} {tag w : U64}
    (hcommand : ∀ fd, lib.tag? (command fd) = some tag) :
    ((request (.ofExcept check) (.ns ns) (.ok ()) command).program.OnlyCalls fun c =>
      ∀ v, lib.tag? c = some v → v = w) ↔ (P → tag = w) := by
  rw [request_onlySent (.ns ns) command hcheck lib.tag? rfl hcommand]
  exact imp_congr_right fun _ => ⟨fun h => h 0 rfl, fun h _ _ => h⟩

theorem data_onlyTag {lib : TagLibrary} (hlib : lib.Documented) (opcode : U8) (ns : Namespace)
    (slba : U64) (nlb : U32) (data : Slice) (calls : List DataSetter) (w : U64) :
    ((((DataIo.new ns slba nlb data).sets calls).request opcode).program.OnlyCalls fun c =>
      ∀ v, lib.tag? c = some v → v = w) ↔
        ((DataIo.new ns slba nlb data).Valid →
          (lastSome DataSetter.refTagU64? calls).getD 0 = w) := by
  have hvalid : ((DataIo.new ns slba nlb data).sets calls).Valid ↔
      (DataIo.new ns slba nlb data).Valid := by rw [DataIo.sets_eq]; rfl
  have hsize : 88 ≤ sizeofNvmeIoArgs.toInt := by decide
  refine request_onlyTag ((DataIo.check_decides _).of_iff hvalid) _ fun fd => ?_
  rw [DataIo.args_sets ns slba nlb data calls fd, TagLibrary.tag?, hlib.io_eq _ hsize]
  rfl

theorem append_onlyTag {lib : TagLibrary} (hlib : lib.Documented) (ns : Namespace)
    (zslba : U64) (nlb : U32) (data : Slice) (calls : List ZnsAppendSetter) (w : U64) :
    (((ZnsAppend.new ns zslba nlb data).sets calls).request.program.OnlyCalls fun c =>
      ∀ v, lib.tag? c = some v → v = w) ↔
        ((ZnsAppend.new ns zslba nlb data).Valid →
          (lastSome ZnsAppendSetter.refTagU64? calls).getD 0 = w) := by
  have hvalid : ((ZnsAppend.new ns zslba nlb data).sets calls).Valid ↔
      (ZnsAppend.new ns zslba nlb data).Valid := by rw [ZnsAppend.sets_eq]; rfl
  have hsize : 80 ≤ sizeofNvmeZnsAppendArgs.toInt := by decide
  refine request_onlyTag ((ZnsAppend.check_decides _).of_iff hvalid) _ fun fd => ?_
  rw [ZnsAppend.args_sets ns zslba nlb data calls fd, TagLibrary.tag?,
    hlib.append_eq _ hsize]
  rfl

theorem copy_onlyTag {lib : TagLibrary} (hlib : lib.Documented) (e : Endian) (ns : Namespace)
    (sdlba : U64) (ranges : List CopyRange) (calls : List CopySetter) (w : U64) :
    ((((Copy.new ns sdlba ranges).sets calls).request e).program.OnlyCalls fun c =>
      ∀ v, lib.tag? c = some v → v = w) ↔
        ((Copy.new ns sdlba ranges).Valid →
          (lastSome (fun s => (CopySetter.tag? s).bind RefTag.wide?) calls).getD 0 = w) := by
  have hranges : ((Copy.new ns sdlba ranges).sets calls).ranges = ranges :=
    foldl_fixed Copy.ranges (fun _ s => by cases s <;> rfl) calls _
  have htag : ((Copy.new ns sdlba ranges).sets calls).ilbrtU64 =
      (lastSome (fun s => (CopySetter.tag? s).bind RefTag.wide?) calls).getD 0 :=
    foldl_register Copy.ilbrtU64 (fun _ s => by cases s <;> rfl) calls _
  have hvalid : ((Copy.new ns sdlba ranges).sets calls).Valid ↔
      (Copy.new ns sdlba ranges).Valid := by rw [Copy.Valid, hranges]; rfl
  have hsize : 72 ≤ sizeofNvmeCopyArgs.toInt := by decide
  refine request_onlyTag ((Copy.check_decides _).of_iff hvalid) _ fun fd => ?_
  rw [TagLibrary.tag?, hlib.copy_eq _ hsize, ← htag]
  rfl

theorem onlyTag_iff {lib : TagLibrary} (hlib : lib.Documented) (e : Endian) (b : Tagged) (w : U64) :
    ((b.run e).OnlyCalls fun c => ∀ v, lib.tag? c = some v → v = w) ↔
      (b.Valid → b.lastWide.getD 0 = w) := by
  cases b with
  | read ns slba nlb data calls =>
    rw [run, Read.execute_discard, data_onlyTag hlib, lastWide, tags,
      lastWide_eq DataSetter.wide_tag]
    rfl
  | write ns slba nlb data calls =>
    rw [run, Write.execute_discard, data_onlyTag hlib, lastWide, tags,
      lastWide_eq DataSetter.wide_tag]
    rfl
  | compare ns slba nlb data calls =>
    rw [run, Compare.execute_discard, data_onlyTag hlib, lastWide, tags,
      lastWide_eq DataSetter.wide_tag]
    rfl
  | copy ns sdlba ranges calls =>
    rw [run, Copy.execute_discard, copy_onlyTag hlib, lastWide, tags, lastWide_eq fun _ => rfl]
    rfl
  | znsAppend ns zslba nlb data calls =>
    rw [run, ZnsAppend.execute_discard, append_onlyTag hlib, lastWide, tags,
      lastWide_eq ZnsAppendSetter.wide_tag]
    rfl

end Tagged

theorem ref_tag_effective_iff (lib : TagLibrary) (hlib : lib.Documented) (e : Endian)
    (b : Tagged) :
    b.TagEffective lib e ↔
      ¬b.Valid ∨ ∀ t, b.lastTag = some (.w32 t) → b.lastWide.getD 0 = t.setWidth 64 := by
  constructor
  · intro heffective
    by_cases hvalid : b.Valid
    · exact Or.inr fun t ht => (b.onlyTag_iff hlib e _).mp (heffective _ ht) hvalid
    · exact Or.inl hvalid
  · intro hcond t ht
    rw [Tagged.onlyTag_iff hlib]
    intro hvalid
    cases t with
    | w32 t => exact (hcond.resolve_left (not_not_intro hvalid)) t ht
    | w64 t =>
      rw [Tagged.lastWide_of_lastTag ht]
      rfl

def wideTags : TagLibrary := ⟨(·.reftagU64), (·.ilbrtU64), (·.ilbrtU64)⟩

theorem wideTags_documented : wideTags.Documented :=
  ⟨fun _ _ => rfl, fun _ _ => rfl, fun _ _ => rfl⟩

def writeTagged (tag : U32) : Tagged :=
  .write blockNs 0 1 (.zeros 512 (by decide)) [.flag .checkReftag, .refTag tag]

theorem ref_tag_effective_write :
    (writeTagged 7).TagEffective wideTags .little ↔
      ¬(writeTagged 7).Valid ∨
        ∀ t, (writeTagged 7).lastTag = some (.w32 t) →
          (writeTagged 7).lastWide.getD 0 = t.setWidth 64 :=
  ref_tag_effective_iff wideTags wideTags_documented .little (writeTagged 7)

/-- A Write told `ref_tag(7)` goes out with the tag 0. -/
theorem ref_tag_seven_dropped :
    (writeTagged 7).lastTag = some (.w32 7) ∧ ¬(writeTagged 7).TagEffective wideTags .little := by
  refine ⟨rfl, fun heffective => ?_⟩
  have hvalid : (writeTagged 7).Valid := ⟨Slice.length_zeros 512 (by decide), by decide, by decide⟩
  have htag := (Tagged.onlyTag_iff wideTags_documented .little _ _).mp (heffective _ rfl) hvalid
  revert htag
  decide

end LibnvmeRs
