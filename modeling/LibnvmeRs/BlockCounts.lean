import LibnvmeRs.RangeArrays
import LibnvmeRs.Transfers

/-!
# Block counts and metadata lengths

A caller counts blocks from one, the device from zero. The seven commands of a
single extent test the count before they encode it, Zone Append in its own order;
Copy encodes the counts of its ranges untested. The length of a metadata buffer,
which follows from the count and the format, is tested nowhere.
-/

namespace LibnvmeRs

open Interaction Program ByteOrder SetterCalls

def Call.blocks? : Call → Option ℕ
  | .nvmeIo args _ => some (args.nlb.toNat + 1)
  | .nvmeZnsAppend args => some (args.nlb.toNat + 1)
  | _ => none

inductive NodataCommand where
  | verify (calls : List (NodataSetter NodataFlag))
  | writeZeroes (calls : List (NodataSetter WriteZeroesFlag))
  | writeUncorrectable (timeouts : List U32)

namespace NodataCommand

def builder (ns : Namespace) (slba : U64) (nlb : U32) : NodataCommand → NodataIo
  | .verify calls => (NodataIo.new ns slba nlb).sets NodataFlag.bit calls
  | .writeZeroes calls => (NodataIo.new ns slba nlb).sets WriteZeroesFlag.bit calls
  | .writeUncorrectable timeouts =>
    timeouts.foldl WriteUncorrectable.timeoutMs (NodataIo.new ns slba nlb)

def op (cmd : NodataCommand) (ns : Namespace) (slba : U64) (nlb : U32) : DeviceOp :=
  let b := cmd.builder ns slba nlb
  match cmd with
  | .verify _ => .verify b
  | .writeZeroes _ => .writeZeroes b
  | .writeUncorrectable _ => .writeUncorrectable b

end NodataCommand

namespace DeviceOp

def opens (op : DeviceOp) {σ : Type} (h : Handler Call Answer σ) (s : σ) : Bool :=
  !(op.device.getFd.reply.cret (h op.device.getFd s).1).ret.slt 0

/-- Exactly the `valid` arguments pass; then the command, if the device opens, names
`nlb` blocks, and otherwise the operation is turned away. -/
structure ChecksBlocks (t : Target) (op : DeviceOp) (nlb : U32) (valid : Prop) : Prop where
  accepts : op.Accepts t ↔ valid
  encodes : valid → ∀ (σ : Type) (h : Handler Call Answer σ) (s : σ),
    ((op.run t).run h s).calls.filterMap Call.blocks? =
      if op.opens h s then [nlb.toNat] else []
  refuses : ¬valid → op.Refused t

theorem checksBlocks (t : Target) {op : DeviceOp} (hop : ¬op.Idle) {check : Except Error Unit}
    {nlb : U32} {valid : Prop} (hcheck : Decides check valid)
    (hrequest : (op.request t).check = .ofExcept check) (hready : (op.request t).ready = .ok ())
    (hblocks : valid → ∀ fd, ((op.request t).command fd).blocks? = some nlb.toNat) :
    op.ChecksBlocks t nlb valid where
  accepts := accepts_of_decides t hop hcheck hrequest
  refuses := refused_of_decides t hop hcheck hrequest
  encodes hvalid σ h s := by
    have hopen : op.device.getFd.blocks? = none := by
      cases op.device <;> rfl
    rw [op.run_eq t hop, op.request_device, hrequest, hcheck.ok_iff.mpr hvalid, hready,
      Exit.ofExcept_ok, request_calls, Device.openThen, opens, openedFd]
    cases (op.device.getFd.reply.cret (h op.device.getFd s).1).ret.slt 0 with
    | true => simp [hopen]
    | false => simp [hopen, hblocks hvalid]

end DeviceOp

theorem DataCommand.command_blocks (t : Target) (cmd : DataCommand) (ns : Namespace) (slba : U64)
    {nlb : U32} (hnlb : NlbValid nlb) (data : Slice) (fd : I32) :
    (((cmd.op ns slba nlb data).request t).command fd).blocks? = some nlb.toNat := by
  cases cmd with
  | read calls | write calls | compare calls =>
    have hargs := DataIo.args_sets ns slba nlb data calls fd
    change some ((DataIo.args _ _ fd).nlb.toNat + 1) = _
    rw [hargs]
    exact congrArg some (hnlb.encode_add_one)
  | znsAppend calls =>
    have hargs := ZnsAppend.args_sets ns slba nlb data calls fd
    change some ((ZnsAppend.args _ _ fd).nlb.toNat + 1) = _
    rw [hargs]
    exact congrArg some (hnlb.encode_add_one)

namespace NodataCommand
variable (cmd : NodataCommand) (ns : Namespace) (slba : U64) (nlb : U32)

theorem builder_nlb : (cmd.builder ns slba nlb).nlb = nlb := by
  cases cmd with
  | verify calls | writeZeroes calls =>
    exact foldl_fixed NodataIo.nlb (fun _ s => by cases s <;> rfl) calls _
  | writeUncorrectable timeouts =>
    have hset : ∀ b ms, (WriteUncorrectable.timeoutMs b ms).nlb = b.nlb := fun _ _ => rfl
    exact foldl_fixed NodataIo.nlb hset timeouts _

theorem request_check (t : Target) :
    ((cmd.op ns slba nlb).request t).check = .ofExcept (cmd.builder ns slba nlb).check := by
  cases cmd <;> rfl

theorem command_blocks (t : Target) (hnlb : NlbValid nlb) (fd : I32) :
    (((cmd.op ns slba nlb).request t).command fd).blocks? = some nlb.toNat := by
  have hblocks : (asU16 ((cmd.builder ns slba nlb).nlb.toNat - 1)).toNat + 1 = nlb.toNat := by
    rw [cmd.builder_nlb]
    exact hnlb.encode_add_one
  cases cmd <;> exact congrArg some hblocks

end NodataCommand

theorem block_counts_checked (t : Target) (ns : Namespace) (slba : U64) (nlb : U32) :
    (∀ (cmd : DataCommand) (data : Slice), (cmd.op ns slba nlb data).ChecksBlocks t nlb
      (data.length = nlb.toNat * ns.lbaSize.toNat ∧ 1 ≤ nlb.toNat ∧ nlb.toNat ≤ 65536)) ∧
    ∀ cmd : NodataCommand, (cmd.op ns slba nlb).ChecksBlocks t nlb
      (1 ≤ nlb.toNat ∧ nlb.toNat ≤ 65536) := by
  refine ⟨fun cmd data => ?_, fun cmd => ?_⟩
  · refine DeviceOp.checksBlocks t (cmd.not_idle ns slba nlb data)
      (cmd.check_decides ns slba nlb data) (cmd.request_check ns slba nlb data t) ?_ ?_
    · cases cmd <;> rfl
    · exact fun hvalid => cmd.command_blocks t ns slba hvalid.2 data
  · have hcheck : Decides (cmd.builder ns slba nlb).check (NlbValid nlb) := by
      have hdecides := (cmd.builder ns slba nlb).check_decides
      rwa [cmd.builder_nlb] at hdecides
    refine DeviceOp.checksBlocks t ?_ hcheck (cmd.request_check ns slba nlb t) ?_ ?_
    · cases cmd <;> exact not_false
    · cases cmd <;> rfl
    · exact cmd.command_blocks ns slba nlb t

namespace DataCommand
variable (t : Target) (cmd : DataCommand) (ns : Namespace) (slba : U64) (nlb : U32) (data : Slice)

def metadata : Option Slice :=
  match cmd with
  | .read calls | .write calls | .compare calls => lastSome DataSetter.metadata? calls
  | .znsAppend calls => lastSome ZnsAppendSetter.metadata? calls

/-- A metadata buffer passes at the length of `nlb` blocks only; without one nothing changes. -/
def MetadataChecked : Prop :=
  let op := cmd.op ns slba nlb data
  (∀ md ∈ cmd.metadata,
    (op.Accepts t → md.length = nlb.toNat * ns.metaSize.toNat) ∧
      (md.length ≠ nlb.toNat * ns.metaSize.toNat → op.Refused t)) ∧
    (cmd.metadata = none → (op.Accepts t ↔ ArgsValid ns nlb data))

theorem command_metadata (fd : I32) :
    (∃ args opcode, ((cmd.op ns slba nlb data).request t).command fd = .nvmeIo args opcode ∧
      args.metadata = cmd.metadata) ∨
    ∃ args, ((cmd.op ns slba nlb data).request t).command fd = .nvmeZnsAppend args ∧
      args.metadata = cmd.metadata := by
  cases cmd with
  | read calls | write calls | compare calls =>
    refine Or.inl ⟨_, _, rfl, ?_⟩
    rw [DataIo.args_sets]
    rfl
  | znsAppend calls =>
    refine Or.inr ⟨_, rfl, ?_⟩
    rw [ZnsAppend.args_sets]
    rfl

end DataCommand

theorem metadata_checked_iff (t : Target) (cmd : DataCommand) (ns : Namespace) (slba : U64)
    (nlb : U32) (data : Slice) :
    cmd.MetadataChecked t ns slba nlb data ↔
      (∀ md ∈ cmd.metadata, md.length = nlb.toNat * ns.metaSize.toNat) ∨
        ¬(data.length = nlb.toNat * ns.lbaSize.toNat ∧ 1 ≤ nlb.toNat ∧ nlb.toNat ≤ 65536) := by
  have haccepts := cmd.accepts_iff_valid ns slba nlb data t
  constructor
  · rintro ⟨hlen, -⟩
    by_cases hvalid : DataCommand.ArgsValid ns nlb data
    · exact Or.inl fun md hmd => (hlen md hmd).1 (haccepts.mpr hvalid)
    · exact Or.inr hvalid
  · rintro (hlen | hvalid)
    · exact ⟨fun md hmd => ⟨fun _ => hlen md hmd, fun h => (h (hlen md hmd)).elim⟩,
        fun _ => haccepts⟩
    · have hrefused := DeviceOp.refused_of_decides t (cmd.not_idle ns slba nlb data)
        (cmd.check_decides ns slba nlb data) (cmd.request_check ns slba nlb data t) hvalid
      refine ⟨fun md _ => ⟨fun h => (hrefused.not_accepts h).elim, fun _ => hrefused⟩, ?_⟩
      exact fun _ => haccepts

theorem empty_metadata_accepted :
    let cmd : DataCommand := .read [.metadata .empty]
    let data := Slice.zeros 512 (by decide)
    cmd.metadata = some .empty ∧ (cmd.op metadataNs 0 1 data).Accepts littleHost ∧
      ¬cmd.MetadataChecked littleHost metadataNs 0 1 data := by
  intro cmd data
  have hvalid : DataCommand.ArgsValid metadataNs 1 data :=
    ⟨Slice.length_zeros 512 (by decide), by decide, by decide⟩
  have haccepts := (cmd.accepts_iff_valid metadataNs 0 1 data littleHost).mpr hvalid
  refine ⟨rfl, haccepts, fun hchecked => ?_⟩
  have hlen := (hchecked.1 .empty rfl).1 haccepts
  revert hlen
  decide

def NvmeCopyArgs.sources (e : Endian) (args : NvmeCopyArgs) : List CopySource :=
  (List.range args.copy.length).map fun i =>
    DescriptorLayout.read ⟨32, 24, 4, 28, 30⟩ (field (i * 32) 32 (args.array e))

def totalBlocks (sources : List CopySource) : ℕ := (sources.map CopySource.nlb).sum

/-- Each descriptor names the blocks of its range, so all of them are written and no
other, and a Copy with a range of no blocks is turned away. -/
def Copy.NamesSources (t : Target) (b : Copy) : Prop :=
  ((b.execute t.endian).OnlyCalls fun c => ∀ args, c = .nvmeCopy args →
    args.sources t.endian = b.ranges.map CopyRange.source ∧
      totalBlocks (args.sources t.endian) = (b.ranges.map fun r => r.nlb.toNat).sum) ∧
    ((∃ r ∈ b.ranges, r.nlb = 0) → (DeviceOp.copy b).Refused t)

theorem Copy.args_sources (e : Endian) (b : Copy) (fd : I32) :
    (b.args e fd).sources e =
      b.ranges.map fun r => { r.source with nlb := r.nlb.toNat - 1 + 1 } := by
  rw [← b.args_read e fd, NvmeCopyArgs.sources]
  have hlength : (b.args e fd).copy.length = b.ranges.length := List.length_map _
  rw [hlength]

theorem copy_names_sources_iff (t : Target) (ns : Namespace) (sdlba : U64)
    (ranges : List CopyRange) (calls : List CopySetter) (hmin : 1 ≤ ranges.length)
    (hmax : ranges.length ≤ 128) :
    ((Copy.new ns sdlba ranges).sets calls).NamesSources t ↔ ∀ r ∈ ranges, 1 ≤ r.nlb.toNat := by
  have hvalid := Copy.sets_valid ns sdlba hmin hmax calls
  have hranges : ((Copy.new ns sdlba ranges).sets calls).ranges = ranges := Copy.sets_ranges _ calls
  generalize (Copy.new ns sdlba ranges).sets calls = b at hvalid hranges
  subst hranges
  rw [Copy.NamesSources, Copy.onlyCopies_iff]
  constructor
  · rintro ⟨hsources, -⟩ r hr
    have hread := (hsources hvalid 0 rfl).1
    rw [b.args_sources] at hread
    have hnlb := congrArg CopySource.nlb (List.map_inj_left.mp hread r hr)
    change r.nlb.toNat - 1 + 1 = r.nlb.toNat at hnlb
    omega
  · intro hnlb
    have hread : ∀ fd, (b.args t.endian fd).sources t.endian = b.ranges.map CopyRange.source := by
      intro fd
      rw [b.args_sources]
      refine List.map_congr_left fun r hr => ?_
      rw [Nat.sub_add_cancel (hnlb r hr)]
      rfl
    refine ⟨fun _ fd _ => ⟨hread fd, ?_⟩, ?_⟩
    · rw [hread, totalBlocks, List.map_map]
      rfl
    · rintro ⟨r, hr, hzero⟩
      have hpos := hnlb r hr
      rw [hzero] at hpos
      cases hpos

theorem copy_names_sources_two_ranges :
    ((Copy.new blockNs 0 [.new 0 8, .new 64 8]).sets [.fua]).NamesSources littleHost ↔
      ∀ r ∈ [CopyRange.new 0 8, .new 64 8], 1 ≤ r.nlb.toNat :=
  copy_names_sources_iff littleHost blockNs 0 [.new 0 8, .new 64 8] [.fua] (by decide) (by decide)

theorem copy_empty_range_copies_block :
    let b := Copy.new blockNs 0 [.new 64 0]
    (b.args .little 3).sources .little = [⟨64, 1, 0, 0, 0⟩] ∧
      (DeviceOp.copy b).Accepts littleHost ∧ ¬b.NamesSources littleHost := by
  intro b
  have hvalid : b.Valid := ⟨by decide, by decide⟩
  have hidle : ¬(DeviceOp.copy b).Idle := not_false
  have haccepts := (DeviceOp.accepts_of_decides littleHost hidle b.check_decides rfl).mpr hvalid
  refine ⟨by decide, haccepts, fun hsources => ?_⟩
  exact (hsources.2 ⟨.new 64 0, List.mem_cons_self, rfl⟩).not_accepts haccepts

end LibnvmeRs
