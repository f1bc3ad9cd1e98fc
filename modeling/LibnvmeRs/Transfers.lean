import LibnvmeRs.Builders
import LibnvmeRs.Operation

/-!
# Buffers and announced lengths

What a command says about the caller's buffers: the 32-bit length fields beside
them, and the counts that size a transfer on their own. The library transfers
what is announced, so a data-in command must not announce more than the buffer
holds, and a length field must not be a shortened one. The last part compares
the length the data commands ask for with the one the namespace format implies.
-/

namespace LibnvmeRs

open Interaction Program

def optLength (data : Option Slice) : ℕ := data.elim 0 Slice.length

def lengths? (data : Option Slice) : List ℕ := data.toList.map Slice.length

/-- The transfers into the caller's memory that a call announces, each with the
length of the buffer behind it. `lbaSize` is the block size of the namespace. -/
def Call.transfersIn (lbaSize : ℕ) : Call → List (ℕ × ℕ)
  | .nvmeIo args opcode =>
    if opcode = opcRead then
      [(args.dataLen.toNat, optLength args.data),
        ((args.nlb.toNat + 1) * lbaSize, optLength args.data),
        (args.metadataLen.toNat, optLength args.metadata)]
    else []
  | .nvmeResvReport args => [(args.len.toNat, args.report.length)]
  | .nvmeZnsMgmtRecv args => [(args.dataLen.toNat, args.data.length)]
  | .nvmeDirectiveRecv args => [(args.dataLen.toNat, optLength args.data)]
  | .nvmeSecurityReceive args =>
    [(args.dataLen.toNat, args.data.length), (args.al.toNat, args.data.length)]
  | .nvmeGetLbaStatus args => [(4 * args.mndw.toNat, args.lbas.length)]
  | .nvmeGetLog args => [(args.len.toNat, optLength args.log)]
  | .nvmeGetFeaturesHostId _ _ _ len hostid => [(len.toNat, hostid.length)]
  | _ => []

def Call.FitsBuffers (lbaSize : ℕ) (c : Call) : Prop := ∀ x ∈ c.transfersIn lbaSize, x.1 ≤ x.2

namespace DeviceOp
variable (t : Target)

def lbaSize : DeviceOp → ℕ
  | .read b => b.ns.lbaSize.toNat
  | .readToVec ns _ _ => ns.lbaSize.toNat
  | _ => 0

def WithinBuffers (op : DeviceOp) : Prop := (op.run t).OnlyCalls (Call.FitsBuffers op.lbaSize)

def CountsFit : DeviceOp → Prop
  | .securityReceive _ a => a.len.toNat ≤ a.data.length
  | .getLbaStatus _ args buf => 4 * args.mndw.toNat ≤ buf.length
  | _ => True

end DeviceOp

theorem optLen_le (data : Option Slice) : (optLen data).toNat ≤ optLength data := by
  cases data with
  | none => exact Nat.le_refl 0
  | some buf => exact asU32_le buf.length

theorem DataIo.args_metadata (b : DataIo) (nlbEnc : U16) (fd : I32) :
    (b.args nlbEnc fd).metadata = b.metadata ∧
      (b.args nlbEnc fd).metadataLen = optLen b.metadata := by
  rw [DataIo.args]
  cases b.metadata <;> exact ⟨rfl, rfl⟩

theorem DataIo.args_data (b : DataIo) (nlbEnc : U16) (fd : I32) :
    (b.args nlbEnc fd).data = some b.data ∧
      (b.args nlbEnc fd).dataLen = asU32 b.data.length ∧ (b.args nlbEnc fd).nlb = nlbEnc := by
  rw [DataIo.args]
  cases b.metadata <;> exact ⟨rfl, rfl, rfl⟩

theorem DataIo.read_fits {b : DataIo} (hb : b.Valid) (fd : I32) :
    (Call.nvmeIo (b.args (asU16 (b.nlb.toNat - 1)) fd) opcRead).FitsBuffers b.ns.lbaSize.toNat := by
  obtain ⟨hlen, hvalid⟩ := hb
  obtain ⟨hdata, hdataLen, hnlb⟩ := b.args_data (asU16 (b.nlb.toNat - 1)) fd
  obtain ⟨hmetadata, hmetadataLen⟩ := b.args_metadata (asU16 (b.nlb.toNat - 1)) fd
  intro x hx
  rw [Call.transfersIn, if_pos rfl, hdata, hdataLen, hnlb, hmetadata, hmetadataLen,
    hvalid.encode_add_one] at hx
  rcases List.mem_cons.mp hx with rfl | hx
  · exact asU32_le b.data.length
  rcases List.mem_cons.mp hx with rfl | hx
  · exact Nat.le_of_eq hlen.symm
  obtain rfl := List.mem_singleton.mp hx
  exact optLen_le b.metadata

theorem Call.fits_one {lbaSize m n : ℕ} {c : Call} (hc : c.transfersIn lbaSize = [(m, n)])
    (hmn : m ≤ n) : c.FitsBuffers lbaSize := by
  intro x hx
  rw [hc] at hx
  obtain rfl := List.mem_singleton.mp hx
  exact hmn

theorem Call.fits_none {lbaSize : ℕ} {c : Call} (hc : c.transfersIn lbaSize = []) :
    c.FitsBuffers lbaSize := by
  intro x hx
  rw [hc] at hx
  cases hx

namespace DeviceOp
variable (t : Target)

theorem readToVec_command (ns : Namespace) (slba : U64) {nlb : U32}
    (hlen : nlb.toNat * ns.lbaSize.toNat ≤ t.allocLimit) (fd : I32) :
    ∃ buf : Slice, buf.length = nlb.toNat * ns.lbaSize.toNat ∧
      ((readToVec ns slba nlb).request t).command fd =
        .nvmeIo ((DataIo.new ns slba nlb buf).args (asU16 (nlb.toNat - 1)) fd) opcRead := by
  refine ⟨.zeros _ (Nat.le_trans hlen t.allocLimit_le), Slice.length_zeros _ _, ?_⟩
  change Call.nvmeIo (((ns.readToVecRead t slba nlb).getD _).args _ fd) opcRead = _
  rw [ns.readToVecRead_ok t slba hlen]
  rfl

theorem getLogPage_command (c : Controller) {page : Slice} (hlen : page.length ≤ t.allocLimit)
    (lid : U8) (nsid : U32) (fd : I32) :
    ((getLogPage c page lid nsid).request t).command fd =
      .nvmeGetLog (logArgs (lid.setWidth 32) nsid page (asU32 page.length) fd) := by
  change Call.nvmeGetLog (logArgs _ _ ((boxDefault t page).getD .empty) _ fd) = _
  rw [boxDefault_ok t hlen]
  rfl

theorem errorLog_command (c : Controller) {maxEntries : U32}
    (hlen : sizeofNvmeErrorLogPage * maxEntries.toNat ≤ t.allocLimit) (fd : I32) :
    ∃ entries : Slice, entries.length = sizeofNvmeErrorLogPage * maxEntries.toNat ∧
      ((errorLog c maxEntries).request t).command fd =
        .nvmeGetLog (errorLogArgs maxEntries entries fd) := by
  obtain ⟨entries, hbuffer, hentries⟩ := errorLogBuffer_ok t hlen
  refine ⟨entries, hentries, ?_⟩
  change Call.nvmeGetLog (errorLogArgs _ ((errorLogBuffer t maxEntries).getD .empty) fd) = _
  rw [hbuffer]
  rfl

theorem command_fits_iff (op : DeviceOp) (hop : op.Sends t) (fd : I32) :
    ((op.request t).command fd).FitsBuffers op.lbaSize ↔ op.CountsFit := by
  obtain ⟨-, hvalid, hlen⟩ := hop
  cases op with
  | securityReceive c a =>
    change (∀ x ∈ [((asU32 a.data.length).toNat, a.data.length), (a.len.toNat, a.data.length)],
      x.1 ≤ x.2) ↔ a.len.toNat ≤ a.data.length
    simp [asU32_le]
  | getLbaStatus c args buf =>
    change (∀ x ∈ [(4 * args.mndw.toNat, buf.length)], x.1 ≤ x.2) ↔ _
    exact List.forall_mem_singleton
  | read b => exact iff_of_true (DataIo.read_fits hvalid fd) trivial
  | readToVec ns slba nlb =>
    obtain ⟨buf, hbuf, hcommand⟩ := readToVec_command t ns slba hlen fd
    have hread : (DataIo.new ns slba nlb buf).Valid := ⟨hbuf, hvalid⟩
    rw [hcommand]
    exact iff_of_true (DataIo.read_fits hread fd) trivial
  | reservationReport b => exact iff_of_true (Call.fits_one rfl (asU32_le _)) trivial
  | znsMgmtRecv b => exact iff_of_true (Call.fits_one rfl (asU32_le _)) trivial
  | directiveRecv b => exact iff_of_true (Call.fits_one rfl (optLen_le b.data)) trivial
  | getHostId f sel exhid hostid => exact iff_of_true (Call.fits_one rfl (asU32_le _)) trivial
  | getLogPage c page lid nsid =>
    rw [getLogPage_command t c hlen]
    exact iff_of_true (Call.fits_one rfl (asU32_le page.length)) trivial
  | errorLog c maxEntries =>
    obtain ⟨entries, hentries, hcommand⟩ := errorLog_command t c hlen fd
    rw [hcommand]
    refine iff_of_true (Call.fits_one rfl ?_) trivial
    change _ ≤ entries.length
    rw [hentries]
    exact asU32_le _
  | _ => exact iff_of_true (Call.fits_none rfl) trivial

end DeviceOp

theorem within_buffers_iff (t : Target) (op : DeviceOp) : op.WithinBuffers t ↔ op.CountsFit := by
  have hopen : ∀ d : Device, d.getFd.FitsBuffers op.lbaSize := by
    intro d
    cases d <;> exact Call.fits_none rfl
  rw [DeviceOp.WithinBuffers, op.onlyCalls_iff t hopen]
  constructor
  · intro hfits
    by_cases hop : op.Sends t
    · exact (op.command_fits_iff t hop 0).mp (hfits hop 0 rfl)
    · cases op with
      | securityReceive c a => exact (hop ⟨not_false, trivial, Nat.zero_le _⟩).elim
      | getLbaStatus c args buf => exact (hop ⟨not_false, trivial, Nat.zero_le _⟩).elim
      | _ => exact trivial
  · intro hcounts hop fd _
    exact (op.command_fits_iff t hop fd).mpr hcounts

theorem get_lba_status_overruns :
    let op : DeviceOp := .getLbaStatus 0 { mndw := 1024 } .empty
    ((op.request littleHost).command 3).transfersIn op.lbaSize = [(4096, 0)] ∧
      ¬op.WithinBuffers littleHost := by
  intro op
  refine ⟨rfl, fun hwithin => ?_⟩
  have hopen : ∀ d : Device, d.getFd.FitsBuffers op.lbaSize := by
    intro d
    cases d <;> exact Call.fits_none rfl
  have hfits := (op.onlyCalls_iff littleHost hopen).mp hwithin
    ⟨not_false, trivial, Nat.zero_le _⟩ 3 rfl (4096, 0) List.mem_cons_self
  revert hfits
  decide

def Call.lengthFields : Call → List (U32 × ℕ)
  | .nvmeIo args _ =>
    (lengths? args.data).map (args.dataLen, ·) ++ (lengths? args.metadata).map (args.metadataLen, ·)
  | .nvmeResvReport args => [(args.len, args.report.length)]
  | .nvmeZnsMgmtSend args => (lengths? args.data).map (args.dataLen, ·)
  | .nvmeZnsMgmtRecv args => [(args.dataLen, args.data.length)]
  | .nvmeZnsAppend args =>
    (args.dataLen, args.data.length) :: (lengths? args.metadata).map (args.metadataLen, ·)
  | .nvmeDirectiveSend args | .nvmeDirectiveRecv args =>
    (lengths? args.data).map (args.dataLen, ·)
  | .nvmeAdminPassthru args | .nvmeIoPassthru args =>
    (lengths? args.data).map (args.dataLen, ·) ++ (lengths? args.metadata).map (args.metadataLen, ·)
  | .nvmeSecuritySend args => [(args.dataLen, args.data.length)]
  | .nvmeSecurityReceive args => [(args.dataLen, args.data.length)]
  | .nvmeGetLog args => (lengths? args.log).map (args.len, ·)
  | .nvmeFwDownloadSeq args => [(args.size, args.buf.length)]
  | .nvmeGetFeaturesHostId _ _ _ len hostid => [(len, hostid.length)]
  | _ => []

def Call.LengthsTrue (c : Call) : Prop := ∀ x ∈ c.lengthFields, x.1.toNat = x.2

namespace DeviceOp
variable (t : Target)

def buffers : DeviceOp → List ℕ
  | .read b | .write b | .compare b => b.data.length :: lengths? b.metadata
  | .znsMgmtSend b => lengths? b.data
  | .znsMgmtRecv b => lengths? b.data
  | .znsAppend b => b.data.length :: lengths? b.metadata
  | .reservationReport b => lengths? b.buf
  | .directiveSend b => lengths? b.data
  | .directiveRecv b => lengths? b.data
  | .readToVec ns _ nlb => [nlb.toNat * ns.lbaSize.toNat]
  | .adminPassthru _ args | .ioPassthru _ args => lengths? args.data ++ lengths? args.metadata
  | .securitySend _ a | .securityReceive _ a => [a.data.length]
  | .getLogPage _ page _ _ => [page.length]
  | .errorLog _ maxEntries => [sizeofNvmeErrorLogPage * maxEntries.toNat]
  | .fwDownload _ image => [image.length]
  | .getHostId _ _ _ hostid => [hostid.length]
  | _ => []

def LengthsTrue (op : DeviceOp) : Prop := (op.run t).OnlyCalls Call.LengthsTrue

end DeviceOp

theorem lengths?_optLen (data : Option Slice) :
    (lengths? data).map (optLen data, ·) = (lengths? data).map fun n => (asU32 n, n) := by
  cases data <;> rfl

theorem DataIo.lengthFields (b : DataIo) (nlbEnc : U16) (fd : I32) (opcode : U8) :
    (Call.nvmeIo (b.args nlbEnc fd) opcode).lengthFields =
      (b.data.length :: lengths? b.metadata).map fun n => (asU32 n, n) := by
  obtain ⟨hdata, hdataLen, -⟩ := b.args_data nlbEnc fd
  obtain ⟨hmetadata, hmetadataLen⟩ := b.args_metadata nlbEnc fd
  rw [Call.lengthFields, hdata, hdataLen, hmetadata, hmetadataLen, lengths?_optLen]
  rfl

namespace DeviceOp
variable (t : Target)

theorem command_lengthFields (op : DeviceOp) (hop : op.Sends t) (fd : I32) :
    ((op.request t).command fd).lengthFields = op.buffers.map fun n => (asU32 n, n) := by
  obtain ⟨-, hvalid, hlen⟩ := hop
  cases op with
  | read b | write b | compare b => exact b.lengthFields _ fd _
  | znsMgmtSend b => exact lengths?_optLen b.data
  | directiveSend b => exact lengths?_optLen b.data
  | directiveRecv b => exact lengths?_optLen b.data
  | znsMgmtRecv b =>
    obtain ⟨buf, hbuf⟩ := Option.ne_none_iff_exists'.mp hvalid
    change [(asU32 (b.data.getD .empty).length, (b.data.getD .empty).length)] =
      (lengths? b.data).map _
    rw [hbuf]
    rfl
  | reservationReport b =>
    obtain ⟨buf, hbuf, -⟩ := hvalid
    change [(asU32 (b.buf.getD .empty).length, (b.buf.getD .empty).length)] = (lengths? b.buf).map _
    rw [hbuf]
    rfl
  | znsAppend b => exact congrArg ((asU32 b.data.length, b.data.length) :: ·) (lengths?_optLen _)
  | adminPassthru c args | ioPassthru c args =>
    change (lengths? args.data).map _ ++ (lengths? args.metadata).map _ = List.map _ (_ ++ _)
    rw [List.map_append, ← lengths?_optLen, ← lengths?_optLen]
    rfl
  | readToVec ns slba nlb =>
    obtain ⟨buf, hbuf, hcommand⟩ := readToVec_command t ns slba hlen fd
    rw [hcommand, DataIo.lengthFields, buffers, ← hbuf]
    rfl
  | getLogPage c page lid nsid =>
    rw [getLogPage_command t c hlen]
    rfl
  | errorLog c maxEntries =>
    obtain ⟨entries, hentries, hcommand⟩ := errorLog_command t c hlen fd
    rw [hcommand, buffers, ← hentries]
    change [(asU32 _, entries.length)] = [(asU32 entries.length, entries.length)]
    rw [hentries]
  | _ => rfl

end DeviceOp

theorem lengths_true_iff (t : Target) (op : DeviceOp) :
    op.LengthsTrue t ↔ (op.Sends t → ∀ n ∈ op.buffers, n < 2 ^ 32) := by
  have hopen : ∀ d : Device, d.getFd.LengthsTrue := by
    intro d x hx
    cases d <;> cases hx
  have hcommand : ∀ fd, op.Sends t →
      (((op.request t).command fd).LengthsTrue ↔ ∀ n ∈ op.buffers, n < 2 ^ 32) := by
    intro fd hop
    rw [Call.LengthsTrue, op.command_lengthFields t hop, List.forall_mem_map]
    exact forall₂_congr fun n _ => asU32_eq_iff
  rw [DeviceOp.LengthsTrue, op.onlyCalls_iff t hopen]
  constructor
  · intro htrue hop
    exact (hcommand 0 hop).mp (htrue hop 0 rfl)
  · intro hsmall hop fd _
    exact (hcommand fd hop).mpr (hsmall hop)

theorem fw_download_cut_short :
    let image := Slice.zeros (2 ^ 32) (by decide)
    (fwDownloadArgs image 3).size = 0 ∧ ¬(DeviceOp.fwDownload 0 image).LengthsTrue littleHost := by
  intro image
  have hlength : image.length = 2 ^ 32 := Slice.length_zeros (2 ^ 32) (by decide)
  have hsize : (fwDownloadArgs image 3).size = 0 := by
    change asU32 image.length = 0
    rw [hlength]
    decide
  have hopen : ∀ d : Device, d.getFd.LengthsTrue := by
    intro d x hx
    cases d <;> cases hx
  refine ⟨hsize, fun htrue => ?_⟩
  have hfield : (fwDownloadArgs image 3).size.toNat = image.length :=
    (DeviceOp.onlyCalls_iff littleHost _ hopen).mp htrue ⟨not_false, trivial, Nat.zero_le _⟩ 3 rfl
      ((fwDownloadArgs image 3).size, image.length) List.mem_cons_self
  rw [hsize, hlength] at hfield
  cases hfield

/-- What the controller transfers for `nlb` blocks: in extended mode each block
carries its metadata behind its data. -/
def MetadataSettings.transferLen (mode : MetadataSettings) (ns : NvmeNs) (nlb : U32) : ℕ :=
  match mode with
  | .separate => nlb.toNat * ns.getLbaSize.toNat
  | .extended => nlb.toNat * (ns.getLbaSize.toNat + ns.getMetaSize.toNat)

inductive DataCommand where
  | read (calls : List DataSetter)
  | write (calls : List DataSetter)
  | compare (calls : List DataSetter)
  | znsAppend (calls : List ZnsAppendSetter)

def DataCommand.op (ns : Namespace) (slba : U64) (nlb : U32) (data : Slice) :
    DataCommand → DeviceOp
  | .read calls => .read ((DataIo.new ns slba nlb data).sets calls)
  | .write calls => .write ((DataIo.new ns slba nlb data).sets calls)
  | .compare calls => .compare ((DataIo.new ns slba nlb data).sets calls)
  | .znsAppend calls => .znsAppend ((ZnsAppend.new ns slba nlb data).sets calls)

def DeviceOp.Accepts (t : Target) (op : DeviceOp) : Prop :=
  ∀ (σ : Type) (h : Handler Call Answer σ) (s : σ), ((op.run t).run h s).calls ≠ []

theorem DeviceOp.accepts_iff (t : Target) {op : DeviceOp} (hop : ¬op.Idle) :
    op.Accepts t ↔ (op.request t).check = .ok () := by
  have hensures : op.Accepts t ↔ (op.request t).program.Ensures fun trace _ => trace ≠ [] := by
    rw [ensures_iff_run, ← op.run_eq t hop]
    simp [DeviceOp.Accepts, Outcome.calls]
  rw [hensures, Submission.ensures_iff]
  constructor
  · rintro ⟨hrefused, -⟩
    by_contra hcheck
    exact hrefused hcheck rfl
  · intro hcheck
    refine ⟨fun h => (h hcheck).elim, fun _ r => ⟨fun _ _ => List.cons_ne_nil _ _, fun d _ => ?_⟩⟩
    exact ⟨fun _ => List.cons_ne_nil _ _, fun _ _ => List.cons_ne_nil _ _⟩

def DeviceOp.Refused (t : Target) (op : DeviceOp) : Prop := LibnvmeRs.Refused (op.run t)

theorem DeviceOp.accepts_of_decides (t : Target) {op : DeviceOp} (hop : ¬op.Idle)
    {check : Except Error Unit} {P : Prop} (hcheck : Decides check P)
    (hrequest : (op.request t).check = .ofExcept check) : op.Accepts t ↔ P := by
  rw [op.accepts_iff t hop, hrequest, Exit.ofExcept_eq_ok, hcheck.ok_iff]

theorem DeviceOp.refused_of_decides (t : Target) {op : DeviceOp} (hop : ¬op.Idle)
    {check : Except Error Unit} {P : Prop} (hcheck : Decides check P)
    (hrequest : (op.request t).check = .ofExcept check) (hP : ¬P) : op.Refused t := by
  intro σ h s
  obtain ⟨m, hm⟩ := hcheck.exists_error hP
  rw [op.run_eq t hop, Submission.program, hrequest, hm]
  exact ⟨rfl, m, rfl⟩

theorem DeviceOp.Refused.not_accepts {t : Target} {op : DeviceOp} (hop : op.Refused t) :
    ¬op.Accepts t := by
  intro haccepts
  obtain ⟨h, hcalls⟩ := hop.exists_stopped
  exact haccepts Unit h () hcalls

namespace DataCommand
variable (cmd : DataCommand) (ns : Namespace) (slba : U64) (nlb : U32) (data : Slice)

def check : Except Error Unit :=
  match cmd with
  | .read calls | .write calls | .compare calls => ((DataIo.new ns slba nlb data).sets calls).check
  | .znsAppend calls => ((ZnsAppend.new ns slba nlb data).sets calls).check

theorem not_idle : ¬(cmd.op ns slba nlb data).Idle := by
  cases cmd <;> exact not_false

theorem request_check (t : Target) :
    ((cmd.op ns slba nlb data).request t).check = .ofExcept (cmd.check ns slba nlb data) := by
  cases cmd <;> rfl

def ArgsValid : Prop := data.length = nlb.toNat * ns.lbaSize.toNat ∧ NlbValid nlb

theorem check_decides : Decides (cmd.check ns slba nlb data) (ArgsValid ns nlb data) := by
  cases cmd with
  | read calls | write calls | compare calls =>
    refine (DataIo.check_decides _).of_iff ?_
    rw [DataIo.sets_eq]
    rfl
  | znsAppend calls =>
    refine (ZnsAppend.check_decides _).of_iff ?_
    rw [ZnsAppend.sets_eq]
    rfl

theorem accepts_iff_valid (t : Target) :
    (cmd.op ns slba nlb data).Accepts t ↔ ArgsValid ns nlb data :=
  DeviceOp.accepts_of_decides t (cmd.not_idle ns slba nlb data) (cmd.check_decides ns slba nlb data)
    (cmd.request_check ns slba nlb data t)

end DataCommand

theorem DataCommand.accepts_iff (t : Target) (cmd : DataCommand) (ns : Namespace) (slba : U64)
    {nlb : U32} (hnlb : NlbValid nlb) (data : Slice) :
    (cmd.op ns slba nlb data).Accepts t ↔ data.length = nlb.toNat * ns.getLbaSize.toNat :=
  (cmd.accepts_iff_valid ns slba nlb data t).trans (and_iff_left hnlb)

/-- Exactly the buffers of the transferred length are accepted, and the getters say
what libnvme says. -/
def DataCommand.FollowsFormat (t : Target) (cmd : DataCommand) (ns : NvmeNs) (slba : U64)
    (nlb : U32) (mode : MetadataSettings) : Prop :=
  (∀ data, (cmd.op ns slba nlb data).Accepts t ↔ data.length = mode.transferLen ns nlb) ∧
    Namespace.lbaSize ns = ns.getLbaSize ∧ Namespace.metaSize ns = ns.getMetaSize

theorem follows_format_iff (t : Target) (cmd : DataCommand) (ns : NvmeNs) (slba : U64) (nlb : U32)
    (mode : MetadataSettings) (hnlb : NlbValid nlb) :
    cmd.FollowsFormat t ns slba nlb mode ↔ mode = .separate ∨ ns.getMetaSize = 0 := by
  obtain ⟨hmin, hmax⟩ := hnlb
  have haccepts := cmd.accepts_iff t ns slba ⟨hmin, hmax⟩
  constructor
  · rintro ⟨hlen, -⟩
    cases mode with
    | separate => exact Or.inl rfl
    | extended =>
      -- a buffer of the data alone is accepted, so the format may not ask for more
      have hbound : nlb.toNat * ns.getLbaSize.toNat ≤ isizeMax := by
        have hd := ns.getLbaSize.isLt
        have hprod : nlb.toNat * ns.getLbaSize.toNat ≤ 65536 * 2 ^ 32 :=
          Nat.mul_le_mul hmax (Nat.le_of_lt hd)
        exact Nat.le_trans hprod (by decide)
      have hzeros := Slice.length_zeros _ hbound
      have hext := (hlen (.zeros _ hbound)).mp ((haccepts _).mpr hzeros)
      rw [hzeros, MetadataSettings.transferLen] at hext
      have hsize := Nat.eq_of_mul_eq_mul_left hmin hext
      have hzero : (0 : I32).toNat = 0 := rfl
      exact Or.inr (BitVec.eq_of_toNat_eq (by omega))
  · intro hmode
    refine ⟨fun data => ?_, rfl, rfl⟩
    rw [haccepts data]
    rcases hmode with rfl | hmeta
    · rfl
    · cases mode with
      | separate => rfl
      | extended =>
        rw [MetadataSettings.transferLen, hmeta]
        rfl

theorem follows_format_plain_read :
    (DataCommand.read []).FollowsFormat littleHost blockNs 0 8 .extended ↔
      MetadataSettings.extended = .separate ∨ blockNs.getMetaSize = 0 :=
  follows_format_iff littleHost (.read []) blockNs 0 8 .extended ⟨by decide, by decide⟩

def metadataNs : Namespace := { id := 0, getNsid := 1, getLbaSize := 512, getMetaSize := 8 }

theorem extended_read_refused :
    ({ ns := metadataNs, metadata := .extended : Format }.args 3).mset = 1 ∧
      MetadataSettings.extended.transferLen metadataNs 1 = 520 ∧
      ¬(DeviceOp.read (DataIo.new metadataNs 0 1 (.zeros 520 (by decide)))).Accepts littleHost ∧
      (DeviceOp.read (DataIo.new metadataNs 0 1 (.zeros 512 (by decide)))).Accepts littleHost ∧
      ¬(DataCommand.read []).FollowsFormat littleHost metadataNs 0 1 .extended := by
  have hnlb : NlbValid 1 := ⟨by decide, by decide⟩
  have haccepts := (DataCommand.read []).accepts_iff littleHost metadataNs 0 hnlb
  have hlong : ¬(DeviceOp.read (DataIo.new metadataNs 0 1 (.zeros 520 (by decide)))).Accepts
      littleHost := by
    intro h
    have hlen := (haccepts _).mp h
    rw [Slice.length_zeros] at hlen
    revert hlen
    decide
  refine ⟨rfl, rfl, hlong, (haccepts _).mpr (Slice.length_zeros 512 (by decide)), ?_⟩
  intro hfollows
  exact hlong ((hfollows.1 _).mpr (Slice.length_zeros 520 (by decide)))

end LibnvmeRs
