import LibnvmeRs.Controller
import LibnvmeRs.IoRanges
import LibnvmeRs.NamespaceCommands
import LibnvmeRs.Zns

/-!
# The operations on a device

One type for all the calls of the crate that open a device file. Each of them is
a request: `run_eq` says so once, and the tables beside it say which arguments
pass, how large a buffer the operation allocates for itself, and which command
goes out. The statements about all operations rest on these.
-/

namespace LibnvmeRs

open Interaction Program ByteOrder

inductive DeviceOp where
  | read (b : Read)
  | write (b : Write)
  | compare (b : Compare)
  | verify (b : Verify)
  | writeZeroes (b : WriteZeroes)
  | writeUncorrectable (b : WriteUncorrectable)
  | dsm (b : Dsm)
  | copy (b : Copy)
  | znsMgmtSend (b : ZnsMgmtSend)
  | znsMgmtRecv (b : ZnsMgmtRecv)
  | znsAppend (b : ZnsAppend)
  | reservationReport (b : ReservationReport)
  | directiveSend (b : DirectiveSend)
  | directiveRecv (b : DirectiveRecv)
  | readToVec (ns : Namespace) (slba : U64) (nlb : U32)
  | format (b : Format)
  | adminPassthru (c : Controller) (args : PassthruArgs)
  | ioPassthru (c : Controller) (args : PassthruArgs)
  | securitySend (c : Controller) (a : SecurityArgs)
  | securityReceive (c : Controller) (a : SecurityArgs)
  | getLbaStatus (c : Controller) (args : GetLbaStatusArgs) (buf : Slice)
  | getLogPage (c : Controller) (page : Slice) (lid : U8) (nsid : U32)
  | errorLog (c : Controller) (maxEntries : U32)
  | fwDownload (c : Controller) (image : Slice)
  | attachNamespace (c : Controller) (nsid : U32) (controllerIds : List U16)
  | detachNamespace (c : Controller) (nsid : U32) (controllerIds : List U16)
  | getHostId (f : Features) (sel : FeatureSelect) (exhid : Bool) (hostid : Slice)
  | setHostId (f : Features) (exhid save : Bool) (hostid : Slice)

namespace DeviceOp
variable (t : Target)

def run : DeviceOp → Ffi Unit
  | .read b => (Read.execute b).discard
  | .write b => (Write.execute b).discard
  | .compare b => (Compare.execute b).discard
  | .verify b => (Verify.execute b).discard
  | .writeZeroes b => (WriteZeroes.execute b).discard
  | .writeUncorrectable b => (WriteUncorrectable.execute b).discard
  | .dsm b => (b.execute t.endian).discard
  | .copy b => (b.execute t.endian).discard
  | .znsMgmtSend b => b.execute.discard
  | .znsMgmtRecv b => b.execute.discard
  | .znsAppend b => b.execute.discard
  | .reservationReport b => b.execute.discard
  | .directiveSend b => (DirectiveSend.execute b).discard
  | .directiveRecv b => (DirectiveRecv.execute b).discard
  | .readToVec ns slba nlb => (ns.readToVec t slba nlb).discard
  | .format b => b.execute.discard
  | .adminPassthru c args => (c.adminPassthru args).discard
  | .ioPassthru c args => (c.ioPassthru args).discard
  | .securitySend c a => (c.securitySend a).discard
  | .securityReceive c a => (c.securityReceive a).discard
  | .getLbaStatus c args buf => (c.getLbaStatus args buf).discard
  | .getLogPage c page lid nsid => (c.getLogPage t page lid nsid).discard
  | .errorLog c maxEntries => (c.errorLog t maxEntries).discard
  | .fwDownload c image => (c.fwDownload image).discard
  | .attachNamespace c nsid controllerIds => (c.attachNamespace nsid controllerIds).discard
  | .detachNamespace c nsid controllerIds => (c.detachNamespace nsid controllerIds).discard
  | .getHostId f sel exhid hostid => (f.getHostId sel exhid hostid).discard
  | .setHostId f exhid save hostid => (f.setHostId exhid save hostid).discard

def request : DeviceOp → Request
  | .read b => b.request opcRead
  | .write b => b.request opcWrite
  | .compare b => b.request opcCompare
  | .verify b => NodataIo.request opcVerify b
  | .writeZeroes b => NodataIo.request opcWriteZeroes b
  | .writeUncorrectable b => NodataIo.request opcWriteUncor b
  | .dsm b => b.request t.endian
  | .copy b => b.request t.endian
  | .znsMgmtSend b => b.request
  | .znsMgmtRecv b => b.request
  | .znsAppend b => b.request
  | .reservationReport b => b.request
  | .directiveSend b => DirectiveSend.request b
  | .directiveRecv b => DirectiveRecv.request b
  | .readToVec ns slba nlb => ns.readToVecRequest t slba nlb
  | .format b => b.request
  | .adminPassthru c args => c.request fun fd => .nvmeAdminPassthru (args.command fd)
  | .ioPassthru c args => c.request fun fd => .nvmeIoPassthru (args.command fd)
  | .securitySend c a => c.request fun fd => .nvmeSecuritySend (a.sendArgs fd)
  | .securityReceive c a => c.request fun fd => .nvmeSecurityReceive (a.receiveArgs fd)
  | .getLbaStatus c args buf => c.request fun fd => .nvmeGetLbaStatus (args.command buf fd)
  | .getLogPage c page lid nsid => c.getLogPageRequest t page lid nsid
  | .errorLog c maxEntries => c.errorLogRequest t maxEntries
  | .fwDownload c image => c.request fun fd => .nvmeFwDownloadSeq (fwDownloadArgs image fd)
  | .attachNamespace c nsid controllerIds =>
    c.nsAttachRequest nsid controllerIds nvmeNsAttachSelCtrlAttach
  | .detachNamespace c nsid controllerIds =>
    c.nsAttachRequest nsid controllerIds nvmeNsAttachSelCtrlDeattach
  | .getHostId f sel exhid hostid => f.hostIdRequest exhid hostid fun fd =>
    .nvmeGetFeaturesHostId fd sel.asRaw exhid (asU32 hostid.length) hostid
  | .setHostId f exhid save hostid => f.hostIdRequest exhid hostid fun fd =>
    .nvmeSetFeaturesHostId fd exhid save hostid

def Idle : DeviceOp → Prop
  | .errorLog _ maxEntries => maxEntries = 0
  | _ => False

theorem run_idle {op : DeviceOp} (hop : op.Idle) : op.run t = .ret () := by
  cases op with
  | errorLog c maxEntries =>
    obtain rfl : maxEntries = 0 := hop
    rfl
  | _ => exact hop.elim

theorem run_eq {op : DeviceOp} (hop : ¬op.Idle) : op.run t = (op.request t).program := by
  cases op with
  | read b => exact Read.execute_discard b
  | write b => exact Write.execute_discard b
  | compare b => exact Compare.execute_discard b
  | verify b => exact NodataIo.executeWith_discard opcVerify b
  | writeZeroes b => exact NodataIo.executeWith_discard opcWriteZeroes b
  | writeUncorrectable b => exact NodataIo.executeWith_discard opcWriteUncor b
  | dsm b => exact b.execute_discard t.endian
  | copy b => exact b.execute_discard t.endian
  | znsMgmtSend b => exact b.execute_discard
  | znsMgmtRecv b => exact b.execute_discard
  | znsAppend b => exact b.execute_discard
  | reservationReport b => exact b.execute_discard
  | directiveSend b => exact DirectiveSend.execute_discard b
  | directiveRecv b => exact DirectiveRecv.execute_discard b
  | readToVec ns slba nlb => exact ns.readToVec_discard t slba nlb
  | format b => exact b.execute_discard
  | adminPassthru c args => exact c.adminPassthru_discard args
  | ioPassthru c args => exact c.ioPassthru_discard args
  | securitySend c a => exact c.securitySend_discard a
  | securityReceive c a => exact c.securityReceive_discard a
  | getLbaStatus c args buf => exact c.getLbaStatus_discard args buf
  | getLogPage c page lid nsid => exact c.getLogPage_discard t page lid nsid
  | errorLog c maxEntries => exact c.errorLog_discard t hop
  | fwDownload c image => exact c.fwDownload_discard image
  | attachNamespace c nsid controllerIds => exact c.nsAttachOp_discard nsid controllerIds _
  | detachNamespace c nsid controllerIds => exact c.nsAttachOp_discard nsid controllerIds _
  | getHostId f sel exhid hostid => exact f.getHostId_discard sel exhid hostid
  | setHostId f exhid save hostid => exact f.setHostId_discard exhid save hostid

def ArgsValid : DeviceOp → Prop
  | .read b | .write b | .compare b => DataIo.Valid b
  | .verify b | .writeZeroes b | .writeUncorrectable b => NlbValid b.nlb
  | .dsm b => b.Valid
  | .copy b => b.Valid
  | .znsMgmtRecv b => b.data ≠ none
  | .znsAppend b => b.Valid
  | .reservationReport b => b.Valid
  | .readToVec _ _ nlb => NlbValid nlb
  | .attachNamespace _ _ controllerIds | .detachNamespace _ _ controllerIds =>
    controllerIds.length ≤ 2047
  | .getHostId _ _ exhid hostid | .setHostId _ exhid _ hostid =>
    hostid.length = expectedHostIdLen exhid
  | _ => True

def allocated : DeviceOp → ℕ
  | .readToVec ns _ nlb => nlb.toNat * ns.lbaSize.toNat
  | .getLogPage _ page _ _ => page.length
  | .errorLog _ maxEntries => sizeofNvmeErrorLogPage * maxEntries.toNat
  | _ => 0

def Refuses : DeviceOp → Error → Prop
  | .getHostId .., e | .setHostId .., e => e = hostIdLenError
  | _, e => ∃ m, e = .invalidArgument m

def CheckSpec (op : DeviceOp) (x : Exit Error Unit) : Prop :=
  x = .aborted ∨ (op.ArgsValid ∧ x = .ok ()) ∨ (¬op.ArgsValid ∧ ∃ e, op.Refuses e ∧ x = .error e)

theorem checkSpec_of_decides {op : DeviceOp} {check : Except Error Unit}
    (hcheck : Decides check op.ArgsValid) (hop : ∀ m, op.Refuses (.invalidArgument m)) :
    op.CheckSpec (.ofExcept check) := by
  rcases hcheck with ⟨hvalid, u, rfl⟩ | ⟨hvalid, m, rfl⟩
  · exact Or.inr (Or.inl ⟨hvalid, rfl⟩)
  · exact Or.inr (Or.inr ⟨hvalid, _, hop m, rfl⟩)

theorem checkSpec_hostId {op : DeviceOp} {exhid : Bool} {hostid : Slice}
    (hvalid : op.ArgsValid ↔ hostid.length = expectedHostIdLen exhid)
    (hop : op.Refuses hostIdLenError) :
    op.CheckSpec (.ofExcept (Features.hostIdCheck exhid hostid)) := by
  rcases Features.hostIdCheck_cases exhid hostid with ⟨hlen, hcheck⟩ | ⟨hlen, hcheck⟩
  · exact Or.inr (Or.inl ⟨hvalid.mpr hlen, by rw [hcheck, Exit.ofExcept_ok]⟩)
  · exact Or.inr (Or.inr ⟨fun h => hlen (hvalid.mp h), _, hop, by rw [hcheck, Exit.ofExcept_error]⟩)

theorem check_spec (op : DeviceOp) : op.CheckSpec (op.request t).check := by
  cases op with
  | read b | write b | compare b => exact checkSpec_of_decides b.check_decides fun m => ⟨m, rfl⟩
  | verify b | writeZeroes b | writeUncorrectable b =>
    exact checkSpec_of_decides (NodataIo.check_decides b) fun m => ⟨m, rfl⟩
  | dsm b => exact checkSpec_of_decides b.check_decides fun m => ⟨m, rfl⟩
  | copy b => exact checkSpec_of_decides b.check_decides fun m => ⟨m, rfl⟩
  | znsMgmtRecv b => exact checkSpec_of_decides b.check_decides fun m => ⟨m, rfl⟩
  | znsAppend b => exact checkSpec_of_decides b.check_decides fun m => ⟨m, rfl⟩
  | reservationReport b => exact checkSpec_of_decides b.check_decides fun m => ⟨m, rfl⟩
  | attachNamespace c nsid controllerIds | detachNamespace c nsid controllerIds =>
    exact checkSpec_of_decides (Controller.nsAttachCheck_decides _) fun m => ⟨m, rfl⟩
  | getHostId f sel exhid hostid | setHostId f exhid save hostid =>
    exact checkSpec_hostId Iff.rfl rfl
  | readToVec ns slba nlb =>
    change CheckSpec _ ((ns.readToVecRead t slba nlb).bind fun b => .ofExcept b.check)
    by_cases hlen : nlb.toNat * ns.lbaSize.toNat ≤ t.allocLimit
    · rw [ns.readToVecRead_ok t slba hlen]
      exact checkSpec_of_decides (DataIo.new_check_decides ns slba (Slice.length_zeros _ _))
        fun m => ⟨m, rfl⟩
    · rw [ns.readToVecRead_aborted t slba hlen]
      exact Or.inl rfl
  | _ => exact Or.inr (Or.inl ⟨trivial, rfl⟩)

theorem boxDefault_map (page : Slice) :
    (boxDefault t page).map (fun _ => ()) =
      if page.length ≤ t.allocLimit then .ok () else .aborted := by
  by_cases hpage : page.length ≤ t.allocLimit
  · rw [boxDefault_ok t hpage, if_pos hpage, Exit.map_ok]
  · rw [boxDefault_aborted t hpage, if_neg hpage, Exit.map_aborted]

theorem errorLogBuffer_map (maxEntries : U32) :
    (errorLogBuffer t maxEntries).map (fun _ => ()) =
      if sizeofNvmeErrorLogPage * maxEntries.toNat ≤ t.allocLimit then .ok () else .aborted := by
  rw [errorLogBuffer_eq]
  by_cases hlen : sizeofNvmeErrorLogPage * maxEntries.toNat ≤ t.allocLimit
  · rw [t.alloc_ok hlen, if_pos hlen, Exit.map_ok]
  · rw [t.alloc_aborted hlen, if_neg hlen, Exit.map_aborted]

theorem ready_spec (op : DeviceOp) :
    (op.request t).ready = .ok () ∨ (op.request t).ready = .aborted := by
  cases op with
  | getLogPage c page lid nsid =>
    change (boxDefault t page).map _ = _ ∨ (boxDefault t page).map _ = _
    rw [boxDefault_map]
    split_ifs
    · exact Or.inl rfl
    · exact Or.inr rfl
  | errorLog c maxEntries =>
    change (errorLogBuffer t maxEntries).map _ = _ ∨ (errorLogBuffer t maxEntries).map _ = _
    rw [errorLogBuffer_map]
    split_ifs
    · exact Or.inl rfl
    · exact Or.inr rfl
  | _ => exact Or.inl rfl

theorem aborted_iff (op : DeviceOp) :
    ((op.request t).check = .aborted ∨ (op.request t).ready = .aborted) ↔
      ¬op.allocated ≤ t.allocLimit := by
  have hsmall : ∀ x : Except Error Unit,
      (Exit.ofExcept x = .aborted ∨ (Exit.ok () : Exit Error Unit) = .aborted) ↔
        ¬0 ≤ t.allocLimit := by
    intro x
    simp [Exit.ofExcept_ne_aborted]
  cases op with
  | readToVec ns slba nlb =>
    change ((ns.readToVecRead t slba nlb).bind (fun b => .ofExcept b.check) = _ ∨ _) ↔
      ¬nlb.toNat * ns.lbaSize.toNat ≤ t.allocLimit
    by_cases hlen : nlb.toNat * ns.lbaSize.toNat ≤ t.allocLimit
    · rw [ns.readToVecRead_ok t slba hlen]
      refine iff_of_false ?_ (not_not_intro hlen)
      rintro (hcheck | hready)
      · exact Exit.ofExcept_ne_aborted _ hcheck
      · cases hready
    · rw [ns.readToVecRead_aborted t slba hlen]
      exact iff_of_true (Or.inl rfl) hlen
  | getLogPage c page lid nsid =>
    change (Exit.ok () = Exit.aborted ∨ (boxDefault t page).map _ = _) ↔
      ¬page.length ≤ t.allocLimit
    rw [boxDefault_map]
    simp
  | errorLog c maxEntries =>
    change (Exit.ok () = Exit.aborted ∨ (errorLogBuffer t maxEntries).map _ = _) ↔
      ¬sizeofNvmeErrorLogPage * maxEntries.toNat ≤ t.allocLimit
    rw [errorLogBuffer_map]
    simp
  | read b | write b | compare b | verify b | writeZeroes b | writeUncorrectable b =>
    exact hsmall _
  | dsm b => exact hsmall _
  | copy b => exact hsmall _
  | znsMgmtRecv b => exact hsmall _
  | znsAppend b => exact hsmall _
  | reservationReport b => exact hsmall _
  | attachNamespace | detachNamespace | getHostId | setHostId => exact hsmall _
  | _ => exact hsmall (.ok ())

theorem accepted_iff (op : DeviceOp) :
    ((op.request t).check = .ok () ∧ (op.request t).ready = .ok ()) ↔
      op.ArgsValid ∧ op.allocated ≤ t.allocLimit := by
  have haborted := op.aborted_iff t
  constructor
  · rintro ⟨hcheck, hready⟩
    -- nothing aborted, so the buffers fit
    rw [hcheck, hready] at haborted
    have hspec := op.check_spec t
    rw [hcheck] at hspec
    rcases hspec with h | ⟨hvalid, -⟩ | ⟨-, e, -, he⟩
    · cases h
    · exact ⟨hvalid, by simpa using haborted⟩
    · cases he
  · rintro ⟨hvalid, hlen⟩
    have hnot := fun h => haborted.mp h hlen
    have hcheck : (op.request t).check = .ok () := by
      rcases op.check_spec t with h | ⟨-, h⟩ | ⟨h, -⟩
      · exact (hnot (Or.inl h)).elim
      · exact h
      · exact (h hvalid).elim
    exact ⟨hcheck, (op.ready_spec t).resolve_right fun h => hnot (Or.inr h)⟩

def device : DeviceOp → Device
  | .read b | .write b | .compare b => .ns b.ns
  | .verify b | .writeZeroes b | .writeUncorrectable b => .ns b.ns
  | .dsm b => .ns b.ns
  | .copy b => .ns b.ns
  | .znsMgmtSend b => .ns b.ns
  | .znsMgmtRecv b => .ns b.ns
  | .znsAppend b => .ns b.ns
  | .reservationReport b => .ns b.ns
  | .directiveSend b => .ns b.ns
  | .directiveRecv b => .ns b.ns
  | .readToVec ns _ _ => .ns ns
  | .format b => .ns b.ns
  | .adminPassthru c _ | .ioPassthru c _ | .securitySend c _ | .securityReceive c _
  | .getLbaStatus c _ _ | .getLogPage c _ _ _ | .errorLog c _ | .fwDownload c _
  | .attachNamespace c _ _ | .detachNamespace c _ _ => .ctrl c
  | .getHostId f _ _ _ | .setHostId f _ _ _ => .ctrl f.ctrl

theorem request_device (op : DeviceOp) :
    op.request t = LibnvmeRs.request (op.request t).check op.device (op.request t).ready
      (op.request t).command := by
  cases op <;> rfl

theorem onlyCalls_of {op : DeviceOp} {P : Call → Prop} (hopen : P op.device.getFd)
    (hsend : ∀ fd, P ((op.request t).command fd)) : (op.run t).OnlyCalls P := by
  by_cases hidle : op.Idle
  · rw [op.run_idle t hidle]
    exact fun _ _ _ c hc => by cases hc
  · rw [op.run_eq t hidle, op.request_device, request_onlyCalls]
    exact fun _ => ⟨hopen, fun _ fd _ => hsend fd⟩

def Sends (op : DeviceOp) : Prop :=
  ¬op.Idle ∧ op.ArgsValid ∧ op.allocated ≤ t.allocLimit

theorem onlyCalls_iff (op : DeviceOp) {P : Call → Prop} (hopen : ∀ d : Device, P d.getFd) :
    (op.run t).OnlyCalls P ↔
      (op.Sends t → ∀ fd : I32, fd.slt 0 = false → P ((op.request t).command fd)) := by
  by_cases hidle : op.Idle
  · rw [op.run_idle t hidle]
    exact iff_of_true (fun _ _ _ c hc => by cases hc) fun hsends => (hsends.1 hidle).elim
  · rw [op.run_eq t hidle, op.request_device, request_onlyCalls]
    have haccepted := op.accepted_iff t
    constructor
    · rintro h ⟨-, hvalid⟩ fd hfd
      obtain ⟨hcheck, hready⟩ := haccepted.mpr hvalid
      exact (h hcheck).2 hready fd hfd
    · intro h hcheck
      exact ⟨hopen op.device, fun hready fd hfd => h ⟨hidle, haccepted.mp ⟨hcheck, hready⟩⟩ fd hfd⟩

end DeviceOp
end LibnvmeRs
