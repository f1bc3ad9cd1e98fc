import LibnvmeRs.Io

/-!
# Controller commands

Passthru, the security commands, Get LBA Status, log pages, firmware download,
namespace attachment and the Host Identifier feature. Buffers are the caller's,
except for the log pages, which are allocated once the device is open.
-/

namespace LibnvmeRs

open Interaction Program ByteOrder

abbrev Controller := NvmeCtrl

namespace Controller

def openFd (c : Controller) : Ffi I32 := do
  let r ← ask (Call.nvmeCtrlGetFd c)
  openedFd r

end Controller

structure PassthruArgs where
  opcode : U8 := 0
  flags : U8 := 0
  rsvd : U16 := 0
  nsid : U32 := 0
  cdw2 : U32 := 0
  cdw3 : U32 := 0
  cdw10 : U32 := 0
  cdw11 : U32 := 0
  cdw12 : U32 := 0
  cdw13 : U32 := 0
  cdw14 : U32 := 0
  cdw15 : U32 := 0
  data : Option Slice := none
  metadata : Option Slice := none
  timeoutMs : U32 := 0

def PassthruArgs.command (args : PassthruArgs) (fd : I32) : NvmePassthru :=
  { fd := fd
    opcode := args.opcode
    flags := args.flags
    rsvd := args.rsvd
    nsid := args.nsid
    cdw2 := args.cdw2
    cdw3 := args.cdw3
    cdw10 := args.cdw10
    cdw11 := args.cdw11
    cdw12 := args.cdw12
    cdw13 := args.cdw13
    cdw14 := args.cdw14
    cdw15 := args.cdw15
    dataLen := optLen args.data
    data := args.data
    metadataLen := optLen args.metadata
    metadata := args.metadata
    timeoutMs := args.timeoutMs }

structure PassthruOutcome where
  result : U32
  data : Option Slice
  metadata : Option Slice

def PassthruArgs.outcome (args : PassthruArgs) (done : Done U32) : PassthruOutcome :=
  ⟨done.result, args.data.map (·.fill done.data), args.metadata.map (·.fill done.metadata)⟩

structure SecurityArgs where
  nsid : U32
  secp : U8
  spsp0 : U8
  spsp1 : U8
  nssf : U8
  /-- `tl` of a send, `al` of a receive. -/
  len : U32
  data : Slice

def sizeofNvmeSecurityArgs : I32 := 48

def SecurityArgs.sendArgs (a : SecurityArgs) (fd : I32) : NvmeSecuritySendArgs :=
  { data := a.data
    argsSize := sizeofNvmeSecurityArgs
    fd := fd
    timeout := 0
    nsid := a.nsid
    tl := a.len
    dataLen := asU32 a.data.length
    nssf := a.nssf
    spsp0 := a.spsp0
    spsp1 := a.spsp1
    secp := a.secp }

def SecurityArgs.receiveArgs (a : SecurityArgs) (fd : I32) : NvmeSecurityReceiveArgs :=
  { data := a.data
    argsSize := sizeofNvmeSecurityArgs
    fd := fd
    timeout := 0
    nsid := a.nsid
    al := a.len
    dataLen := asU32 a.data.length
    nssf := a.nssf
    spsp0 := a.spsp0
    spsp1 := a.spsp1
    secp := a.secp }

structure GetLbaStatusArgs where
  nsid : U32 := 0
  slba : U64 := 0
  mndw : U32 := 0
  atype : U32 := 0
  rl : U16 := 0
  timeoutMs : U32 := 0

def sizeofNvmeGetLbaStatusArgs : I32 := 56

def GetLbaStatusArgs.command (args : GetLbaStatusArgs) (buf : Slice) (fd : I32) :
    NvmeGetLbaStatusArgs :=
  { slba := args.slba
    lbas := buf
    argsSize := sizeofNvmeGetLbaStatusArgs
    fd := fd
    timeout := args.timeoutMs
    nsid := args.nsid
    mndw := args.mndw
    atype := args.atype
    rl := args.rl }

namespace Controller

def adminPassthru (c : Controller) (args : PassthruArgs) : Ffi PassthruOutcome := do
  let fd ← c.openFd
  let done ← ask (Call.nvmeAdminPassthru (args.command fd))
  checkRet done.cret
  return args.outcome done

def ioPassthru (c : Controller) (args : PassthruArgs) : Ffi PassthruOutcome := do
  let fd ← c.openFd
  let done ← ask (Call.nvmeIoPassthru (args.command fd))
  checkRet done.cret
  return args.outcome done

def securitySend (c : Controller) (a : SecurityArgs) : Ffi U32 := do
  let fd ← c.openFd
  let done ← ask (Call.nvmeSecuritySend (a.sendArgs fd))
  checkRet done.cret
  return done.result

def securityReceive (c : Controller) (a : SecurityArgs) : Ffi (U32 × Slice) := do
  let fd ← c.openFd
  let done ← ask (Call.nvmeSecurityReceive (a.receiveArgs fd))
  checkRet done.cret
  return (done.result, a.data.fill done.data)

def getLbaStatus (c : Controller) (args : GetLbaStatusArgs) (buf : Slice) : Ffi (U32 × Slice) := do
  let fd ← c.openFd
  let done ← ask (Call.nvmeGetLbaStatus (args.command buf fd))
  checkRet done.cret
  return (done.result, buf.fill done.data)

end Controller

def sizeofNvmeGetLogArgs : I32 := 64

def sizeofNvmeErrorLogPage : ℕ := 64

def nvmeLogLidError : U32 := 0x01

def logArgs (lid nsid : U32) (log : Slice) (len : U32) (fd : I32) : NvmeGetLogArgs :=
  { argsSize := sizeofNvmeGetLogArgs
    fd := fd
    lid := lid
    nsid := nsid
    log := some log
    len := len }

/-- `Box::default()` for a page type whose default value has the bytes `page`. -/
def boxDefault (t : Target) (page : Slice) : Exit Error Slice :=
  (t.alloc page.length).map fun _ => page

theorem boxDefault_ok (t : Target) {page : Slice} (hpage : page.length ≤ t.allocLimit) :
    boxDefault t page = .ok page := by
  rw [boxDefault, t.alloc_ok hpage, Exit.map_ok]

theorem boxDefault_aborted (t : Target) {page : Slice} (hpage : ¬page.length ≤ t.allocLimit) :
    boxDefault t page = .aborted := by
  rw [boxDefault, t.alloc_aborted hpage, Exit.map_aborted]

structure ErrorLogEntry where
  inner : List Byte

def maxEntriesOverflow : Error := .invalidArgument "max_entries * entry_size overflows usize"

/-- `vec![nvme_error_log_page::default(); max_entries]`, every default byte zero. -/
def errorLogBuffer (t : Target) (maxEntries : U32) : Exit Error Slice :=
  match checkedMul sizeofNvmeErrorLogPage maxEntries.toNat with
  | none => .error maxEntriesOverflow
  | some totalLen => t.alloc totalLen

theorem errorLogBuffer_eq (t : Target) (maxEntries : U32) :
    errorLogBuffer t maxEntries = t.alloc (sizeofNvmeErrorLogPage * maxEntries.toNat) := by
  rw [errorLogBuffer, checkedMul_u32 (by decide) maxEntries.isLt]

theorem errorLogBuffer_ok (t : Target) {maxEntries : U32}
    (halloc : sizeofNvmeErrorLogPage * maxEntries.toNat ≤ t.allocLimit) :
    ∃ entries, errorLogBuffer t maxEntries = .ok entries ∧
      entries.length = sizeofNvmeErrorLogPage * maxEntries.toNat := by
  rw [errorLogBuffer_eq, t.alloc_ok halloc]
  exact ⟨_, rfl, Slice.length_zeros _ _⟩

def errorLogEntries (maxEntries : U32) (entries : Slice) : List ErrorLogEntry :=
  (List.range maxEntries.toNat).map fun i =>
    ⟨field (i * sizeofNvmeErrorLogPage) sizeofNvmeErrorLogPage entries.bytes⟩

def errorLogArgs (maxEntries : U32) (entries : Slice) (fd : I32) : NvmeGetLogArgs :=
  logArgs nvmeLogLidError 0xFFFFFFFF entries
    (asU32 (sizeofNvmeErrorLogPage * maxEntries.toNat)) fd

namespace Controller

def getLogPage (t : Target) (c : Controller) (page : Slice) (lid : U8) (nsid : U32) :
    Ffi Slice := do
  let fd ← c.openFd
  let buf ← ofExit (boxDefault t page)
  let done ← ask (Call.nvmeGetLog (logArgs (lid.setWidth 32) nsid buf (asU32 page.length) fd))
  checkRet done.cret
  return buf.fill done.data

def errorLog (t : Target) (c : Controller) (maxEntries : U32) : Ffi (List ErrorLogEntry) :=
  if maxEntries = 0 then return []
  else do
    -- the device is opened before the product is tested
    let fd ← c.openFd
    let entries ← ofExit (errorLogBuffer t maxEntries)
    let done ← ask (Call.nvmeGetLog (errorLogArgs maxEntries entries fd))
    checkRet done.cret
    return errorLogEntries maxEntries (entries.fill done.data)

end Controller

structure NvmeFirmwareSlot where
  afi : U8
  frs : Vector (Vector U8 8) 7

structure FirmwareSlotLog where
  inner : NvmeFirmwareSlot

def FirmwareSlotLog.slotFirmware (log : FirmwareSlotLog) (slot : U8) : Except Error Str :=
  if h : 1 ≤ slot.toNat ∧ slot.toNat ≤ 7 then
    fixedAsciiToStr (log.inner.frs.get ⟨slot.toNat - 1, by omega⟩).toList
  else .error .notAvailable

def nvmeNsAttachSelCtrlAttach : U32 := 0
def nvmeNsAttachSelCtrlDeattach : U32 := 1

def sizeofNvmeNsAttachArgs : I32 := 40

def ctrlList (controllerIds : List U16) : NvmeCtrlList :=
  { num := asU16 controllerIds.length
    identifier := controllerIds ++ List.replicate (2047 - controllerIds.length) 0 }

def nsAttachArgs (nsid : U32) (controllerIds : List U16) (sel : U32) (fd : I32) :
    NvmeNsAttachArgs :=
  { ctrlist := ctrlList controllerIds
    argsSize := sizeofNvmeNsAttachArgs
    fd := fd
    timeout := 0
    nsid := nsid
    sel := sel }

def fwDownloadArgs (image : Slice) (fd : I32) : NvmeFwDownloadSeq :=
  { fd := fd, size := asU32 image.length, xfer := 0, offset := 0, buf := image }

inductive FeatureSelect where
  | current
  | default
  | saved
  | supported
  deriving DecidableEq, Repr

def FeatureSelect.asRaw : FeatureSelect → U32
  | .current => 0
  | .default => 1
  | .saved => 2
  | .supported => 3

def expectedHostIdLen (exhid : Bool) : ℕ := if exhid then 16 else 8

def hostIdLenError : Error :=
  .os (.custom .invalidInput
    "hostid buffer must be 8 bytes (exhid=false) or 16 bytes (exhid=true)")

namespace Controller

def fwDownload (c : Controller) (image : Slice) : Ffi Unit := do
  let fd ← c.openFd
  let r ← ask (Call.nvmeFwDownloadSeq (fwDownloadArgs image fd))
  checkRet r

def nsAttachOp (c : Controller) (nsid : U32) (controllerIds : List U16) (sel : U32) : Ffi Unit :=
  if 2047 < controllerIds.length then
    .fail (.invalidArgument "controller_ids exceeds the NVMe spec max of 2047 entries")
  else do
    let fd ← c.openFd
    let r ← ask (Call.nvmeNsAttach (nsAttachArgs nsid controllerIds sel fd))
    checkRet r

def attachNamespace (c : Controller) (nsid : U32) (controllerIds : List U16) : Ffi Unit :=
  c.nsAttachOp nsid controllerIds nvmeNsAttachSelCtrlAttach

def detachNamespace (c : Controller) (nsid : U32) (controllerIds : List U16) : Ffi Unit :=
  c.nsAttachOp nsid controllerIds nvmeNsAttachSelCtrlDeattach

end Controller

structure Features where
  ctrl : Controller

def Features.getHostId (f : Features) (sel : FeatureSelect) (exhid : Bool) (hostid : Slice) :
    Ffi Slice :=
  if hostid.length ≠ expectedHostIdLen exhid then .fail hostIdLenError
  else do
    let fd ← f.ctrl.openFd
    let done ← ask (Call.nvmeGetFeaturesHostId fd sel.asRaw exhid (asU32 hostid.length) hostid)
    checkRet done.cret
    return hostid.fill done.data

def Features.setHostId (f : Features) (exhid save : Bool) (hostid : Slice) : Ffi Unit :=
  if hostid.length ≠ expectedHostIdLen exhid then .fail hostIdLenError
  else do
    let fd ← f.ctrl.openFd
    let r ← ask (Call.nvmeSetFeaturesHostId fd exhid save hostid)
    checkRet r

section Request
variable (t : Target) (c : Controller)

namespace Controller

def request (command : I32 → Call) : Request :=
  LibnvmeRs.request (.ok ()) (.ctrl c) (.ok ()) command

theorem adminPassthru_discard (args : PassthruArgs) :
    (c.adminPassthru args).discard =
      (c.request fun fd => .nvmeAdminPassthru (args.command fd)).program :=
  request_unchecked (.ctrl c) (fun fd => .nvmeAdminPassthru (args.command fd)) fun _ => args.outcome

theorem ioPassthru_discard (args : PassthruArgs) :
    (c.ioPassthru args).discard =
      (c.request fun fd => .nvmeIoPassthru (args.command fd)).program :=
  request_unchecked (.ctrl c) (fun fd => .nvmeIoPassthru (args.command fd)) fun _ => args.outcome

theorem securitySend_discard (a : SecurityArgs) :
    (c.securitySend a).discard = (c.request fun fd => .nvmeSecuritySend (a.sendArgs fd)).program :=
  request_unchecked (.ctrl c) (fun fd => .nvmeSecuritySend (a.sendArgs fd))
    fun _ done => done.result

theorem securityReceive_discard (a : SecurityArgs) :
    (c.securityReceive a).discard =
      (c.request fun fd => .nvmeSecurityReceive (a.receiveArgs fd)).program :=
  request_unchecked (.ctrl c) (fun fd => .nvmeSecurityReceive (a.receiveArgs fd)) fun _ done =>
    (done.result, a.data.fill done.data)

theorem getLbaStatus_discard (args : GetLbaStatusArgs) (buf : Slice) :
    (c.getLbaStatus args buf).discard =
      (c.request fun fd => .nvmeGetLbaStatus (args.command buf fd)).program :=
  request_unchecked (.ctrl c) (fun fd => .nvmeGetLbaStatus (args.command buf fd)) fun _ done =>
    (done.result, buf.fill done.data)

theorem fwDownload_discard (image : Slice) :
    (c.fwDownload image).discard =
      (c.request fun fd => .nvmeFwDownloadSeq (fwDownloadArgs image fd)).program :=
  discard_unit _

def getLogPageRequest (page : Slice) (lid : U8) (nsid : U32) : Request :=
  let buf := boxDefault t page
  LibnvmeRs.request (.ok ()) (.ctrl c) (buf.map fun _ => ())
    fun fd => .nvmeGetLog (logArgs (lid.setWidth 32) nsid (buf.getD .empty) (asU32 page.length) fd)

theorem getLogPage_discard (page : Slice) (lid : U8) (nsid : U32) :
    (c.getLogPage t page lid nsid).discard = (c.getLogPageRequest t page lid nsid).program :=
  request_prepared (.ctrl c) (boxDefault t page) .empty
    (fun buf fd => .nvmeGetLog (logArgs (lid.setWidth 32) nsid buf (asU32 page.length) fd))
    fun buf _ done => buf.fill done.data

def errorLogRequest (maxEntries : U32) : Request :=
  let entries := errorLogBuffer t maxEntries
  LibnvmeRs.request (.ok ()) (.ctrl c) (entries.map fun _ => ())
    fun fd => .nvmeGetLog (errorLogArgs maxEntries (entries.getD .empty) fd)

theorem errorLog_discard {maxEntries : U32} (hmax : maxEntries ≠ 0) :
    (c.errorLog t maxEntries).discard = (c.errorLogRequest t maxEntries).program := by
  rw [errorLog, if_neg hmax]
  exact request_prepared (.ctrl c) (errorLogBuffer t maxEntries) .empty
    (fun entries fd => .nvmeGetLog (errorLogArgs maxEntries entries fd)) fun entries _ done =>
      errorLogEntries maxEntries (entries.fill done.data)

def nsAttachCheck (controllerIds : List U16) : Except Error Unit :=
  if 2047 < controllerIds.length then
    .error (.invalidArgument "controller_ids exceeds the NVMe spec max of 2047 entries")
  else .ok ()

theorem nsAttachCheck_decides (controllerIds : List U16) :
    Decides (nsAttachCheck controllerIds) (controllerIds.length ≤ 2047) :=
  (Decides.pass.ite _).of_iff (by simp)

def nsAttachRequest (nsid : U32) (controllerIds : List U16) (sel : U32) :
    Request :=
  LibnvmeRs.request (.ofExcept (nsAttachCheck controllerIds)) (.ctrl c) (.ok ())
    fun fd => .nvmeNsAttach (nsAttachArgs nsid controllerIds sel fd)

theorem nsAttachOp_discard (nsid : U32) (controllerIds : List U16) (sel : U32) :
    (c.nsAttachOp nsid controllerIds sel).discard =
      (c.nsAttachRequest nsid controllerIds sel).program := by
  rw [discard_unit, nsAttachOp, nsAttachRequest, request_checked, nsAttachCheck]
  split_ifs <;> rfl

end Controller

namespace Features
variable (f : Features)

def hostIdCheck (exhid : Bool) (hostid : Slice) : Except Error Unit :=
  if hostid.length ≠ expectedHostIdLen exhid then .error hostIdLenError else .ok ()

def hostIdRequest (exhid : Bool) (hostid : Slice) (command : I32 → Call) :
    Request :=
  LibnvmeRs.request (.ofExcept (hostIdCheck exhid hostid)) (.ctrl f.ctrl) (.ok ()) command

theorem hostIdCheck_cases (exhid : Bool) (hostid : Slice) :
    (hostid.length = expectedHostIdLen exhid ∧ hostIdCheck exhid hostid = .ok ()) ∨
      (hostid.length ≠ expectedHostIdLen exhid ∧
        hostIdCheck exhid hostid = .error hostIdLenError) := by
  by_cases hlen : hostid.length = expectedHostIdLen exhid
  · exact Or.inl ⟨hlen, if_neg (not_not_intro hlen)⟩
  · exact Or.inr ⟨hlen, if_pos hlen⟩

theorem getHostId_discard (sel : FeatureSelect) (exhid : Bool) (hostid : Slice) :
    (f.getHostId sel exhid hostid).discard = (f.hostIdRequest exhid hostid fun fd =>
      .nvmeGetFeaturesHostId fd sel.asRaw exhid (asU32 hostid.length) hostid).program := by
  rw [getHostId, hostIdRequest, request_checked, hostIdCheck]
  split_ifs
  · rfl
  · exact request_unchecked (.ctrl f.ctrl)
      (fun fd => .nvmeGetFeaturesHostId fd sel.asRaw exhid (asU32 hostid.length) hostid)
      fun _ done => hostid.fill done.data

theorem setHostId_discard (exhid save : Bool) (hostid : Slice) :
    (f.setHostId exhid save hostid).discard = (f.hostIdRequest exhid hostid fun fd =>
      .nvmeSetFeaturesHostId fd exhid save hostid).program := by
  rw [discard_unit, setHostId, hostIdRequest, request_checked, hostIdCheck]
  split_ifs <;> rfl

end Features
end Request
end LibnvmeRs
