import LibnvmeRs.Controller
import LibnvmeRs.Pages
import LibnvmeRs.Submitted

/-!
# The admin interface

The admin commands of a controller that change which namespaces a subsystem has,
those that get and set its features, and those that test, lock or program the
controller itself. Their foreign functions stand beside those of `Call`, so a
program of either kind runs against one outside party.
-/

namespace LibnvmeRs

open Interaction Program ByteOrder

structure NvmeNsMgmtArgs where
  ns : Option NvmeIdNs
  argsSize : I32
  fd : I32
  timeout : U32
  nsid : U32
  sel : U32
  csi : U8
  rsvd1 : Vector U8 3
  rsvd2 : Option Slice
  data : Option Slice

structure NvmeDevSelfTestArgs where
  argsSize : I32
  fd : I32
  timeout : U32
  nsid : U32
  stc : U32

structure NvmeLockdownArgs where
  argsSize : I32
  fd : I32
  timeout : U32
  scp : U8
  prhbt : U8
  ifc : U8
  ofi : U8
  uuidx : U8

structure NvmeSetPropertyArgs where
  value : U64
  argsSize : I32
  fd : I32
  timeout : U32
  offset : I32

structure NvmeGetPropertyArgs where
  argsSize : I32
  fd : I32
  timeout : U32
  offset : I32

def nvmeNsMgmtSelCreate : U32 := 0
def nvmeNsMgmtSelDelete : U32 := 1

def nvmeNsidNone : U32 := 0
def nvmeNsidAll : U32 := 0xffffffff

def sizeofNvmeNsMgmtArgs : I32 := 56
def sizeofNvmeDevSelfTestArgs : I32 := 32
def sizeofNvmeLockdownArgs : I32 := 32
def sizeofNvmeSetPropertyArgs : I32 := 32
def sizeofNvmeGetPropertyArgs : I32 := 24

/-- `nvme_get_features_*`, each with what it takes beside the view and the result. -/
inductive GetFeature where
  | arbitration
  | powerMgmt
  | lbaRange (data : Slice)
  | lbaRange2 (nsid : U32) (data : Slice)
  | tempThresh
  | tempThresh2 (tmpsel : U8) (thsel : U32)
  | errRecovery
  | errRecovery2 (nsid : U32)
  | volatileWc
  | numQueues
  | irqCoalesce
  | irqConfig (iv : U16)
  | writeAtomic
  | asyncEvent
  | autoPst (apst : Slice)
  | hostMemBuf
  | hostMemBuf2 (attrs : Slice)
  | timestamp (ts : Slice)
  | kato
  | hctm
  | nopsc
  | rrl
  | plmConfig (nvmsetid : U16) (data : Slice)
  | plmWindow (nvmsetid : U16)
  | lbaStsInterval
  | hostBehavior (data : Slice)
  | sanitize
  | enduranceEventCfg (endgid : U16)
  | swProgress
  | resvMask
  | resvMask2 (nsid : U32)
  | resvPersist
  | resvPersist2 (nsid : U32)
  | writeProtect (nsid : U32)
  | iocsProfile
  deriving DecidableEq

inductive SetFeature where
  | arbitration (ab lpw mpw hpw : U8)
  | powerMgmt (ps wh : U8)
  | lbaRange (nsid : U32) (nrRanges : U8) (data : Slice)
  | tempThresh (tmpth : U16) (tmpsel : U8) (thsel : U32)
  | tempThresh2 (tmpth : U16) (tmpsel : U8) (thsel : U32) (tmpthh : U8)
  | errRecovery (nsid : U32) (tler : U16) (dulbe : Bool)
  | volatileWc (wce : Bool)
  | irqCoalesce (thr time : U8)
  | irqConfig (iv : U16) (cd : Bool)
  | writeAtomic (dn : Bool)
  | asyncEvent (events : U32)
  | autoPst (apste : Bool) (apst : Slice)
  | timestamp (timestamp : U64)
  | hctm (tmt2 tmt1 : U16)
  | nopsc (noppme : Bool)
  | rrl (rrl : U8) (nvmsetid : U16)
  | plmConfig (enable : Bool) (nvmsetid : U16) (data : Slice)
  | plmWindow (sel : U32) (nvmsetid : U16)
  | lbaStsInterval (lsiri lsipi : U16)
  | hostBehavior (data : Slice)
  | sanitize (nodrm : Bool)
  | enduranceEvtCfg (endgid : U16) (egwarn : U8)
  | swProgress (pbslc : U8)
  | resvMask (mask : U32)
  | resvMask2 (nsid mask : U32)
  | resvPersist (ptpl : Bool)
  | resvPersist2 (nsid : U32) (ptpl : Bool)
  | writeProtect (state : U32)
  | writeProtect2 (nsid state : U32)
  | iocsProfile (iocsi : U16)
  deriving DecidableEq

inductive AdminCall where
  | lib (c : Call)
  | nvmeNsMgmt (args : NvmeNsMgmtArgs)
  | nvmeDevSelfTest (args : NvmeDevSelfTestArgs)
  | nvmeLockdown (args : NvmeLockdownArgs)
  | nvmeSetProperty (args : NvmeSetPropertyArgs)
  | nvmeGetProperty (args : NvmeGetPropertyArgs)
  | nvmeGetFeatures (which : GetFeature) (fd : I32) (sel : U32)
  | nvmeSetFeatures (which : SetFeature) (fd : I32) (save : Bool)

@[reducible] def AdminCall.reply : AdminCall → Reply
  | .lib c => c.reply
  | .nvmeNsMgmt _ | .nvmeGetFeatures .. | .nvmeSetFeatures .. => .dword
  | .nvmeDevSelfTest _ | .nvmeLockdown _ | .nvmeSetProperty _ => .status
  | .nvmeGetProperty _ => .qword

abbrev AdminAnswer (c : AdminCall) := c.reply.Value

abbrev Admin (α : Type) := Program Error AdminCall AdminAnswer α

def Ffi.admin {α : Type} (p : Ffi α) : Admin α := p.via AdminCall.lib fun _ r => r

def createArgs (template : IdentifyNamespace) (fd : I32) : NvmeNsMgmtArgs :=
  { ns := some template.inner
    argsSize := sizeofNvmeNsMgmtArgs
    fd := fd
    timeout := 0
    nsid := 0
    sel := nvmeNsMgmtSelCreate
    csi := 0
    rsvd1 := .replicate 3 0
    rsvd2 := none
    data := none }

def deleteArgs (nsid : U32) (fd : I32) : NvmeNsMgmtArgs :=
  { ns := none
    argsSize := sizeofNvmeNsMgmtArgs
    fd := fd
    timeout := 0
    nsid := nsid
    sel := nvmeNsMgmtSelDelete
    csi := 0
    rsvd1 := .replicate 3 0
    rsvd2 := none
    data := none }

inductive SelfTestAction where
  | short
  | extended
  | hostInitiated
  | vendorSpecific
  | abort
  deriving DecidableEq, Repr

def SelfTestAction.asRaw : SelfTestAction → U32
  | .short => 1
  | .extended => 2
  | .hostInitiated => 3
  | .vendorSpecific => 14
  | .abort => 15

structure LockdownArgs where
  scope : U8 := 0
  prohibit : U8 := 0
  interface : U8 := 0
  opcodeOrFid : U8 := 0
  uuidIndex : U8 := 0
  timeoutMs : U32 := 0

namespace Controller
variable (c : Controller)

def adminFd : Admin I32 := c.openFd.admin

theorem adminFd_eq : c.adminFd =
    ask (AdminCall.lib (.nvmeCtrlGetFd c)) >>= fun r => ofExcept (openedFd r) := by
  rw [adminFd, openFd, Ffi.admin, via_bind, via_ask]
  simp only [bind_bind, ret_bind, liftM_eq, via_ofExcept]

def createNamespace (template : IdentifyNamespace) : Admin U32 := do
  let fd ← c.adminFd
  let done ← ask (AdminCall.nvmeNsMgmt (createArgs template fd))
  checkRet done.cret
  return done.result

def deleteNamespace (nsid : U32) : Admin Unit := do
  let fd ← c.adminFd
  let done ← ask (AdminCall.nvmeNsMgmt (deleteArgs nsid fd))
  checkRet done.cret

def selfTest (nsid : U32) (action : SelfTestAction) : Admin Unit := do
  let fd ← c.adminFd
  let r ← ask (AdminCall.nvmeDevSelfTest
    { argsSize := sizeofNvmeDevSelfTestArgs
      fd := fd
      timeout := 0
      nsid := nsid
      stc := action.asRaw })
  checkRet r

def lockdown (args : LockdownArgs) : Admin Unit := do
  let fd ← c.adminFd
  let r ← ask (AdminCall.nvmeLockdown
    { argsSize := sizeofNvmeLockdownArgs
      fd := fd
      timeout := args.timeoutMs
      scp := args.scope
      prhbt := args.prohibit
      ifc := args.interface
      ofi := args.opcodeOrFid
      uuidx := args.uuidIndex })
  checkRet r

def setPropertyArgs (offset : I32) (value : U64) (fd : I32) : NvmeSetPropertyArgs :=
  { value := value
    argsSize := sizeofNvmeSetPropertyArgs
    fd := fd
    timeout := 0
    offset := offset }

def getPropertyArgs (offset : I32) (fd : I32) : NvmeGetPropertyArgs :=
  { argsSize := sizeofNvmeGetPropertyArgs
    fd := fd
    timeout := 0
    offset := offset }

def setProperty (offset : I32) (value : U64) : Admin Unit := do
  let fd ← c.adminFd
  let r ← ask (AdminCall.nvmeSetProperty (setPropertyArgs offset value fd))
  checkRet r

def getProperty (offset : I32) : Admin U64 := do
  let fd ← c.adminFd
  let done ← ask (AdminCall.nvmeGetProperty (getPropertyArgs offset fd))
  checkRet done.cret
  return done.result

end Controller
end LibnvmeRs
