import LibnvmeRs.Admin
import LibnvmeRs.Disconnect

/-!
# Getting and setting features

One method for each function of libnvme. The getters ask for one of four views of a
feature, the setters may ask for the value to be kept over resets. All getters are
one program and all setters are one program; each method names its function and
hands over its arguments.
-/

namespace LibnvmeRs

open Interaction Program

namespace Features
variable (f : Features)

def get (which : GetFeature) (sel : FeatureSelect) : Admin (Done U32) := do
  let fd ← f.ctrl.adminFd
  let done ← ask (AdminCall.nvmeGetFeatures which fd sel.asRaw)
  checkRet done.cret
  return done

def set (which : SetFeature) (save : Bool) : Admin U32 := do
  let fd ← f.ctrl.adminFd
  let done ← ask (AdminCall.nvmeSetFeatures which fd save)
  checkRet done.cret
  return done.result

section Get
variable (sel : FeatureSelect)

def getDword (which : GetFeature) : Admin U32 := do
  let done ← f.get which sel
  return done.result

def getData (which : GetFeature) (data : Slice) : Admin (U32 × Slice) := do
  let done ← f.get which sel
  return (done.result, data.fill done.data)

def getArbitration : Admin U32 := f.getDword sel .arbitration
def getPowerMgmt : Admin U32 := f.getDword sel .powerMgmt
def getLbaRange (data : Slice) : Admin (U32 × Slice) :=
  f.getData sel (.lbaRange data) data
def getLbaRange2 (nsid : U32) (data : Slice) : Admin (U32 × Slice) :=
  f.getData sel (.lbaRange2 nsid data) data
def getTempThresh : Admin U32 := f.getDword sel .tempThresh
def getTempThresh2 (tmpsel : U8) (thsel : U32) : Admin U32 :=
  f.getDword sel (.tempThresh2 tmpsel thsel)
def getErrRecovery : Admin U32 := f.getDword sel .errRecovery
def getErrRecovery2 (nsid : U32) : Admin U32 := f.getDword sel (.errRecovery2 nsid)
def getVolatileWc : Admin U32 := f.getDword sel .volatileWc
def getNumQueues : Admin U32 := f.getDword sel .numQueues
def getIrqCoalesce : Admin U32 := f.getDword sel .irqCoalesce
def getIrqConfig (iv : U16) : Admin U32 := f.getDword sel (.irqConfig iv)
def getWriteAtomic : Admin U32 := f.getDword sel .writeAtomic
def getAsyncEvent : Admin U32 := f.getDword sel .asyncEvent
def getAutoPst (apst : Slice) : Admin (U32 × Slice) :=
  f.getData sel (.autoPst apst) apst
def getHostMemBuf : Admin U32 := f.getDword sel .hostMemBuf
def getHostMemBuf2 (attrs : Slice) : Admin (U32 × Slice) :=
  f.getData sel (.hostMemBuf2 attrs) attrs

def getTimestamp (ts : Slice) : Admin Slice := do
  let (_, filled) ← f.getData sel (.timestamp ts) ts
  return filled

def getKato : Admin U32 := f.getDword sel .kato
def getHctm : Admin U32 := f.getDword sel .hctm
def getNopsc : Admin U32 := f.getDword sel .nopsc
def getRrl : Admin U32 := f.getDword sel .rrl
def getPlmConfig (nvmsetid : U16) (data : Slice) : Admin (U32 × Slice) :=
  f.getData sel (.plmConfig nvmsetid data) data
def getPlmWindow (nvmsetid : U16) : Admin U32 := f.getDword sel (.plmWindow nvmsetid)
def getLbaStsInterval : Admin U32 := f.getDword sel .lbaStsInterval
def getHostBehavior (data : Slice) : Admin (U32 × Slice) :=
  f.getData sel (.hostBehavior data) data
def getSanitize : Admin U32 := f.getDword sel .sanitize
def getEnduranceEventCfg (endgid : U16) : Admin U32 := f.getDword sel (.enduranceEventCfg endgid)
def getSwProgress : Admin U32 := f.getDword sel .swProgress
def getResvMask : Admin U32 := f.getDword sel .resvMask
def getResvMask2 (nsid : U32) : Admin U32 := f.getDword sel (.resvMask2 nsid)
def getResvPersist : Admin U32 := f.getDword sel .resvPersist
def getResvPersist2 (nsid : U32) : Admin U32 := f.getDword sel (.resvPersist2 nsid)
def getWriteProtect (nsid : U32) : Admin U32 := f.getDword sel (.writeProtect nsid)
def getIocsProfile : Admin U32 := f.getDword sel .iocsProfile

end Get

section Set
variable (save : Bool)

def setQuietly (which : SetFeature) : Admin Unit := do
  let _ ← f.set which save
  return ()

def setArbitration (ab lpw mpw hpw : U8) : Admin U32 := f.set (.arbitration ab lpw mpw hpw) save
def setPowerMgmt (ps wh : U8) : Admin U32 := f.set (.powerMgmt ps wh) save
def setLbaRange (nsid : U32) (nrRanges : U8) (data : Slice) : Admin U32 :=
  f.set (.lbaRange nsid nrRanges data) save
def setTempThresh (tmpth : U16) (tmpsel : U8) (thsel : U32) : Admin U32 :=
  f.set (.tempThresh tmpth tmpsel thsel) save
def setTempThresh2 (tmpth : U16) (tmpsel : U8) (thsel : U32) (tmpthh : U8) : Admin U32 :=
  f.set (.tempThresh2 tmpth tmpsel thsel tmpthh) save
def setErrRecovery (nsid : U32) (tler : U16) (dulbe : Bool) : Admin U32 :=
  f.set (.errRecovery nsid tler dulbe) save
def setVolatileWc (wce : Bool) : Admin U32 := f.set (.volatileWc wce) save
def setIrqCoalesce (thr time : U8) : Admin U32 := f.set (.irqCoalesce thr time) save
def setIrqConfig (iv : U16) (cd : Bool) : Admin U32 := f.set (.irqConfig iv cd) save
def setWriteAtomic (dn : Bool) : Admin U32 := f.set (.writeAtomic dn) save
def setAsyncEvent (events : U32) : Admin U32 := f.set (.asyncEvent events) save
def setAutoPst (apste : Bool) (apst : Slice) : Admin U32 := f.set (.autoPst apste apst) save
def setTimestamp (timestamp : U64) : Admin Unit := f.setQuietly save (.timestamp timestamp)
def setHctm (tmt2 tmt1 : U16) : Admin U32 := f.set (.hctm tmt2 tmt1) save
def setNopsc (noppme : Bool) : Admin U32 := f.set (.nopsc noppme) save
def setRrl (rrl : U8) (nvmsetid : U16) : Admin U32 := f.set (.rrl rrl nvmsetid) save
def setPlmConfig (enable : Bool) (nvmsetid : U16) (data : Slice) : Admin U32 :=
  f.set (.plmConfig enable nvmsetid data) save
def setPlmWindow (sel : U32) (nvmsetid : U16) : Admin U32 := f.set (.plmWindow sel nvmsetid) save
def setLbaStsInterval (lsiri lsipi : U16) : Admin U32 := f.set (.lbaStsInterval lsiri lsipi) save
def setHostBehavior (data : Slice) : Admin Unit := f.setQuietly save (.hostBehavior data)
def setSanitize (nodrm : Bool) : Admin U32 := f.set (.sanitize nodrm) save
def setEnduranceEvtCfg (endgid : U16) (egwarn : U8) : Admin U32 :=
  f.set (.enduranceEvtCfg endgid egwarn) save
def setSwProgress (pbslc : U8) : Admin U32 := f.set (.swProgress pbslc) save
def setResvMask (mask : U32) : Admin U32 := f.set (.resvMask mask) save
def setResvMask2 (nsid mask : U32) : Admin U32 := f.set (.resvMask2 nsid mask) save
def setResvPersist (ptpl : Bool) : Admin U32 := f.set (.resvPersist ptpl) save
def setResvPersist2 (nsid : U32) (ptpl : Bool) : Admin U32 := f.set (.resvPersist2 nsid ptpl) save
def setWriteProtect (state : U32) : Admin U32 := f.set (.writeProtect state) save
def setWriteProtect2 (nsid state : U32) : Admin U32 := f.set (.writeProtect2 nsid state) save
def setIocsProfile (iocsi : U16) : Admin Unit := f.setQuietly save (.iocsProfile iocsi)

end Set
end Features
end LibnvmeRs
