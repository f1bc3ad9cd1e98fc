import LibnvmeRs.Features
import LibnvmeRs.Journals

/-!
# The features of a controller as a store

A controller has for each feature a current, a default and a saved value and what
it supports of it. Setting changes the current value, and the saved one if asked to
keep it over resets; a reset brings the saved values back; getting looks at one of
the four. A feature may have many instances, one for each namespace, interrupt
vector, NVM set, endurance group or sensor, and a function that does not say which
may mean any of them.
-/

namespace LibnvmeRs

open Interaction Program ByteOrder Journals

inductive FeatureScope where
  | unsaid
  | ns (nsid : U32)
  | vector (iv : U16)
  | nvmSet (nvmsetid : U16)
  | enduranceGroup (endgid : U16)
  | sensor (tmpsel : U8) (thsel : U32)
  | extended (exhid : Bool)
  deriving DecidableEq, Repr

structure FeatureKey where
  fid : U8
  scope : FeatureScope := .unsaid
  deriving DecidableEq, Repr

def nvmeFeatTtTmpselMask : U8 := 0xf

def nvmeFeatTtThselMask : U32 := 0x3

/-- The sensor and the threshold of it that the masked selects name. -/
def sensorSelects (tmpsel : U8) (thsel : U32) : U8 × U32 :=
  (tmpsel &&& nvmeFeatTtTmpselMask, thsel &&& nvmeFeatTtThselMask)

/-- This sensor select means all of them. -/
def allSensors : U8 := 0xf

def NamesOne (nsid : U32) : Prop := nsid ≠ nvmeNsidNone ∧ nsid ≠ nvmeNsidAll

instance (nsid : U32) : Decidable (NamesOne nsid) := inferInstanceAs (Decidable (_ ∧ _))

/-- The two scopes cannot mean the same instance. -/
def FeatureScope.Apart : FeatureScope → FeatureScope → Prop
  | .ns n, .ns m => n ≠ m ∧ NamesOne n ∧ NamesOne m
  | .vector i, .vector j => i ≠ j
  | .nvmSet i, .nvmSet j => i ≠ j
  | .enduranceGroup i, .enduranceGroup j => i ≠ j
  | .sensor t k, .sensor t' k' => sensorSelects t k ≠ sensorSelects t' k' ∧
      (sensorSelects t k).1 ≠ allSensors ∧ (sensorSelects t' k').1 ≠ allSensors
  | _, _ => False

instance (a b : FeatureScope) : Decidable (a.Apart b) := by
  cases a <;> cases b <;> simp only [FeatureScope.Apart] <;> infer_instance

-- the selects are masked, and 0xf names every sensor
example : ¬(FeatureScope.sensor 0x11 0).Apart (.sensor 0x01 4) ∧
    ¬(FeatureScope.sensor 0x0f 0).Apart (.sensor 0x01 1) ∧
    (FeatureScope.sensor 0x02 0).Apart (.sensor 0x01 0) := by decide

def FeatureKey.Meets (a b : FeatureKey) : Prop := a.fid = b.fid ∧ ¬a.scope.Apart b.scope

instance (a b : FeatureKey) : Decidable (a.Meets b) := inferInstanceAs (Decidable (_ ∧ _))

theorem FeatureKey.meets_refl (a : FeatureKey) : a.Meets a := by
  refine ⟨rfl, ?_⟩
  cases a.scope <;> simp [FeatureScope.Apart]

def hostIdKey (exhid : Bool) : FeatureKey := ⟨0x81, .extended exhid⟩

def GetFeature.key : GetFeature → FeatureKey
  | .arbitration => ⟨0x01, .unsaid⟩
  | .powerMgmt => ⟨0x02, .unsaid⟩
  | .lbaRange _ => ⟨0x03, .unsaid⟩
  | .lbaRange2 nsid _ => ⟨0x03, .ns nsid⟩
  | .tempThresh => ⟨0x04, .unsaid⟩
  | .tempThresh2 tmpsel thsel => ⟨0x04, .sensor tmpsel thsel⟩
  | .errRecovery => ⟨0x05, .unsaid⟩
  | .errRecovery2 nsid => ⟨0x05, .ns nsid⟩
  | .volatileWc => ⟨0x06, .unsaid⟩
  | .numQueues => ⟨0x07, .unsaid⟩
  | .irqCoalesce => ⟨0x08, .unsaid⟩
  | .irqConfig iv => ⟨0x09, .vector iv⟩
  | .writeAtomic => ⟨0x0a, .unsaid⟩
  | .asyncEvent => ⟨0x0b, .unsaid⟩
  | .autoPst _ => ⟨0x0c, .unsaid⟩
  | .hostMemBuf | .hostMemBuf2 _ => ⟨0x0d, .unsaid⟩
  | .timestamp _ => ⟨0x0e, .unsaid⟩
  | .kato => ⟨0x0f, .unsaid⟩
  | .hctm => ⟨0x10, .unsaid⟩
  | .nopsc => ⟨0x11, .unsaid⟩
  | .rrl => ⟨0x12, .unsaid⟩
  | .plmConfig nvmsetid _ => ⟨0x13, .nvmSet nvmsetid⟩
  | .plmWindow nvmsetid => ⟨0x14, .nvmSet nvmsetid⟩
  | .lbaStsInterval => ⟨0x15, .unsaid⟩
  | .hostBehavior _ => ⟨0x16, .unsaid⟩
  | .sanitize => ⟨0x17, .unsaid⟩
  | .enduranceEventCfg endgid => ⟨0x18, .enduranceGroup endgid⟩
  | .iocsProfile => ⟨0x19, .unsaid⟩
  | .swProgress => ⟨0x80, .unsaid⟩
  | .resvMask => ⟨0x82, .unsaid⟩
  | .resvMask2 nsid => ⟨0x82, .ns nsid⟩
  | .resvPersist => ⟨0x83, .unsaid⟩
  | .resvPersist2 nsid => ⟨0x83, .ns nsid⟩
  | .writeProtect nsid => ⟨0x84, .ns nsid⟩

def SetFeature.key : SetFeature → FeatureKey
  | .arbitration .. => ⟨0x01, .unsaid⟩
  | .powerMgmt .. => ⟨0x02, .unsaid⟩
  | .lbaRange nsid _ _ => ⟨0x03, .ns nsid⟩
  | .tempThresh _ tmpsel thsel | .tempThresh2 _ tmpsel thsel _ => ⟨0x04, .sensor tmpsel thsel⟩
  | .errRecovery nsid _ _ => ⟨0x05, .ns nsid⟩
  | .volatileWc _ => ⟨0x06, .unsaid⟩
  | .irqCoalesce .. => ⟨0x08, .unsaid⟩
  | .irqConfig iv _ => ⟨0x09, .vector iv⟩
  | .writeAtomic _ => ⟨0x0a, .unsaid⟩
  | .asyncEvent _ => ⟨0x0b, .unsaid⟩
  | .autoPst .. => ⟨0x0c, .unsaid⟩
  | .timestamp _ => ⟨0x0e, .unsaid⟩
  | .hctm .. => ⟨0x10, .unsaid⟩
  | .nopsc _ => ⟨0x11, .unsaid⟩
  | .rrl _ nvmsetid => ⟨0x12, .nvmSet nvmsetid⟩
  | .plmConfig _ nvmsetid _ => ⟨0x13, .nvmSet nvmsetid⟩
  | .plmWindow _ nvmsetid => ⟨0x14, .nvmSet nvmsetid⟩
  | .lbaStsInterval .. => ⟨0x15, .unsaid⟩
  | .hostBehavior _ => ⟨0x16, .unsaid⟩
  | .sanitize _ => ⟨0x17, .unsaid⟩
  | .enduranceEvtCfg endgid _ => ⟨0x18, .enduranceGroup endgid⟩
  | .iocsProfile _ => ⟨0x19, .unsaid⟩
  | .swProgress _ => ⟨0x80, .unsaid⟩
  | .resvMask _ => ⟨0x82, .unsaid⟩
  | .resvMask2 nsid _ => ⟨0x82, .ns nsid⟩
  | .resvPersist _ => ⟨0x83, .unsaid⟩
  | .resvPersist2 nsid _ => ⟨0x83, .ns nsid⟩
  | .writeProtect _ => ⟨0x84, .unsaid⟩
  | .writeProtect2 nsid _ => ⟨0x84, .ns nsid⟩

/-- A value as a getter shows it: the result dword and what it stores in a structure. -/
structure Cell where
  dword : U32
  data : List Byte
  deriving DecidableEq

abbrev Views := FeatureKey → FeatureSelect → Cell

/-- The features behind the controllers, the unit a controller and a descriptor belong to,
and how the device keeps what it is given. -/
structure FeatureBank (σ : Type) where
  views : σ → ℕ → Views
  unit : Controller → ℕ
  target : I32 → ℕ
  encode : SetFeature → Cell
  /-- The features that only commands change. The timestamp, which runs, is none. -/
  kept : FeatureKey → Prop

/-- Setting writes the current value, and the saved one if it is to be kept over resets. -/
def Writes (save : Bool) (sel : FeatureSelect) : Prop :=
  sel = .current ∨ sel = .saved ∧ save = true

instance (save : Bool) (sel : FeatureSelect) : Decidable (Writes save sel) :=
  inferInstanceAs (Decidable (_ ∨ _))

namespace FeatureBank
variable {σ : Type} (D : FeatureBank σ)

def Same (v v' : Views) : Prop := ∀ k sel, D.kept k → v' k sel = v k sel

def Touches (key : FeatureKey) (save : Bool) (v v' : Views) : Prop :=
  ∀ k sel, D.kept k → ¬(key.Meets k ∧ Writes save sel) → v' k sel = v k sel

def Stores (key : FeatureKey) (save : Bool) (cell : Cell) (v v' : Views) : Prop :=
  D.Touches key save v v' ∧ (D.kept key → ∀ sel, Writes save sel → v' key sel = cell)

def Shakes (v v' : Views) : Prop := ∀ k sel, D.kept k → sel ≠ .current → v' k sel = v k sel

def Resets (v v' : Views) : Prop := D.Shakes v v' ∧ ∀ k, D.kept k → v' k .current = v k .saved

def Moves (s s' : σ) (u : ℕ) (effect : Views → Views → Prop) : Prop :=
  effect (D.views s u) (D.views s' u) ∧ ∀ other, other ≠ u →
    D.Same (D.views s other) (D.views s' other)

def Shows (v : Views) (key : FeatureKey) (sel : U32) (P : Cell → Prop) : Prop :=
  ∀ view : FeatureSelect, view.asRaw = sel → P (v key view)

def Meets (s s' : σ) : (c : AdminCall) → AdminAnswer c → Prop
  | .lib (.nvmeCtrlGetFd c), r => (∀ u, D.Same (D.views s u) (D.views s' u)) ∧
      ∀ fd, openedFd r = .ok fd → D.target fd = D.unit c
  | .nvmeGetFeatures which fd sel, done => D.Moves s s' (D.target fd) fun v v' => D.Same v v' ∧
      (done.cret.ret = 0 → D.kept which.key →
        Shows v which.key sel fun cell => ⟨done.result, done.data⟩ = cell)
  | .nvmeSetFeatures which fd save, done => D.Moves s s' (D.target fd) fun v v' =>
      if done.cret.ret = 0 then D.Stores which.key save (D.encode which) v v'
      else D.Touches which.key save v v'
  | .lib (.nvmeGetFeaturesHostId fd sel exhid _ _), done =>
      D.Moves s s' (D.target fd) fun v v' => D.Same v v' ∧
        (done.cret.ret = 0 → D.kept (hostIdKey exhid) →
          Shows v (hostIdKey exhid) sel fun cell => done.data = cell.data)
  | .lib (.nvmeSetFeaturesHostId fd exhid save hostid), r =>
      D.Moves s s' (D.target fd) fun v v' =>
        if r.ret = 0 then D.Stores (hostIdKey exhid) save ⟨0, hostid.bytes⟩ v v'
        else D.Touches (hostIdKey exhid) save v v'
  | .lib (.nvmeCtrlReset fd), r => D.Moves s s' (D.target fd) fun v v' =>
      if r.ret = 0 then D.Resets v v' else D.Shakes v v'
  | _, _ => True

def Conforms (h : Handler AdminCall AdminAnswer σ) : Prop :=
  ∀ c s, D.Meets s (h c s).2 c (h c s).1

variable {D}

theorem same_refl (v : Views) : D.Same v v := fun _ _ _ => rfl

theorem Same.touches {v v' : Views} (hsame : D.Same v v') (key : FeatureKey) (save : Bool) :
    D.Touches key save v v' := fun k sel hk _ => hsame k sel hk

theorem Same.shakes {v v' : Views} (hsame : D.Same v v') : D.Shakes v v' :=
  fun k sel hk _ => hsame k sel hk

end FeatureBank

inductive FeatureOp where
  | get (c : Controller) (which : GetFeature) (sel : FeatureSelect)
  | set (c : Controller) (which : SetFeature) (save : Bool)
  | getHostId (c : Controller) (sel : FeatureSelect) (exhid : Bool) (hostid : Slice)
  | setHostId (c : Controller) (exhid save : Bool) (hostid : Slice)
  | reset (c : Controller)
  deriving DecidableEq

inductive FeatureValue where
  | nothing
  | dword (result : U32)
  | filled (result : U32) (data : Slice)
  | data (data : Slice)
  deriving DecidableEq

namespace GetFeature

def value (which : GetFeature) (cell : Cell) : FeatureValue :=
  match which with
  | .lbaRange buf | .lbaRange2 _ buf | .autoPst buf | .hostMemBuf2 buf | .plmConfig _ buf
  | .hostBehavior buf => .filled cell.dword (buf.fill cell.data)
  | .timestamp buf => .data (buf.fill cell.data)
  | _ => .dword cell.dword

def method (f : Features) (sel : FeatureSelect) : GetFeature → Admin FeatureValue
  | .arbitration => .dword <$> f.getArbitration sel
  | .powerMgmt => .dword <$> f.getPowerMgmt sel
  | .lbaRange buf => (fun r => .filled r.1 r.2) <$> f.getLbaRange sel buf
  | .lbaRange2 nsid buf => (fun r => .filled r.1 r.2) <$> f.getLbaRange2 sel nsid buf
  | .tempThresh => .dword <$> f.getTempThresh sel
  | .tempThresh2 tmpsel thsel => .dword <$> f.getTempThresh2 sel tmpsel thsel
  | .errRecovery => .dword <$> f.getErrRecovery sel
  | .errRecovery2 nsid => .dword <$> f.getErrRecovery2 sel nsid
  | .volatileWc => .dword <$> f.getVolatileWc sel
  | .numQueues => .dword <$> f.getNumQueues sel
  | .irqCoalesce => .dword <$> f.getIrqCoalesce sel
  | .irqConfig iv => .dword <$> f.getIrqConfig sel iv
  | .writeAtomic => .dword <$> f.getWriteAtomic sel
  | .asyncEvent => .dword <$> f.getAsyncEvent sel
  | .autoPst buf => (fun r => .filled r.1 r.2) <$> f.getAutoPst sel buf
  | .hostMemBuf => .dword <$> f.getHostMemBuf sel
  | .hostMemBuf2 buf => (fun r => .filled r.1 r.2) <$> f.getHostMemBuf2 sel buf
  | .timestamp buf => .data <$> f.getTimestamp sel buf
  | .kato => .dword <$> f.getKato sel
  | .hctm => .dword <$> f.getHctm sel
  | .nopsc => .dword <$> f.getNopsc sel
  | .rrl => .dword <$> f.getRrl sel
  | .plmConfig nvmsetid buf => (fun r => .filled r.1 r.2) <$> f.getPlmConfig sel nvmsetid buf
  | .plmWindow nvmsetid => .dword <$> f.getPlmWindow sel nvmsetid
  | .lbaStsInterval => .dword <$> f.getLbaStsInterval sel
  | .hostBehavior buf => (fun r => .filled r.1 r.2) <$> f.getHostBehavior sel buf
  | .sanitize => .dword <$> f.getSanitize sel
  | .enduranceEventCfg endgid => .dword <$> f.getEnduranceEventCfg sel endgid
  | .swProgress => .dword <$> f.getSwProgress sel
  | .resvMask => .dword <$> f.getResvMask sel
  | .resvMask2 nsid => .dword <$> f.getResvMask2 sel nsid
  | .resvPersist => .dword <$> f.getResvPersist sel
  | .resvPersist2 nsid => .dword <$> f.getResvPersist2 sel nsid
  | .writeProtect nsid => .dword <$> f.getWriteProtect sel nsid
  | .iocsProfile => .dword <$> f.getIocsProfile sel

theorem map_getDword (f : Features) (sel : FeatureSelect) (which : GetFeature) :
    FeatureValue.dword <$> f.getDword sel which =
      f.get which sel >>= fun done => .ret (.dword done.result) := by
  rw [Program.map_eq, Features.getDword, bind_bind]
  rfl

theorem map_getData (f : Features) (sel : FeatureSelect) (which : GetFeature) (buf : Slice)
    (g : U32 × Slice → FeatureValue) :
    g <$> f.getData sel which buf =
      f.get which sel >>= fun done => .ret (g (done.result, buf.fill done.data)) := by
  rw [Program.map_eq, Features.getData, bind_bind]
  rfl

theorem method_eq (f : Features) (sel : FeatureSelect) (which : GetFeature) :
    which.method f sel = f.get which sel >>= fun done =>
      .ret (which.value ⟨done.result, done.data⟩) := by
  cases which with
  | timestamp buf =>
    rw [method, Features.getTimestamp, Program.map_eq, bind_bind]
    exact map_getData f sel (.timestamp buf) buf fun r => .data r.2
  | lbaRange buf | lbaRange2 _ buf | autoPst buf | hostMemBuf2 buf | plmConfig _ buf
  | hostBehavior buf => exact map_getData f sel _ buf fun r => .filled r.1 r.2
  | _ => exact map_getDword f sel _

end GetFeature

namespace SetFeature

def value (which : SetFeature) (result : U32) : FeatureValue :=
  match which with
  | .timestamp _ | .hostBehavior _ | .iocsProfile _ => .nothing
  | _ => .dword result

def method (f : Features) (save : Bool) : SetFeature → Admin FeatureValue
  | .arbitration ab lpw mpw hpw => .dword <$> f.setArbitration save ab lpw mpw hpw
  | .powerMgmt ps wh => .dword <$> f.setPowerMgmt save ps wh
  | .lbaRange nsid nrRanges data => .dword <$> f.setLbaRange save nsid nrRanges data
  | .tempThresh tmpth tmpsel thsel => .dword <$> f.setTempThresh save tmpth tmpsel thsel
  | .tempThresh2 tmpth tmpsel thsel tmpthh =>
    .dword <$> f.setTempThresh2 save tmpth tmpsel thsel tmpthh
  | .errRecovery nsid tler dulbe => .dword <$> f.setErrRecovery save nsid tler dulbe
  | .volatileWc wce => .dword <$> f.setVolatileWc save wce
  | .irqCoalesce thr time => .dword <$> f.setIrqCoalesce save thr time
  | .irqConfig iv cd => .dword <$> f.setIrqConfig save iv cd
  | .writeAtomic dn => .dword <$> f.setWriteAtomic save dn
  | .asyncEvent events => .dword <$> f.setAsyncEvent save events
  | .autoPst apste apst => .dword <$> f.setAutoPst save apste apst
  | .timestamp ts => (fun _ => .nothing) <$> f.setTimestamp save ts
  | .hctm tmt2 tmt1 => .dword <$> f.setHctm save tmt2 tmt1
  | .nopsc noppme => .dword <$> f.setNopsc save noppme
  | .rrl level nvmsetid => .dword <$> f.setRrl save level nvmsetid
  | .plmConfig enable nvmsetid data => .dword <$> f.setPlmConfig save enable nvmsetid data
  | .plmWindow sel nvmsetid => .dword <$> f.setPlmWindow save sel nvmsetid
  | .lbaStsInterval lsiri lsipi => .dword <$> f.setLbaStsInterval save lsiri lsipi
  | .hostBehavior data => (fun _ => .nothing) <$> f.setHostBehavior save data
  | .sanitize nodrm => .dword <$> f.setSanitize save nodrm
  | .enduranceEvtCfg endgid egwarn => .dword <$> f.setEnduranceEvtCfg save endgid egwarn
  | .swProgress pbslc => .dword <$> f.setSwProgress save pbslc
  | .resvMask mask => .dword <$> f.setResvMask save mask
  | .resvMask2 nsid mask => .dword <$> f.setResvMask2 save nsid mask
  | .resvPersist ptpl => .dword <$> f.setResvPersist save ptpl
  | .resvPersist2 nsid ptpl => .dword <$> f.setResvPersist2 save nsid ptpl
  | .writeProtect state => .dword <$> f.setWriteProtect save state
  | .writeProtect2 nsid state => .dword <$> f.setWriteProtect2 save nsid state
  | .iocsProfile iocsi => (fun _ => .nothing) <$> f.setIocsProfile save iocsi

theorem map_setQuietly (f : Features) (save : Bool) (which : SetFeature) :
    (fun _ => FeatureValue.nothing) <$> f.setQuietly save which =
      f.set which save >>= fun _ => .ret .nothing := by
  rw [Program.map_eq, Features.setQuietly, bind_bind]
  rfl

theorem method_eq (f : Features) (save : Bool) (which : SetFeature) :
    which.method f save = f.set which save >>= fun result => .ret (which.value result) := by
  cases which with
  | timestamp ts => exact map_setQuietly f save (.timestamp ts)
  | hostBehavior data => exact map_setQuietly f save (.hostBehavior data)
  | iocsProfile iocsi => exact map_setQuietly f save (.iocsProfile iocsi)
  | _ => exact Program.map_eq _ _

end SetFeature

namespace FeatureOp

def controller : FeatureOp → Controller
  | .get c _ _ | .set c _ _ | .getHostId c _ _ _ | .setHostId c _ _ _ | .reset c => c

def run : FeatureOp → Admin FeatureValue
  | .get c which sel => which.method ⟨c⟩ sel
  | .set c which save => which.method ⟨c⟩ save
  | .getHostId c sel exhid hostid => .data <$> (Features.getHostId ⟨c⟩ sel exhid hostid).admin
  | .setHostId c exhid save hostid =>
    (fun _ => .nothing) <$> (Features.setHostId ⟨c⟩ exhid save hostid).admin
  | .reset c => (fun _ => .nothing) <$> c.reset.admin

def asks : FeatureOp → Option (FeatureKey × FeatureSelect × (Cell → FeatureValue))
  | .get _ which sel => some (which.key, sel, which.value)
  | .getHostId _ sel exhid hostid =>
    some (hostIdKey exhid, sel, fun cell => .data (hostid.fill cell.data))
  | _ => none

section
variable {σ : Type} (D : FeatureBank σ)

/-- What a failed command may have done. -/
def Risks (op : FeatureOp) (v v' : Views) : Prop :=
  match op with
  | .get .. | .getHostId .. => D.Same v v'
  | .set _ which save => D.Touches which.key save v v'
  | .setHostId _ exhid save _ => D.Touches (hostIdKey exhid) save v v'
  | .reset _ => D.Shakes v v'

def Does (op : FeatureOp) (v v' : Views) : Prop :=
  match op with
  | .get .. | .getHostId .. => D.Same v v'
  | .set _ which save => D.Stores which.key save (D.encode which) v v'
  | .setHostId _ exhid save hostid => D.Stores (hostIdKey exhid) save ⟨0, hostid.bytes⟩ v v'
  | .reset _ => D.Resets v v'

/-- A buffer of the wrong length is turned away before any call. -/
def Effect (op : FeatureOp) (r : Except Error FeatureValue) (v v' : Views) : Prop :=
  match r with
  | .ok _ => op.Does D v v'
  | .error (.os (.custom _ _)) => D.Same v v'
  | .error _ => op.Risks D v v'

def Step (op : FeatureOp) (r : Except Error FeatureValue) (s s' : σ) : Prop :=
  D.Moves s s' (D.unit op.controller) (op.Effect D r) ∧
    ∀ x key sel shown, r = .ok x → op.asks = some (key, sel, shown) → D.kept key →
      x = shown (D.views s (D.unit op.controller) key sel)

variable {D} {h : Handler AdminCall AdminAnswer σ}

theorem risks_same (op : FeatureOp) {v v' : Views} (hsame : D.Same v v') : op.Risks D v v' := by
  cases op with
  | get c which sel => exact hsame
  | getHostId c sel exhid hostid => exact hsame
  | set c which save => exact hsame.touches _ save
  | setHostId c exhid save hostid => exact hsame.touches _ save
  | reset c => exact hsame.shakes

theorem risks_after (op : FeatureOp) {v v₁ v' : Views} (hsame : D.Same v v₁)
    (hop : op.Risks D v₁ v') : op.Risks D v v' := by
  cases op with
  | get c which sel | getHostId c sel exhid hostid =>
    exact fun k view hk => (hop k view hk).trans (hsame k view hk)
  | set c which save | setHostId c exhid save hostid =>
    exact fun k view hk hno => (hop k view hk hno).trans (hsame k view hk)
  | reset c => exact fun k view hk hno => (hop k view hk hno).trans (hsame k view hk)

theorem does_after (op : FeatureOp) {v v₁ v' : Views} (hsame : D.Same v v₁)
    (hop : op.Does D v₁ v') : op.Does D v v' := by
  cases op with
  | get c which sel | getHostId c sel exhid hostid =>
    exact fun k view hk => (hop k view hk).trans (hsame k view hk)
  | set c which save | setHostId c exhid save hostid =>
    exact ⟨fun k view hk hno => (hop.1 k view hk hno).trans (hsame k view hk), hop.2⟩
  | reset c =>
    exact ⟨fun k view hk hno => (hop.1 k view hk hno).trans (hsame k view hk),
      fun k hk => (hop.2 k hk).trans (hsame k .saved hk)⟩

theorem step_failed (op : FeatureOp) {e : Error} {s s' : σ}
    (hs : ∀ u, D.Same (D.views s u) (D.views s' u)) : op.Step D (.error e) s s' := by
  have heffect : op.Effect D (.error e) (D.views s (D.unit op.controller))
      (D.views s' (D.unit op.controller)) := by
    cases e with
    | os i =>
      cases i with
      | raw errno => exact op.risks_same (hs _)
      | custom kind m => exact hs _
    | nvme | notAvailable | utf8 | invalidArgument => exact op.risks_same (hs _)
  exact ⟨⟨heffect, fun other _ => hs other⟩, fun x key sel shown hx => by cases hx⟩

theorem step_submit (hD : D.Conforms h) (op : FeatureOp) (check : Except Error Unit)
    (command : I32 → AdminCall)
    (result : (fd : I32) → AdminAnswer (command fd) → FeatureValue)
    (hsend : ∀ fd s s' a, D.Meets s s' (command fd) a →
      let ret := ((command fd).reply.cret a).ret
      D.Moves s s' (D.target fd) fun v v' =>
        (if ret = 0 then op.Does D v v' else op.Risks D v v') ∧
        (ret = 0 → ∀ key sel shown, op.asks = some (key, sel, shown) → D.kept key →
          result fd a = shown (v key sel)))
    (s : σ) {r : Except Error FeatureValue}
    (hr : ((submit check (.lib (.nvmeCtrlGetFd op.controller)) openedFd command fun fd a =>
      checkRet ((command fd).reply.cret a) >>= fun _ => .ok (result fd a)).run h s).exit =
        .ofExcept r) :
    op.Step D r s ((submit check (.lib (.nvmeCtrlGetFd op.controller)) openedFd command fun fd a =>
      checkRet ((command fd).reply.cret a) >>= fun _ => .ok (result fd a)).run h s).state := by
  obtain ⟨hquiet, htarget⟩ := hD (.lib (.nvmeCtrlGetFd op.controller)) s
  refine submit_step check (.lib (.nvmeCtrlGetFd op.controller)) openedFd command
    (fun fd a => checkRet ((command fd).reply.cret a) >>= fun _ => .ok (result fd a)) s
    (fun err _ => op.step_failed fun u => FeatureBank.same_refl _)
    (fun err _ => op.step_failed hquiet) (fun fd _ hopen => ?_) hr
  have hmeets := hD (command fd) (h (.lib (.nvmeCtrlGetFd op.controller)) s).2
  generalize h (command fd) (h (.lib (.nvmeCtrlGetFd op.controller)) s).2 = sent at hmeets ⊢
  obtain ⟨⟨heffect, hshown⟩, hothers⟩ := hsend fd _ _ _ hmeets
  rw [htarget fd hopen] at heffect hshown hothers
  have hrest : ∀ other, other ≠ D.unit op.controller →
      D.Same (D.views s other) (D.views sent.2 other) := fun other hother k sel hk =>
    (hothers other hother k sel hk).trans (hquiet other k sel hk)
  refine classified (P := fun r => op.Step D r s sent.2) (fun hzero => ?_)
    fun hnonzero e _ he => ?_
  · rw [if_pos hzero] at heffect
    refine ⟨⟨op.does_after (hquiet _) heffect, hrest⟩, fun x key sel shown hx hasks hkept => ?_⟩
    obtain rfl := Except.ok.inj hx
    rw [hshown hzero key sel shown hasks hkept, hquiet _ key sel hkept]
  · rw [if_neg hnonzero] at heffect
    have hrisks := op.risks_after (hquiet _) heffect
    refine ⟨⟨?_, hrest⟩, fun x key sel shown hx => by cases hx⟩
    cases e with
    | os i =>
      cases i with
      | raw errno => exact hrisks
      | custom kind m => exact (he kind m rfl).elim
    | nvme | notAvailable | utf8 | invalidArgument => exact hrisks

end

theorem run_get (c : Controller) (which : GetFeature) (sel : FeatureSelect) :
    (get c which sel).run =
      submit (.ok ()) (.lib (.nvmeCtrlGetFd c)) openedFd
        (fun fd => .nvmeGetFeatures which fd sel.asRaw)
        fun _ done => checkRet done.cret >>= fun _ =>
          .ok (which.value ⟨done.result, done.data⟩) := by
  rw [run, GetFeature.method_eq, Features.get, c.adminFd_eq, submit]
  simp only [pure_eq, bind_bind, ofExcept_ok, ret_bind, ask_bind, call_bind, liftM_eq,
    ofExcept_bind]

theorem run_set (c : Controller) (which : SetFeature) (save : Bool) :
    (set c which save).run =
      submit (.ok ()) (.lib (.nvmeCtrlGetFd c)) openedFd
        (fun fd => .nvmeSetFeatures which fd save)
        fun _ done => checkRet done.cret >>= fun _ => .ok (which.value done.result) := by
  rw [run, SetFeature.method_eq, Features.set, c.adminFd_eq, submit]
  simp only [pure_eq, bind_bind, ofExcept_ok, ret_bind, ask_bind, call_bind, liftM_eq,
    ofExcept_bind]

theorem run_reset (c : Controller) :
    (reset c).run =
      submit (.ok ()) (.lib (.nvmeCtrlGetFd c)) openedFd (fun fd => .lib (.nvmeCtrlReset fd))
        fun _ r => checkRet r >>= fun _ => .ok .nothing := by
  rw [run, Program.map_eq, Controller.reset, Ffi.admin, via_bind]
  change (c.adminFd >>= _) >>= _ = _
  rw [c.adminFd_eq, submit]
  simp only [bind_bind, ofExcept_ok, ret_bind, ask_bind, call_bind, liftM_eq, ofExcept_bind, via,
    via_ofExcept]

theorem run_getHostId (c : Controller) (sel : FeatureSelect) (exhid : Bool) (hostid : Slice) :
    (getHostId c sel exhid hostid).run =
      submit (Features.hostIdCheck exhid hostid) (.lib (.nvmeCtrlGetFd c)) openedFd
        (fun fd => .lib (.nvmeGetFeaturesHostId fd sel.asRaw exhid (asU32 hostid.length) hostid))
        fun _ done => checkRet done.cret >>= fun _ => .ok (.data (hostid.fill done.data)) := by
  rw [run, Program.map_eq, Features.getHostId, Features.hostIdCheck, submit]
  split_ifs with hlength
  · rfl
  · rw [Ffi.admin, via_bind]
    change (c.adminFd >>= _) >>= _ = _
    rw [c.adminFd_eq]
    simp only [pure_eq, bind_bind, ofExcept_ok, ret_bind, ask_bind, call_bind, liftM_eq,
      ofExcept_bind, via, via_bind, via_ofExcept]

theorem run_setHostId (c : Controller) (exhid save : Bool) (hostid : Slice) :
    (setHostId c exhid save hostid).run =
      submit (Features.hostIdCheck exhid hostid) (.lib (.nvmeCtrlGetFd c)) openedFd
        (fun fd => .lib (.nvmeSetFeaturesHostId fd exhid save hostid))
        fun _ r => checkRet r >>= fun _ => .ok .nothing := by
  rw [run, Program.map_eq, Features.setHostId, Features.hostIdCheck, submit]
  split_ifs with hlength
  · rfl
  · rw [Ffi.admin, via_bind]
    change (c.adminFd >>= _) >>= _ = _
    rw [c.adminFd_eq]
    simp only [bind_bind, ofExcept_ok, ret_bind, ask_bind, call_bind, liftM_eq, ofExcept_bind, via,
      via_ofExcept]

section Run
variable {σ : Type} {D : FeatureBank σ} {h : Handler AdminCall AdminAnswer σ}
variable (hD : D.Conforms h) (s : σ) {r : Except Error FeatureValue}
include hD

theorem step_get (c : Controller) (which : GetFeature) (sel : FeatureSelect)
    (hr : ((get c which sel).run.run h s).exit = .ofExcept r) :
    (get c which sel).Step D r s ((get c which sel).run.run h s).state := by
  rw [run_get] at hr ⊢
  refine (get c which sel).step_submit hD (.ok ())
    (fun fd => .nvmeGetFeatures which fd sel.asRaw)
    (fun _ done => which.value ⟨done.result, done.data⟩) (fun fd s s' done hmeets => ?_) s hr
  obtain ⟨⟨hsame, hshows⟩, hothers⟩ := hmeets
  refine ⟨⟨by split_ifs <;> exact hsame, fun hzero key view shown hasks hkept => ?_⟩, hothers⟩
  obtain ⟨rfl, rfl, rfl⟩ : which.key = key ∧ sel = view ∧ which.value = shown := by
    simpa [asks] using hasks
  exact congrArg which.value (hshows hzero hkept sel rfl)

theorem step_set (c : Controller) (which : SetFeature) (save : Bool)
    (hr : ((set c which save).run.run h s).exit = .ofExcept r) :
    (set c which save).Step D r s ((set c which save).run.run h s).state := by
  rw [run_set] at hr ⊢
  refine (set c which save).step_submit hD (.ok ()) (fun fd => .nvmeSetFeatures which fd save)
    (fun _ done => which.value done.result) (fun fd s s' done hmeets => ?_) s hr
  exact ⟨⟨hmeets.1, fun _ key view shown hasks => by cases hasks⟩, hmeets.2⟩

theorem step_reset (c : Controller) (hr : ((reset c).run.run h s).exit = .ofExcept r) :
    (reset c).Step D r s ((reset c).run.run h s).state := by
  rw [run_reset] at hr ⊢
  refine (reset c).step_submit hD (.ok ()) (fun fd => .lib (.nvmeCtrlReset fd))
    (fun _ _ => .nothing) (fun fd s s' ret hmeets => ?_) s hr
  exact ⟨⟨hmeets.1, fun _ key view shown hasks => by cases hasks⟩, hmeets.2⟩

theorem step_getHostId (c : Controller) (sel : FeatureSelect) (exhid : Bool) (hostid : Slice)
    (hr : ((getHostId c sel exhid hostid).run.run h s).exit = .ofExcept r) :
    (getHostId c sel exhid hostid).Step D r s
      ((getHostId c sel exhid hostid).run.run h s).state := by
  rw [run_getHostId] at hr ⊢
  refine (getHostId c sel exhid hostid).step_submit hD (Features.hostIdCheck exhid hostid)
    (fun fd => .lib (.nvmeGetFeaturesHostId fd sel.asRaw exhid (asU32 hostid.length) hostid))
    (fun _ done => .data (hostid.fill done.data)) (fun fd s s' done hmeets => ?_) s hr
  obtain ⟨⟨hsame, hshows⟩, hothers⟩ := hmeets
  refine ⟨⟨by split_ifs <;> exact hsame, fun hzero key view shown hasks hkept => ?_⟩, hothers⟩
  obtain ⟨rfl, rfl, rfl⟩ : hostIdKey exhid = key ∧ sel = view ∧
      (fun cell : Cell => FeatureValue.data (hostid.fill cell.data)) = shown := by
    simpa [asks] using hasks
  exact congrArg (fun bytes => FeatureValue.data (hostid.fill bytes)) (hshows hzero hkept sel rfl)

theorem step_setHostId (c : Controller) (exhid save : Bool) (hostid : Slice)
    (hr : ((setHostId c exhid save hostid).run.run h s).exit = .ofExcept r) :
    (setHostId c exhid save hostid).Step D r s
      ((setHostId c exhid save hostid).run.run h s).state := by
  rw [run_setHostId] at hr ⊢
  refine (setHostId c exhid save hostid).step_submit hD (Features.hostIdCheck exhid hostid)
    (fun fd => .lib (.nvmeSetFeaturesHostId fd exhid save hostid)) (fun _ _ => .nothing)
    (fun fd s s' ret hmeets => ?_) s hr
  exact ⟨⟨hmeets.1, fun _ key view shown hasks => by cases hasks⟩, hmeets.2⟩

theorem step_of_run (op : FeatureOp) (hr : (op.run.run h s).exit = .ofExcept r) :
    op.Step D r s (op.run.run h s).state := by
  cases op with
  | get c which sel => exact step_get hD s c which sel hr
  | set c which save => exact step_set hD s c which save hr
  | getHostId c sel exhid hostid => exact step_getHostId hD s c sel exhid hostid hr
  | setHostId c exhid save hostid => exact step_setHostId hD s c exhid save hostid hr
  | reset c => exact step_reset hD s c hr

end Run
end FeatureOp
end LibnvmeRs
