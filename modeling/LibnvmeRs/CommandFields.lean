import LibnvmeRs.Bitfields
import LibnvmeRs.Controller
import LibnvmeRs.SetterCalls

/-!
# The command fields of Sanitize and Firmware Commit

libnvme masks each member of the arguments to its field of the command dword. A
byte the caller gave may be wider than its field, and the build may lack the
member for an option; the wrapper looks at neither.
-/

namespace LibnvmeRs

open Interaction Program Bitfields SetterCalls

inductive SanitizeAction where
  | exitFailure
  | blockErase
  | overwrite
  | cryptoErase
  | exitMediaVerification
  deriving DecidableEq, Repr

def SanitizeAction.asRaw : SanitizeAction → U32
  | .exitFailure => 1
  | .blockErase => 2
  | .overwrite => 3
  | .cryptoErase => 4
  | .exitMediaVerification => 5

structure Sanitize where
  ctrl : Controller
  action : SanitizeAction
  ause : Bool
  owpass : U8
  oipbp : Bool
  nodas : Bool
  emvs : Bool
  ovrpat : U32
  timeoutMs : U32

inductive SanitizeSetter where
  | action (action : SanitizeAction)
  | ause (ause : Bool)
  | overwritePassCount (n : U8)
  | overwriteInvert (oipbp : Bool)
  | noDeallocateAfter (nodas : Bool)
  | emulatedMediaVerify (emvs : Bool)
  | overwritePattern (pattern : U32)
  | timeoutMs (ms : U32)

namespace SanitizeSetter

def action? : SanitizeSetter → Option SanitizeAction
  | .action a => some a
  | _ => none

def ause? : SanitizeSetter → Option Bool
  | .ause a => some a
  | _ => none

def overwritePassCount? : SanitizeSetter → Option U8
  | .overwritePassCount n => some n
  | _ => none

def overwriteInvert? : SanitizeSetter → Option Bool
  | .overwriteInvert oipbp => some oipbp
  | _ => none

def noDeallocateAfter? : SanitizeSetter → Option Bool
  | .noDeallocateAfter nodas => some nodas
  | _ => none

def emulatedMediaVerify? : SanitizeSetter → Option Bool
  | .emulatedMediaVerify emvs => some emvs
  | _ => none

def overwritePattern? : SanitizeSetter → Option U32
  | .overwritePattern pattern => some pattern
  | _ => none

def timeoutMs? : SanitizeSetter → Option U32
  | .timeoutMs ms => some ms
  | _ => none

end SanitizeSetter

def sizeofNvmeSanitizeNvmArgs (hasSanitizeEmvs : Bool) : I32 := if hasSanitizeEmvs then 40 else 32

namespace Sanitize

def new (ctrl : Controller) : Sanitize :=
  { ctrl := ctrl
    action := .blockErase
    ause := false
    owpass := 0
    oipbp := false
    nodas := false
    emvs := false
    ovrpat := 0
    timeoutMs := 0 }

def set (b : Sanitize) : SanitizeSetter → Sanitize
  | .action action => { b with action := action }
  | .ause ause => { b with ause := ause }
  | .overwritePassCount n => { b with owpass := n }
  | .overwriteInvert oipbp => { b with oipbp := oipbp }
  | .noDeallocateAfter nodas => { b with nodas := nodas }
  | .emulatedMediaVerify emvs => { b with emvs := emvs }
  | .overwritePattern pattern => { b with ovrpat := pattern }
  | .timeoutMs ms => { b with timeoutMs := ms }

def sets (b : Sanitize) (calls : List SanitizeSetter) : Sanitize := calls.foldl set b

def args (hasSanitizeEmvs : Bool) (b : Sanitize) (fd : I32) : NvmeSanitizeNvmArgs :=
  let args : NvmeSanitizeNvmArgs := {}
  let args :=
    { args with
      argsSize := sizeofNvmeSanitizeNvmArgs hasSanitizeEmvs
      fd := fd
      timeout := b.timeoutMs
      sanact := b.action.asRaw
      ovrpat := b.ovrpat
      ause := b.ause
      owpass := b.owpass
      oipbp := b.oipbp
      nodas := b.nodas }
  if hasSanitizeEmvs then { args with emvs := some b.emvs } else args

def execute (hasSanitizeEmvs : Bool) (b : Sanitize) : Ffi U32 := do
  let fd ← b.ctrl.openFd
  let done ← ask (Call.nvmeSanitizeNvm (b.args hasSanitizeEmvs fd))
  checkRet done.cret
  return done.result

theorem execute_discard (hasSanitizeEmvs : Bool) (b : Sanitize) :
    (b.execute hasSanitizeEmvs).discard =
      (b.ctrl.request fun fd => .nvmeSanitizeNvm (b.args hasSanitizeEmvs fd)).program :=
  request_unchecked (.ctrl b.ctrl) (fun fd => .nvmeSanitizeNvm (b.args hasSanitizeEmvs fd))
    fun _ done => done.result

end Sanitize

-- `NVME_SANITIZE_CDW10_*`
namespace NvmeSanitizeCdw10

def sanact : Field := ⟨0, 3⟩
def ause : Field := ⟨3, 1⟩
def owpass : Field := ⟨4, 4⟩
def oipbp : Field := ⟨8, 1⟩
def nodas : Field := ⟨9, 1⟩
def emvs : Field := ⟨10, 1⟩

example : [sanact, ause, owpass, oipbp, nodas, emvs].map Field.mask = [7, 1, 0xf, 1, 1, 1] := rfl

end NvmeSanitizeCdw10

structure SanitizeFields where
  sanact : ℕ
  ause : ℕ
  owpass : ℕ
  oipbp : ℕ
  nodas : ℕ
  emvs : ℕ
  ovrpat : ℕ
  deriving DecidableEq

namespace NvmeSanitizeNvmArgs
variable (args : NvmeSanitizeNvmArgs)

def fields : List (Field × ℕ) := [
  (NvmeSanitizeCdw10.sanact, args.sanact.toNat),
  (NvmeSanitizeCdw10.ause, args.ause.toNat),
  (NvmeSanitizeCdw10.owpass, args.owpass.toNat),
  (NvmeSanitizeCdw10.oipbp, args.oipbp.toNat),
  (NvmeSanitizeCdw10.nodas, args.nodas.toNat),
  (NvmeSanitizeCdw10.emvs, (args.emvs.getD false).toNat)]

def cdw10 : ℕ := word args.fields

theorem fields_apart : FieldsApart args.fields := by
  simp [FieldsApart, fields, Field.Apart, NvmeSanitizeCdw10.sanact, NvmeSanitizeCdw10.ause,
    NvmeSanitizeCdw10.owpass, NvmeSanitizeCdw10.oipbp, NvmeSanitizeCdw10.nodas,
    NvmeSanitizeCdw10.emvs]

def told : SanitizeFields :=
  { sanact := NvmeSanitizeCdw10.sanact.get args.cdw10
    ause := NvmeSanitizeCdw10.ause.get args.cdw10
    owpass := NvmeSanitizeCdw10.owpass.get args.cdw10
    oipbp := NvmeSanitizeCdw10.oipbp.get args.cdw10
    nodas := NvmeSanitizeCdw10.nodas.get args.cdw10
    emvs := NvmeSanitizeCdw10.emvs.get args.cdw10
    ovrpat := args.ovrpat.toNat }

theorem told_eq (hsanact : args.sanact.toNat < 2 ^ 3) :
    args.told =
      { sanact := args.sanact.toNat
        ause := args.ause.toNat
        owpass := args.owpass.toNat % 2 ^ 4
        oipbp := args.oipbp.toNat
        nodas := args.nodas.toNat
        emvs := (args.emvs.getD false).toNat
        ovrpat := args.ovrpat.toNat } := by
  have hread : ∀ x ∈ args.fields, x.1.get args.cdw10 = x.2 % 2 ^ x.1.width :=
    fun x hx => get_word args.fields_apart hx
  have hflag : ∀ b : Bool, b.toNat % 2 ^ 1 = b.toNat := by decide
  simp only [fields, List.forall_mem_cons] at hread
  obtain ⟨h₁, h₂, h₃, h₄, h₅, h₆, -⟩ := hread
  rw [told, h₁, h₂, h₃, h₄, h₅, h₆, NvmeSanitizeCdw10.sanact, NvmeSanitizeCdw10.ause,
    NvmeSanitizeCdw10.owpass, NvmeSanitizeCdw10.oipbp, NvmeSanitizeCdw10.nodas,
    NvmeSanitizeCdw10.emvs]
  dsimp only
  rw [hflag, hflag, hflag, hflag, Nat.mod_eq_of_lt hsanact]

end NvmeSanitizeNvmArgs

namespace Sanitize

def requested (calls : List SanitizeSetter) : SanitizeFields :=
  { sanact := ((lastSome SanitizeSetter.action? calls).getD .blockErase).asRaw.toNat
    ause := ((lastSome SanitizeSetter.ause? calls).getD false).toNat
    owpass := ((lastSome SanitizeSetter.overwritePassCount? calls).getD 0).toNat
    oipbp := ((lastSome SanitizeSetter.overwriteInvert? calls).getD false).toNat
    nodas := ((lastSome SanitizeSetter.noDeallocateAfter? calls).getD false).toNat
    emvs := ((lastSome SanitizeSetter.emulatedMediaVerify? calls).getD false).toNat
    ovrpat := ((lastSome SanitizeSetter.overwritePattern? calls).getD 0).toNat }

def after (b : Sanitize) (l : List SanitizeSetter) : Sanitize :=
  { b with
    action := (lastSome SanitizeSetter.action? l).getD b.action
    ause := (lastSome SanitizeSetter.ause? l).getD b.ause
    owpass := (lastSome SanitizeSetter.overwritePassCount? l).getD b.owpass
    oipbp := (lastSome SanitizeSetter.overwriteInvert? l).getD b.oipbp
    nodas := (lastSome SanitizeSetter.noDeallocateAfter? l).getD b.nodas
    emvs := (lastSome SanitizeSetter.emulatedMediaVerify? l).getD b.emvs
    ovrpat := (lastSome SanitizeSetter.overwritePattern? l).getD b.ovrpat
    timeoutMs := (lastSome SanitizeSetter.timeoutMs? l).getD b.timeoutMs }

theorem sets_eq (b : Sanitize) (l : List SanitizeSetter) : b.sets l = b.after l := by
  refine foldl_eq_after (fun b => ?_) (fun b s l => ?_) b l
  · rfl
  · cases s <;> simp [after, set, lastSome, SanitizeSetter.action?, SanitizeSetter.ause?,
      SanitizeSetter.overwritePassCount?, SanitizeSetter.overwriteInvert?,
      SanitizeSetter.noDeallocateAfter?, SanitizeSetter.emulatedMediaVerify?,
      SanitizeSetter.overwritePattern?, SanitizeSetter.timeoutMs?]

theorem sets_told (hasSanitizeEmvs : Bool) (ctrl : Controller) (calls : List SanitizeSetter)
    (fd : I32) :
    (((new ctrl).sets calls).args hasSanitizeEmvs fd).told =
      { requested calls with
        owpass := (requested calls).owpass % 2 ^ 4
        emvs := if hasSanitizeEmvs then (requested calls).emvs else 0 } := by
  have hsanact : ∀ a : SanitizeAction, a.asRaw.toNat < 2 ^ 3 := by
    intro a
    cases a <;> decide
  rw [sets_eq]
  cases hasSanitizeEmvs with
  | true => exact NvmeSanitizeNvmArgs.told_eq _ (hsanact _)
  | false => exact NvmeSanitizeNvmArgs.told_eq _ (hsanact _)

theorem onlySanitizes_iff {hasSanitizeEmvs : Bool} {b : Sanitize}
    {P : NvmeSanitizeNvmArgs → Prop} :
    ((b.execute hasSanitizeEmvs).OnlyCalls fun c => ∀ args, c = .nvmeSanitizeNvm args → P args) ↔
      ∀ fd : I32, fd.slt 0 = false → P (b.args hasSanitizeEmvs fd) := by
  rw [← onlyCalls_discard, execute_discard, Controller.request, request_onlyCalls]
  simp

def Representable (hasSanitizeEmvs : Bool) (calls : List SanitizeSetter) : Prop :=
  ((lastSome SanitizeSetter.overwritePassCount? calls).getD 0).toNat < 16 ∧
    (hasSanitizeEmvs = true ∨
      (lastSome SanitizeSetter.emulatedMediaVerify? calls).getD false = false)

/-- A command says what was last asked for, and what none can say is turned away. -/
def SendsRequested (hasSanitizeEmvs : Bool) (ctrl : Controller) (calls : List SanitizeSetter) :
    Prop :=
  let run := ((new ctrl).sets calls).execute hasSanitizeEmvs
  (run.OnlyCalls fun c => ∀ args, c = .nvmeSanitizeNvm args → args.told = requested calls) ∧
    (¬Representable hasSanitizeEmvs calls → Refused run)

theorem told_requested_iff (hasSanitizeEmvs : Bool) (ctrl : Controller)
    (calls : List SanitizeSetter) (fd : I32) :
    (((new ctrl).sets calls).args hasSanitizeEmvs fd).told = requested calls ↔
      Representable hasSanitizeEmvs calls := by
  have hpass : (requested calls).owpass % 2 ^ 4 = (requested calls).owpass ↔
      (requested calls).owpass < 16 := Nat.mod_eq_iff_lt (by decide)
  have hemvs : (if hasSanitizeEmvs then (requested calls).emvs else 0) = (requested calls).emvs ↔
      hasSanitizeEmvs = true ∨
        (lastSome SanitizeSetter.emulatedMediaVerify? calls).getD false = false := by
    rw [requested]
    dsimp only
    cases hasSanitizeEmvs <;>
      cases (lastSome SanitizeSetter.emulatedMediaVerify? calls).getD false <;> decide
  have hfits : Representable hasSanitizeEmvs calls ↔
      (requested calls).owpass % 2 ^ 4 = (requested calls).owpass ∧
        (if hasSanitizeEmvs then (requested calls).emvs else 0) = (requested calls).emvs :=
    and_congr hpass.symm hemvs.symm
  rw [sets_told, hfits]
  constructor
  · intro h
    exact ⟨congrArg SanitizeFields.owpass h, congrArg SanitizeFields.emvs h⟩
  · rintro ⟨howpass, hverify⟩
    rw [howpass, hverify]

theorem not_refused (hasSanitizeEmvs : Bool) (b : Sanitize) :
    ¬Refused (b.execute hasSanitizeEmvs) := by
  intro hrefused
  obtain ⟨h, hcalls⟩ := hrefused.exists_stopped
  cases hcalls

theorem sendsRequested_iff (hasSanitizeEmvs : Bool) (ctrl : Controller)
    (calls : List SanitizeSetter) :
    SendsRequested hasSanitizeEmvs ctrl calls ↔ Representable hasSanitizeEmvs calls := by
  rw [SendsRequested, onlySanitizes_iff]
  constructor
  · rintro ⟨-, hrefuses⟩
    by_contra hcalls
    exact not_refused _ _ (hrefuses hcalls)
  · intro hcalls
    refine ⟨fun fd _ => ?_, fun hnot => (hnot hcalls).elim⟩
    exact (told_requested_iff hasSanitizeEmvs ctrl calls fd).mpr hcalls

end Sanitize

inductive FirmwareAction where
  | replace
  | replaceAndActivate
  | setActive
  | replaceAndActivateImmediate
  | replaceBootPartition
  | activateBootPartition
  deriving DecidableEq, Repr

def FirmwareAction.asRaw : FirmwareAction → U32
  | .replace => 0
  | .replaceAndActivate => 1
  | .setActive => 2
  | .replaceAndActivateImmediate => 3
  | .replaceBootPartition => 6
  | .activateBootPartition => 7

def sizeofNvmeFwCommitArgs : I32 := 32

def fwCommitArgs (slot : U8) (action : FirmwareAction) (bpid : Bool) (fd : I32) :
    NvmeFwCommitArgs :=
  { argsSize := sizeofNvmeFwCommitArgs
    fd := fd
    timeout := 0
    action := action.asRaw
    slot := slot
    bpid := bpid }

-- `NVME_FW_COMMIT_CDW10_*`
namespace NvmeFwCommitCdw10

def fs : Field := ⟨0, 3⟩
def ca : Field := ⟨3, 3⟩
def bpid : Field := ⟨31, 1⟩

example : [fs, ca, bpid].map Field.mask = [7, 7, 1] := rfl

end NvmeFwCommitCdw10

namespace NvmeFwCommitArgs
variable (args : NvmeFwCommitArgs)

def fields : List (Field × ℕ) := [
  (NvmeFwCommitCdw10.fs, args.slot.toNat),
  (NvmeFwCommitCdw10.ca, args.action.toNat),
  (NvmeFwCommitCdw10.bpid, args.bpid.toNat)]

def cdw10 : ℕ := word args.fields

theorem fields_apart : FieldsApart args.fields := by
  simp [FieldsApart, fields, Field.Apart, NvmeFwCommitCdw10.fs, NvmeFwCommitCdw10.ca,
    NvmeFwCommitCdw10.bpid]

def toldSlot : ℕ := NvmeFwCommitCdw10.fs.get args.cdw10

def toldAction : ℕ := NvmeFwCommitCdw10.ca.get args.cdw10

def toldBpid : ℕ := NvmeFwCommitCdw10.bpid.get args.cdw10

theorem toldSlot_eq_iff : args.toldSlot = args.slot.toNat ↔ args.slot.toNat < 8 :=
  get_word_eq_iff args.fields_apart List.mem_cons_self

end NvmeFwCommitArgs

namespace Controller
variable (c : Controller) (slot : U8) (action : FirmwareAction) (bpid : Bool)

def fwCommit : Ffi Unit := do
  let fd ← c.openFd
  let r ← ask (Call.nvmeFwCommit (fwCommitArgs slot action bpid fd))
  checkRet r

theorem fwCommit_discard :
    (c.fwCommit slot action bpid).discard =
      (c.request fun fd => .nvmeFwCommit (fwCommitArgs slot action bpid fd)).program :=
  discard_unit _

theorem fwCommit_onlyCommits_iff {P : NvmeFwCommitArgs → Prop} :
    ((c.fwCommit slot action bpid).OnlyCalls fun x => ∀ args, x = .nvmeFwCommit args → P args) ↔
      ∀ fd : I32, fd.slt 0 = false → P (fwCommitArgs slot action bpid fd) := by
  rw [← onlyCalls_discard, fwCommit_discard, Controller.request, request_onlyCalls]
  simp

theorem fwCommit_told (fd : I32) :
    (fwCommitArgs slot action bpid fd).toldAction = action.asRaw.toNat ∧
      (fwCommitArgs slot action bpid fd).toldBpid = bpid.toNat := by
  have hfields := (fwCommitArgs slot action bpid fd).fields_apart
  have haction : action.asRaw.toNat < 2 ^ 3 := by
    cases action <;> decide
  have hbpid : bpid.toNat < 2 ^ 1 := by
    cases bpid <;> decide
  refine ⟨(get_word_eq_iff hfields ?_).mpr haction, (get_word_eq_iff hfields ?_).mpr hbpid⟩
  · exact List.mem_cons_of_mem _ List.mem_cons_self
  · exact List.mem_cons_of_mem _ (List.mem_cons_of_mem _ List.mem_cons_self)

/-- The device is told the slot it was asked for; a slot it cannot be told is turned away. -/
def CommitsSlot : Prop :=
  ((c.fwCommit slot action bpid).OnlyCalls fun x => ∀ args, x = .nvmeFwCommit args →
    args.slot.toNat ≤ NvmeFwCommitCdw10.fs.mask ∧ args.toldSlot = slot.toNat) ∧
    (NvmeFwCommitCdw10.fs.mask < slot.toNat → Refused (c.fwCommit slot action bpid))

theorem commitsSlot_iff : c.CommitsSlot slot action bpid ↔ slot.toNat < 8 := by
  have htold : ∀ fd, (fwCommitArgs slot action bpid fd).toldSlot = slot.toNat ↔ slot.toNat < 8 :=
    fun fd => (fwCommitArgs slot action bpid fd).toldSlot_eq_iff
  rw [CommitsSlot, fwCommit_onlyCommits_iff]
  constructor
  · rintro ⟨hsent, -⟩
    exact (htold 0).mp (hsent 0 rfl).2
  · intro hslot
    have hmask : slot.toNat ≤ NvmeFwCommitCdw10.fs.mask := Nat.le_of_lt_succ hslot
    refine ⟨fun fd _ => ⟨hmask, (htold fd).mpr hslot⟩, fun hlt => ?_⟩
    exact (Nat.not_lt_of_le hmask hlt).elim

end Controller

theorem command_fields_iff (c : Controller) :
    (∀ (hasSanitizeEmvs : Bool) (calls : List SanitizeSetter),
      Sanitize.SendsRequested hasSanitizeEmvs c calls ↔
        ((lastSome SanitizeSetter.overwritePassCount? calls).getD 0).toNat < 16 ∧
          (hasSanitizeEmvs = true ∨
            (lastSome SanitizeSetter.emulatedMediaVerify? calls).getD false = false)) ∧
    ∀ (slot : U8) (action : FirmwareAction) (bpid : Bool),
      c.CommitsSlot slot action bpid ↔ slot.toNat < 8 :=
  ⟨fun hasSanitizeEmvs calls => Sanitize.sendsRequested_iff hasSanitizeEmvs c calls,
    c.commitsSlot_iff⟩

/-- Sixteen passes go out as none, media verification is lost where the bindings lack
it, and slot 8 becomes slot 0. -/
theorem sixteen_passes_cut_to_none :
    let passes : List SanitizeSetter := [.action .overwrite, .overwritePassCount 16]
    let verify : List SanitizeSetter := [.emulatedMediaVerify true]
    (((Sanitize.new 0).sets passes).args true 3).told.owpass = 0 ∧
      ¬Sanitize.SendsRequested true 0 passes ∧
      (((Sanitize.new 0).sets verify).args false 3).told.emvs = 0 ∧
      ¬Sanitize.SendsRequested false 0 verify ∧
      (fwCommitArgs 8 .replace false 3).toldSlot = 0 ∧
      ¬Controller.CommitsSlot 0 8 .replace false := by
  intro passes verify
  refine ⟨by decide, fun h => ?_, by decide, fun h => ?_, by decide, fun h => ?_⟩
  · exact absurd ((Sanitize.sendsRequested_iff _ _ _).mp h).1 (by decide)
  · exact absurd ((Sanitize.sendsRequested_iff _ _ _).mp h).2 (by decide)
  · exact absurd ((Controller.commitsSlot_iff _ _ _ _).mp h) (by decide)

end LibnvmeRs
