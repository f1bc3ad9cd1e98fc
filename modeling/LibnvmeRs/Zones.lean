import LibnvmeRs.BlockDevices

/-!
# Zones and their write pointers

A zone takes what is appended to it one after the other, from its first block on; its
write pointer is where the next append goes. Append returns the place the controller
picked, which is always the write pointer. Reset makes a zone empty, opening and
closing leave its contents alone, and of the other actions this module only knows
which zones they touch.
-/

namespace LibnvmeRs

open Interaction Program ByteOrder BlockStore

def nvmeZnsZsaClose : U32 := 0x1
def nvmeZnsZsaOpen : U32 := 0x3
def nvmeZnsZsaReset : U32 := 0x4

structure ZonedMedia (σ : Type) extends Media σ where
  pointer : σ → ℕ → ℕ → ℕ
  zone_disjoint : ∀ d z z' i, (zone d z).Covers i → (zone d z').Covers i → z = z'

def Selects (selectAll : Bool) (slba : U64) (z : ℕ) : Prop := selectAll ∨ z = slba.toNat

instance (selectAll : Bool) (slba : U64) (z : ℕ) : Decidable (Selects selectAll slba z) :=
  inferInstanceAs (Decidable (_ ∨ _))

namespace ZonedMedia
variable {σ : Type} (D : ZonedMedia σ)

def Turns (s s' : σ) (d : ℕ) (effect : (ℕ → ℕ) → (ℕ → ℕ) → Prop) : Prop :=
  effect (D.pointer s d) (D.pointer s' d) ∧ ∀ other, other ≠ d →
    D.pointer s' other = D.pointer s other

/-- The blocks of the zones a management command acts on; addresses have 64 bits. -/
def selected (d : ℕ) (selectAll : Bool) (slba : U64) : Span :=
  if selectAll then ⟨0, 2 ^ 64⟩ else D.zone d slba.toNat

def MeetsPlace (s s' : σ) (args : NvmeZnsAppendArgs) (done : Done U64) : Prop :=
  let z := args.zslba.toNat
  D.Turns s s' (D.target args.fd args.nsid) fun p p' =>
    (∀ other, other ≠ z → p' other = p other) ∧
    (done.cret.ret = 0 → done.result.toNat = p z ∧ p' z = p z + (args.nlb.toNat + 1))

def MeetsSend (s s' : σ) (args : NvmeZnsMgmtSendArgs) (done : Done U32) : Prop :=
  let d := D.target args.fd args.nsid
  if args.zsa = nvmeZnsZsaOpen ∨ args.zsa = nvmeZnsZsaClose then
    D.medium s' = D.medium s ∧ D.pointer s' = D.pointer s
  else
    D.Moves s s' d [.lose (D.selected d args.selectAll args.slba)] ∧
    D.Turns s s' d fun p p' =>
      (∀ z, ¬Selects args.selectAll args.slba z → p' z = p z) ∧
      (done.cret.ret = 0 → args.zsa = nvmeZnsZsaReset →
        ∀ z, Selects args.selectAll args.slba z → p' z = z)

def MeetsZones (s s' : σ) : (c : Call) → Answer c → Prop
  | .nvmeNsGetFd _, _ => D.pointer s' = D.pointer s
  | .nvmeIo _ opcode, _ => opcode = opcRead → D.pointer s' = D.pointer s
  | .nvmeZnsAppend args, done => D.MeetsPlace s s' args done
  | .nvmeZnsMgmtSend args, done => D.MeetsSend s s' args done
  | .nvmeZnsMgmtRecv _, _ => D.medium s' = D.medium s ∧ D.pointer s' = D.pointer s
  | _, _ => True

structure Conforms (e : Endian) (h : Handler Call Answer σ) : Prop where
  media : D.toMedia.Conforms e h
  zones : ∀ c s, D.MeetsZones s (h c s).2 c (h c s).1

theorem turns_of_eq {s s' : σ} (hs : D.pointer s' = D.pointer s) (d : ℕ)
    {effect : (ℕ → ℕ) → (ℕ → ℕ) → Prop} (heffect : effect (D.pointer s d) (D.pointer s d)) :
    D.Turns s s' d effect := by
  refine ⟨?_, fun other _ => congrFun hs other⟩
  rw [hs]
  exact heffect

end ZonedMedia

def ZoneSendAction.OnlyOpens (a : ZoneSendAction) : Prop := a = .open ∨ a = .close

instance (a : ZoneSendAction) : Decidable a.OnlyOpens := inferInstanceAs (Decidable (_ ∨ _))

theorem ZoneSendAction.asRaw_onlyOpens (a : ZoneSendAction) :
    (a.asRaw = nvmeZnsZsaOpen ∨ a.asRaw = nvmeZnsZsaClose) ↔ a.OnlyOpens := by
  cases a <;> decide

theorem ZoneSendAction.asRaw_reset (a : ZoneSendAction) :
    a.asRaw = nvmeZnsZsaReset ↔ a = .reset := by
  cases a <;> decide

inductive ZoneOp where
  | append (b : ZnsAppend)
  | read (b : Read)
  | send (b : ZnsMgmtSend)
  | report (b : ZnsMgmtRecv)

namespace ZoneOp
variable {σ : Type} (t : Target) (D : ZonedMedia σ)

def ns : ZoneOp → Namespace
  | .append b => b.ns
  | .read b => b.ns
  | .send b => b.ns
  | .report b => b.ns

def run : ZoneOp → Ffi IoValue
  | .append b => (IoOp.append b).run t
  | .read b => (IoOp.read b).run t
  | .send b => do
    let result ← b.execute
    return .code result
  | .report b => do
    let report ← b.execute
    return .bytes report.2.bytes

def Fits : ZoneOp → Prop
  | .append b => (IoOp.append b).Fits D.toMedia
  | .read b => (IoOp.read b).Fits D.toMedia
  | .send b => D.Lists b.ns
  | .report b => D.Lists b.ns

def disk (op : ZoneOp) : ℕ := D.disk op.ns

def changes (op : ZoneOp) (r : Except Error IoValue) : List (Change (List Byte)) :=
  match op with
  | .append b => (IoOp.append b).changes D.toMedia r
  | .read b => (IoOp.read b).changes D.toMedia r
  | .send b =>
    if b.action.OnlyOpens then [] else [.lose (D.selected (D.disk b.ns) b.selectAll b.slba)]
  | .report _ => []

def Answers (op : ZoneOp) (v : IoValue) (m : Medium (List Byte)) : Prop :=
  match op with
  | .append b => (IoOp.append b).Answers D.toMedia v m
  | .read b => (IoOp.read b).Answers D.toMedia v m
  | .send _ | .report _ => True

def Places (b : ZnsAppend) (r : Except Error IoValue) (p p' : ℕ → ℕ) : Prop :=
  let z := b.zslba.toNat
  match r with
  | .ok (.lba address) => (∀ other, other ≠ z → p' other = p other) ∧ address.toNat = p z ∧
      p' z = p z + b.nlb.toNat
  | .ok _ => False
  | .error (.invalidArgument _) => p' = p
  | .error _ => ∀ other, other ≠ z → p' other = p other

def Points (op : ZoneOp) (r : Except Error IoValue) (p p' : ℕ → ℕ) : Prop :=
  match op with
  | .append b => Places b r p p'
  | .read _ | .report _ => p' = p
  | .send b =>
    if b.action.OnlyOpens then p' = p
    else (∀ z, ¬Selects b.selectAll b.slba z → p' z = p z) ∧
      (r.isOk → b.action = .reset → ∀ z, Selects b.selectAll b.slba z → p' z = z)

def Step (op : ZoneOp) (r : Except Error IoValue) (s s' : σ) : Prop :=
  (D.Moves s s' (op.disk D) (op.changes D r) ∧
    ∀ v, r = .ok v → op.Answers D v (D.medium s (op.disk D))) ∧
  D.Turns s s' (op.disk D) (op.Points r)

theorem points_failed (op : ZoneOp) (e : Error) (p : ℕ → ℕ) : op.Points (.error e) p p := by
  cases op with
  | append b => cases e <;> first | rfl | exact fun _ _ => rfl
  | read b => rfl
  | report b => rfl
  | send b =>
    rw [Points]
    split_ifs
    · rfl
    · exact ⟨fun _ _ => rfl, fun hok => by cases hok⟩

end ZoneOp

section Step
variable {σ : Type} {D : ZonedMedia σ} {h : Handler Call Answer σ} {e : Endian}

theorem ZoneOp.turns_submitted (hD : D.Conforms e h) (op : ZoneOp) (hns : D.Lists op.ns)
    {check : Except Error Unit} {P : Prop} (hcheck : Decides check P) (command : I32 → Call)
    (result : (fd : I32) → Answer (command fd) → IoValue)
    (hsend : P → ∀ fd s s' a, D.target fd op.ns.nsid = op.disk D →
      D.MeetsZones s s' (command fd) a → D.Turns s s' (op.disk D) fun p p' =>
        (((command fd).reply.cret a).ret = 0 → op.Points (.ok (result fd a)) p p') ∧
        ∀ err, (∀ m, err ≠ .invalidArgument m) → op.Points (.error err) p p')
    (s : σ) {r : Except Error IoValue}
    (hr : ((submitted check (.ns op.ns) command result).run h s).exit = .ofExcept r) :
    D.Turns s ((submitted check (.ns op.ns) command result).run h s).state (op.disk D)
      (op.Points r) := by
  have hquiet := hD.zones (.nvmeNsGetFd op.ns) s
  obtain ⟨-, htarget⟩ := hD.media (.nvmeNsGetFd op.ns) s
  refine submitted_step (Q := fun r s s' => D.Turns s s' (op.disk D) (op.Points r)) _ _ _ _
    hcheck s (fun err => D.turns_of_eq rfl _ (op.points_failed err _))
    (fun err => D.turns_of_eq hquiet _ (op.points_failed err _)) (fun hP fd hopen => ?_) hr
  have hmeets := hD.zones (command fd) (h (.nvmeNsGetFd op.ns) s).2
  obtain ⟨⟨hok, herror⟩, hothers⟩ := hsend hP fd _ _ _ (htarget hns fd hopen) hmeets
  rw [show D.pointer (h (.nvmeNsGetFd op.ns) s).2 = D.pointer s from hquiet] at hok herror hothers
  exact ⟨fun hzero => ⟨hok hzero, hothers⟩, fun _ err herr => ⟨herror err herr, hothers⟩⟩

theorem ZoneOp.step_still {op : ZoneOp} {r : Except Error IoValue} {s s' : σ}
    (hs : D.medium s' = D.medium s ∧ D.pointer s' = D.pointer s)
    (hlose : ∀ c ∈ op.changes D r, ∃ span, c = .lose span)
    (hanswers : ∀ v, r = .ok v → op.Answers D v (D.medium s (op.disk D)))
    (hpoints : op.Points r (D.pointer s (op.disk D)) (D.pointer s (op.disk D))) :
    op.Step D r s s' := by
  refine ⟨⟨⟨?_, fun other _ => congrFun hs.1 other⟩, hanswers⟩, D.turns_of_eq hs.2 _ hpoints⟩
  rw [hs.1]
  exact loses_nothing hlose

theorem ZoneOp.Step.after_open {op : ZoneOp} {r : Except Error IoValue} {s s₁ s' : σ}
    (hstep : op.Step D r s₁ s') (hs : D.medium s₁ = D.medium s ∧ D.pointer s₁ = D.pointer s) :
    op.Step D r s s' := by
  obtain ⟨⟨hmoves, hanswers⟩, hturns⟩ := hstep
  rw [ZonedMedia.Turns, hs.2] at hturns
  rw [hs.1] at hanswers
  exact ⟨⟨hmoves.after_open hs.1, hanswers⟩, hturns⟩

theorem ZoneOp.step_submitted (hD : D.Conforms e h) (op : ZoneOp) (hns : D.Lists op.ns)
    (hlose : ∀ err, ∀ c ∈ op.changes D (.error err), ∃ span, c = .lose span)
    {check : Except Error Unit} {P : Prop} (hcheck : Decides check P) (command : I32 → Call)
    (result : (fd : I32) → Answer (command fd) → IoValue)
    (hsend : ∀ fd s s' a, D.target fd op.ns.nsid = op.disk D → D.MeetsZones s s' (command fd) a →
      ∀ r : Except Error IoValue, (r.isOk → ((command fd).reply.cret a).ret = 0) → op.Step D r s s')
    (s : σ) {r : Except Error IoValue}
    (hr : ((submitted check (.ns op.ns) command result).run h s).exit = .ofExcept r) :
    op.Step D r s ((submitted check (.ns op.ns) command result).run h s).state := by
  obtain ⟨hmedium, htarget⟩ := hD.media (.nvmeNsGetFd op.ns) s
  have hquiet := And.intro hmedium (hD.zones (.nvmeNsGetFd op.ns) s)
  have hfailed : ∀ err {s'}, D.medium s' = D.medium s ∧ D.pointer s' = D.pointer s →
      op.Step D (.error err) s s' := fun err _ hs =>
    ZoneOp.step_still hs (hlose err) (fun v hv => by cases hv) (op.points_failed err _)
  refine submitted_step _ _ _ _ hcheck s (fun err => hfailed err ⟨rfl, rfl⟩)
    (fun err => hfailed err hquiet) (fun _ fd hopen => ?_) hr
  have hstep := hsend fd _ _ _ (htarget hns fd hopen)
    (hD.zones (command fd) (h (.nvmeNsGetFd op.ns) s).2)
  exact ⟨fun hzero => (hstep _ fun _ => hzero).after_open hquiet,
    fun _ err _ => (hstep _ fun hok => by cases hok).after_open hquiet⟩

section
variable (hD : D.Conforms e h) (t : Target) (s : σ) {r : Except Error IoValue}
include hD

theorem ZoneOp.step_append (b : ZnsAppend) (hop : (IoOp.append b).Fits D.toMedia)
    (hr : (((ZoneOp.append b).run t).run h s).exit = .ofExcept r) :
    (ZoneOp.append b).Step D r s (((ZoneOp.append b).run t).run h s).state := by
  refine ⟨IoOp.step_append hD.media t s b hop hr, ?_⟩
  have hrun : (ZoneOp.append b).run t = _ := b.execute_submitted IoValue.lba
  rw [hrun] at hr ⊢
  refine ZoneOp.turns_submitted hD (.append b) hop.lists b.check_decides _ _ ?_ s hr
  intro hvalid fd s s' done hdisk hmeets
  have hcount : (asU16 (b.nlb.toNat - 1)).toNat + 1 = b.nlb.toNat := hvalid.2.encode_add_one
  have hdisk' : D.target fd b.ns.nsid = (ZoneOp.append b).disk D := hdisk
  have hplace : D.MeetsPlace s s' (b.args (asU16 (b.nlb.toNat - 1)) fd) done := hmeets
  simp only [ZonedMedia.MeetsPlace, ZnsAppend.args, hcount, hdisk'] at hplace
  obtain ⟨⟨hother, hplaced⟩, hdisks⟩ := hplace
  refine ⟨⟨fun hzero => ⟨hother, hplaced hzero⟩, fun err herr => ?_⟩, hdisks⟩
  cases err with
  | invalidArgument m => exact (herr m rfl).elim
  | os | nvme | notAvailable | utf8 => exact hother

theorem ZoneOp.step_read (b : Read) (hop : (IoOp.read b).Fits D.toMedia)
    (hr : (((ZoneOp.read b).run t).run h s).exit = .ofExcept r) :
    (ZoneOp.read b).Step D r s (((ZoneOp.read b).run t).run h s).state := by
  refine ⟨IoOp.step_read hD.media t s b hop hr, ?_⟩
  have hrun : (ZoneOp.read b).run t =
      (DataIo.executeWith opcRead b >>= fun done => .ret (.bytes (b.data.fill done.data).bytes)) :=
    bind_bind _ _ _
  rw [hrun, DataIo.executeWith_submitted] at hr ⊢
  refine ZoneOp.turns_submitted hD (.read b) hop.lists b.check_decides _ _ ?_ s hr
  intro _ fd s s' done _ hmeets
  exact D.turns_of_eq (hmeets rfl) _ ⟨fun _ => rfl, fun _ _ => rfl⟩

theorem ZoneOp.step_send (b : ZnsMgmtSend) (hns : D.Lists b.ns)
    (hr : (((ZoneOp.send b).run t).run h s).exit = .ofExcept r) :
    (ZoneOp.send b).Step D r s (((ZoneOp.send b).run t).run h s).state := by
  have hrun : (ZoneOp.send b).run t = submitted (.ok ()) (.ns b.ns)
      (fun fd => .nvmeZnsMgmtSend (b.args fd)) fun _ done => IoValue.code done.result := by
    simp only [ZoneOp.run, ZnsMgmtSend.execute, submitted, nsFd, liftM_eq, ofExcept_ok, ret_bind,
      bind_bind, pure_eq]
    rfl
  have hlose : ∀ r, ∀ c ∈ (ZoneOp.send b).changes D r, ∃ span, c = .lose span := by
    intro r c hc
    rw [ZoneOp.changes] at hc
    split_ifs at hc
    · cases hc
    · exact ⟨_, List.mem_singleton.mp hc⟩
  rw [hrun] at hr ⊢
  refine ZoneOp.step_submitted hD (.send b) hns (fun err => hlose _) Decides.pass _ _ ?_ s hr
  intro fd s s' done hdisk hmeets r hok
  have hsend : D.MeetsSend s s' (b.args fd) done := hmeets
  have hdisk' : D.target fd b.ns.nsid = D.disk b.ns := hdisk
  simp only [ZonedMedia.MeetsSend, ZnsMgmtSend.args, b.action.asRaw_onlyOpens,
    b.action.asRaw_reset, hdisk'] at hsend
  by_cases hopens : b.action.OnlyOpens
  · rw [if_pos hopens] at hsend
    refine ZoneOp.step_still hsend (hlose r) (fun _ _ => trivial) ?_
    rw [ZoneOp.Points, if_pos hopens]
  · rw [if_neg hopens] at hsend
    obtain ⟨hmoves, ⟨hother, hreset⟩, hdisks⟩ := hsend
    refine ⟨⟨?_, fun _ _ => trivial⟩, ?_, hdisks⟩
    · rw [ZoneOp.changes, if_neg hopens]
      exact hmoves
    · rw [ZoneOp.Points, if_neg hopens]
      exact ⟨hother, fun hr => hreset (hok hr)⟩

theorem ZoneOp.step_report (b : ZnsMgmtRecv) (hns : D.Lists b.ns)
    (hr : (((ZoneOp.report b).run t).run h s).exit = .ofExcept r) :
    (ZoneOp.report b).Step D r s (((ZoneOp.report b).run t).run h s).state := by
  have hrun : (ZoneOp.report b).run t = submitted b.check (.ns b.ns)
      (fun fd => .nvmeZnsMgmtRecv (b.args (b.data.getD .empty) fd))
      fun _ done => IoValue.bytes ((b.data.getD .empty).fill done.data).bytes := by
    rw [ZoneOp.run, ZnsMgmtRecv.execute, ZnsMgmtRecv.check, submitted]
    cases b.data with
    | none => rfl
    | some buf =>
      simp only [nsFd, liftM_eq, ofExcept_ok, ret_bind, bind_bind, pure_eq]
      rfl
  rw [hrun] at hr ⊢
  refine ZoneOp.step_submitted hD (.report b) hns (fun err c hc => by cases hc) b.check_decides _ _
    ?_ s hr
  intro fd s s' done _ hmeets r _
  exact ZoneOp.step_still hmeets (fun c hc => by cases hc) (fun _ _ => trivial) rfl

theorem ZoneOp.step_of_run (op : ZoneOp) (hop : op.Fits D)
    (hr : ((op.run t).run h s).exit = .ofExcept r) : op.Step D r s ((op.run t).run h s).state := by
  cases op with
  | append b => exact ZoneOp.step_append hD t s b hop hr
  | read b => exact ZoneOp.step_read hD t s b hop hr
  | send b => exact ZoneOp.step_send hD t s b hop hr
  | report b => exact ZoneOp.step_report hD t s b hop hr

end
end Step
end LibnvmeRs
