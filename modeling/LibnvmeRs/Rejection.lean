import LibnvmeRs.Fabrics
import LibnvmeRs.Operation

/-!
# Rejected arguments

How the operations report arguments they do not accept, and what they have done
by then. `Op.run_ensures` settles both for every operation at once: arguments
that do not pass are refused before any call, and any other error stems from a
call that failed, a status of the device, or bytes fetched earlier.
-/

namespace LibnvmeRs

open Interaction Program

inductive Op where
  | device (op : DeviceOp)
  | slotFirmware (log : FirmwareSlotLog) (slot : U8)
  | connect (b : Connect)
  | lookupHost (r : Root) (hostnqn : Str) (hostid : Option Str)
  | setCtrlString (which : CtrlString) (c : NvmeCtrl) (value : Str)

namespace Op

def run (t : Target) : Op → Ffi Unit
  | .device op => op.run t
  | .slotFirmware log slot => (ofExcept (log.slotFirmware slot)).discard
  | .connect b => (b.execute t).discard
  | .lookupHost r hostnqn hostid => (r.lookupHost hostnqn hostid).discard
  | .setCtrlString which c value => (LibnvmeRs.setCtrlString which c value).discard

def ArgsValid : Op → Prop
  | .device op => op.ArgsValid
  | .slotFirmware _ slot => 1 ≤ slot.toNat ∧ slot.toNat ≤ 7
  | .connect b => b.NoNul
  | .lookupHost _ hostnqn hostid => 0 ∉ hostnqn.bytes ∧ ∀ s ∈ hostid, 0 ∉ s.bytes
  | .setCtrlString _ _ value => 0 ∉ value.bytes

def Refuses : Op → Error → Prop
  | .device op, e => op.Refuses e
  | .slotFirmware .., e => e = .notAvailable
  | _, e => ∃ m, e = .invalidArgument m

end Op

abbrev Trace := List (Event Call Answer)

def Failed (ev : Event Call Answer) : Prop := ev.1.reply.failed ev.2

def Blameless (trace : Trace) (e : Error) : Prop :=
  ((∃ i, e = .os i) ∧ ∃ ev ∈ trace, Failed ev) ∨ ((∃ status, e = .nvme status) ∧ trace ≠ []) ∨
    ∃ u, e = .utf8 u

def Sound {α : Type} (p : Ffi α) : Prop :=
  p.Ensures fun trace x => ∀ e, x = .error e → Blameless trace e

theorem Blameless.cons {trace : Trace} {e : Error} (he : Blameless trace e)
    (ev : Event Call Answer) : Blameless (ev :: trace) e := by
  rcases he with ⟨hos, failed, hmem, hfailed⟩ | ⟨hstatus, -⟩ | hutf8
  · exact Or.inl ⟨hos, failed, List.mem_cons_of_mem ev hmem, hfailed⟩
  · exact Or.inr (Or.inl ⟨hstatus, List.cons_ne_nil ev trace⟩)
  · exact Or.inr (Or.inr hutf8)

theorem blameless_openedFd {device : Device} {a : Answer device.getFd} {e : Error}
    (he : openedFd (device.getFd.reply.cret a) = .error e) (trace : Trace) :
    Blameless (⟨device.getFd, a⟩ :: trace) e := by
  obtain ⟨hneg, rfl⟩ := openedFd_error he
  exact Or.inl ⟨⟨_, rfl⟩, _, List.mem_cons_self, Or.inl hneg⟩

theorem blameless_checkRet {c : Call} {a : Answer c} {e : Error}
    (he : checkRet (c.reply.cret a) = .error e) {trace : Trace}
    (hmem : (⟨c, a⟩ : Event Call Answer) ∈ trace) : Blameless trace e := by
  rcases checkRet_error he with ⟨hneg, hos⟩ | hstatus
  · exact Or.inl ⟨hos, _, hmem, Or.inl hneg⟩
  · exact Or.inr (Or.inl ⟨hstatus, List.ne_nil_of_mem hmem⟩)

namespace Sound
variable {α : Type}

theorem ret (a : α) : Sound (.ret a) := fun e he => by cases he

theorem after {p : Ffi α} (hp : Sound p) (ev : Event Call Answer) :
    p.Ensures fun trace x => ∀ e, x = .error e → Blameless (ev :: trace) e :=
  hp.mono fun _ _ hx e he => (hx e he).cons ev

theorem call {c : Call} {next : Answer c → Ffi α} (hnext : ∀ r, Sound (next r)) :
    Sound (.call c next) :=
  fun r => (hnext r).after ⟨c, r⟩

theorem mark {flag : Bool} {c : Call} {f : Unit → Ffi α} (hf : Sound (f ())) :
    Sound (Connect.mark flag c >>= f) := by
  cases flag
  · exact hf
  · exact call fun _ => hf

theorem checked {c : Call} {f : Answer c → Unit → Ffi α} (hf : ∀ r, Sound (f r ())) :
    Sound (.call c fun r => ofExcept (checkRet (c.reply.cret r)) >>= f r) := by
  intro r
  change (ofExcept (checkRet (c.reply.cret r)) >>= f r).Ensures fun trace x =>
    ∀ e, x = .error e → Blameless (⟨c, r⟩ :: trace) e
  cases hr : checkRet (c.reply.cret r) with
  | ok u => exact (hf r).after ⟨c, r⟩
  | error e =>
    intro e' he'
    obtain rfl : e = e' := by simpa using he'
    exact blameless_checkRet hr List.mem_cons_self

end Sound

/-- Arguments that do not pass are refused before any call, and every other error
is blameless. -/
def Op.Outcome (op : Op) (trace : Trace) (x : Exit Error Unit) : Prop :=
  (op.ArgsValid ∧ ∀ e, x = .error e → Blameless trace e) ∨
    (¬op.ArgsValid ∧ trace = [] ∧ (x = .aborted ∨ ∃ e, op.Refuses e ∧ x = .error e))

section
variable (t : Target)

theorem DeviceOp.run_ensures (op : DeviceOp) : (op.run t).Ensures (Op.device op).Outcome := by
  by_cases hidle : op.Idle
  · rw [op.run_idle t hidle]
    have hvalid : op.ArgsValid := by
      cases op with
      | errorLog c maxEntries => exact trivial
      | _ => exact hidle.elim
    exact Or.inl ⟨hvalid, fun e he => by cases he⟩
  have hspec := op.check_spec t
  have hready := op.ready_spec t
  rw [op.run_eq t hidle, op.request_device, Submission.ensures_iff]
  constructor
  · intro hcheck
    rcases hspec with haborted | ⟨-, hok⟩ | ⟨hvalid, hrefused⟩
    · change Op.Outcome _ [] (op.request t).check
      rw [haborted]
      by_cases hvalid : op.ArgsValid
      · exact Or.inl ⟨hvalid, fun e he => by cases he⟩
      · exact Or.inr ⟨hvalid, rfl, Or.inl rfl⟩
    · exact (hcheck hok).elim
    · exact Or.inr ⟨hvalid, rfl, Or.inr hrefused⟩
  · intro hcheck r
    have hvalid : op.ArgsValid := by
      rcases hspec with h | ⟨hvalid, -⟩ | ⟨-, e, -, h⟩
      · cases h.symm.trans hcheck
      · exact hvalid
      · cases h.symm.trans hcheck
    refine ⟨fun e he => Or.inl ⟨hvalid, fun e' he' => ?_⟩, fun fd _ => ?_⟩
    · obtain rfl : e = e' := by simpa using he'
      exact blameless_openedFd he []
    · refine ⟨fun hstuck => Or.inl ⟨hvalid, fun e he => ?_⟩,
        fun _ a => Or.inl ⟨hvalid, fun e he => ?_⟩⟩
      · cases (hready.resolve_left hstuck).symm.trans he
      · exact blameless_checkRet (Exit.ofExcept_eq_error.mp he)
          (List.mem_cons_of_mem _ List.mem_cons_self)

theorem Connect.addCtrl_sound (b : Connect) (args : NvmeCreateCtrl) (ctrl : NvmeCtrl) :
    Sound (b.addCtrl t args ctrl) := by
  rw [Connect.addCtrl]
  refine Sound.mark (Sound.mark (Sound.mark (Sound.call fun cfg => ?_)))
  exact Sound.checked (c := .nvmfAddCtrl b.host.ptr ctrl (b.configure args cfg))
    (f := fun _ _ => .ret ctrl) fun _ => Sound.ret ctrl

/-- A handle that comes back NULL is an OS error; anything else is used. -/
theorem sound_pointer {α : Type} (c : Call) (value : Answer c → Option ℕ) (errno : Answer c → I32)
    (hnull : ∀ r, value r = none → c.reply.failed r) {f : ℕ → Ffi α} (hf : ∀ v, Sound (f v)) :
    Sound (.call c fun r => match value r with
      | none => .fail (.os (.raw (errno r)))
      | some v => f v) := by
  intro r
  change (match value r with
    | none => .fail (.os (.raw (errno r)))
    | some v => f v : Ffi α).Ensures fun trace x =>
      ∀ e, x = .error e → Blameless (⟨c, r⟩ :: trace) e
  cases hr : value r with
  | none =>
    intro e he
    obtain rfl : Error.os (.raw (errno r)) = e := by simpa using he
    exact Or.inl ⟨⟨_, rfl⟩, _, List.mem_cons_self, hnull r hr⟩
  | some v => exact (hf v).after ⟨c, r⟩

theorem Connect.execute_eq (b : Connect) :
    b.execute t = ofExcept b.createArgs >>= fun args =>
      .call (.nvmeCreateCtrl args) fun r => match r.value with
        | none => .fail (.os (.raw r.errno))
        | some ctrl => b.addCtrl t args ctrl := rfl

theorem Root.lookupHost_eq (r : Root) (hostnqn : Str) (hostid : Option Str) :
    r.lookupHost hostnqn hostid = ofExcept (Root.lookupArgs hostnqn hostid) >>= fun args =>
      .call (.nvmeLookupHost r.inner args.1 args.2) fun raw => match raw.value with
        | none => .fail (.os (.raw raw.errno))
        | some ptr => .ret { root := r.inner, ptr := ptr } := rfl

theorem Op.outcome_of_decides {α β : Type} (op : Op) {args : Except Error α}
    (hargs : Decides args op.ArgsValid) (hop : ∀ m, op.Refuses (.invalidArgument m))
    {f : α → Ffi β} (hf : ∀ a, Sound (f a)) :
    (ofExcept args >>= f).discard.Ensures op.Outcome := by
  rw [ensures_discard]
  rcases hargs with ⟨hvalid, a, rfl⟩ | ⟨hvalid, m, rfl⟩
  · refine (hf a).mono fun trace x hx => Or.inl ⟨hvalid, fun e he => hx e ?_⟩
    exact Exit.map_eq_error.mp he
  · exact Or.inr ⟨hvalid, rfl, Or.inr ⟨_, hop m, rfl⟩⟩

theorem slotFirmware_outcome (log : FirmwareSlotLog) (slot : U8) :
    (ofExcept (log.slotFirmware slot) : Ffi Str).discard.Ensures
      (Op.slotFirmware log slot).Outcome := by
  rw [ensures_discard, ensures_ofExcept, FirmwareSlotLog.slotFirmware]
  by_cases hslot : 1 ≤ slot.toNat ∧ slot.toNat ≤ 7
  · rw [dif_pos hslot]
    refine Or.inl ⟨hslot, fun e he => ?_⟩
    obtain ⟨u, rfl⟩ := utf8OrError_error (Exit.ofExcept_eq_error.mp (Exit.map_eq_error.mp he))
    exact Or.inr (Or.inr ⟨u, rfl⟩)
  · rw [dif_neg hslot]
    exact Or.inr ⟨hslot, rfl, Or.inr ⟨_, rfl, rfl⟩⟩

theorem Op.run_ensures (op : Op) : (op.run t).Ensures op.Outcome := by
  cases op with
  | device op => exact op.run_ensures t
  | slotFirmware log slot => exact slotFirmware_outcome log slot
  | connect b =>
    rw [Op.run, Connect.execute_eq]
    refine (Op.connect b).outcome_of_decides b.createArgs_decides (fun m => ⟨m, rfl⟩) fun args => ?_
    exact sound_pointer (.nvmeCreateCtrl args) (·.value) (·.errno) (fun _ hr => Or.inr hr)
      fun ctrl => b.addCtrl_sound t args ctrl
  | lookupHost r hostnqn hostid =>
    rw [Op.run, Root.lookupHost_eq]
    refine (Op.lookupHost r hostnqn hostid).outcome_of_decides
      (Root.lookupArgs_decides hostnqn hostid) (fun m => ⟨m, rfl⟩) fun args => ?_
    exact sound_pointer (.nvmeLookupHost r.inner args.1 args.2) (·.value) (·.errno)
      (fun _ hr => Or.inr hr) fun ptr => Sound.ret _
  | setCtrlString which c value =>
    refine (Op.setCtrlString which c value).outcome_of_decides
      (strToCString_decides value which.nulMessage) (fun m => ⟨m, rfl⟩) fun v => ?_
    exact Sound.call (c := .nvmeCtrlSetString which c v) fun _ => Sound.ret ()

theorem Op.run_outcome (op : Op) {σ : Type} (h : Handler Call Answer σ) (s : σ) :
    op.Outcome ((op.run t).run h s).trace ((op.run t).run h s).exit :=
  (op.run_ensures t).run h s

end

theorem Blameless.ne_invalidArgument {trace : Trace} {m : String} :
    ¬Blameless trace (.invalidArgument m) := by
  rintro (⟨⟨i, h⟩, -⟩ | ⟨⟨status, h⟩, -⟩ | ⟨u, h⟩) <;> cases h

/-- A rejection comes before every effectful call, and every effectful call after
all the checks. -/
theorem rejected_without_effect (t : Target) (op : Op) {σ : Type} (h : Handler Call Answer σ)
    (s : σ) :
    let o := (op.run t).run h s
    ((∃ m, o.exit = .error (.invalidArgument m)) → o.calls.filter Call.effectful = []) ∧
      ((∃ c ∈ o.calls, c.effectful = true) → op.ArgsValid) := by
  intro o
  rcases op.run_outcome t h s with ⟨hvalid, hblameless⟩ | ⟨-, htrace, -⟩
  · refine ⟨?_, fun _ => hvalid⟩
    rintro ⟨m, hm⟩
    exact (Blameless.ne_invalidArgument (hblameless _ hm)).elim
  · have hcalls : o.calls = [] := List.map_eq_nil_iff.mpr htrace
    rw [hcalls]
    refine ⟨fun _ => rfl, ?_⟩
    rintro ⟨c, hc, -⟩
    cases hc

structure ClassifiedRun (op : Op) (trace : Trace) (x : Exit Error Unit) : Prop where
  rejected : ¬op.ArgsValid → x = .aborted ∨ ∃ m, x = .error (.invalidArgument m)
  early : trace = [] → ∀ e, x = .error e → (∃ m, e = .invalidArgument m) ∨ ∃ u, e = .utf8 u
  os : ∀ i, x = .error (.os i) → ∃ ev ∈ trace, Failed ev
  notAvailable : x = .error .notAvailable → ∃ ev ∈ trace, ev.1.reply.isNull ev.2

def Op.Classified (t : Target) (op : Op) : Prop :=
  ∀ (σ : Type) (h : Handler Call Answer σ) (s : σ),
    ClassifiedRun op ((op.run t).run h s).trace ((op.run t).run h s).exit

def Op.Misreported : Op → Prop
  | .device (.getHostId _ _ exhid hostid) => hostid.length ≠ expectedHostIdLen exhid
  | .device (.setHostId _ exhid _ hostid) => hostid.length ≠ expectedHostIdLen exhid
  | .slotFirmware _ slot => ¬(1 ≤ slot.toNat ∧ slot.toNat ≤ 7)
  | _ => False

theorem Op.refuses_invalidArgument {op : Op} (hvalid : ¬op.ArgsValid) (hop : ¬op.Misreported)
    {e : Error} (he : op.Refuses e) : ∃ m, e = .invalidArgument m := by
  cases op with
  | device op =>
    cases op with
    | getHostId f sel exhid hostid | setHostId f exhid save hostid => exact (hop hvalid).elim
    | _ => exact he
  | slotFirmware log slot => exact (hop hvalid).elim
  | _ => exact he

theorem Op.misreported_run (t : Target) {op : Op} (hop : op.Misreported) :
    op.run t = .fail hostIdLenError ∨ op.run t = .fail .notAvailable := by
  cases op with
  | device op =>
    cases op with
    | getHostId f sel exhid hostid =>
      have hlen : hostid.length ≠ expectedHostIdLen exhid := hop
      refine Or.inl ?_
      rw [Op.run, DeviceOp.run, Features.getHostId, if_pos hlen]
      rfl
    | setHostId f exhid save hostid =>
      have hlen : hostid.length ≠ expectedHostIdLen exhid := hop
      refine Or.inl ?_
      rw [Op.run, DeviceOp.run, Features.setHostId, if_pos hlen]
      rfl
    | _ => exact hop.elim
  | slotFirmware log slot =>
    refine Or.inr ?_
    rw [Op.run, FirmwareSlotLog.slotFirmware, dif_neg hop]
    rfl
  | _ => exact hop.elim

noncomputable def anyLibrary : Handler Call Answer Unit :=
  fun c s => (Classical.arbitrary (Answer c), s)

theorem Op.not_classified_of_fail (t : Target) {op : Op}
    (hop : op.run t = .fail hostIdLenError ∨ op.run t = .fail .notAvailable) :
    ¬op.Classified t := by
  intro hclassified
  have hrun := hclassified Unit anyLibrary ()
  rcases hop with hfail | hfail
  · rw [hfail] at hrun
    obtain ⟨ev, hev, -⟩ := hrun.os _ rfl
    cases hev
  · rw [hfail] at hrun
    obtain ⟨ev, hev, -⟩ := hrun.notAvailable rfl
    cases hev

theorem classified_iff (t : Target) (op : Op) : op.Classified t ↔ ¬op.Misreported := by
  constructor
  · intro hclassified hop
    exact Op.not_classified_of_fail t (op.misreported_run t hop) hclassified
  · intro hop σ h s
    rcases op.run_outcome t h s with ⟨hvalid, hblameless⟩ | ⟨hvalid, htrace, hexit⟩
    -- accepted arguments: every error has a failed call behind it, or is one of UTF-8
    · refine ⟨fun hnot => (hnot hvalid).elim, fun htrace e he => ?_, fun i hi => ?_, fun hx => ?_⟩
      · rcases hblameless e he with ⟨-, ev, hev, -⟩ | ⟨-, hnonempty⟩ | hutf8
        · rw [htrace] at hev
          cases hev
        · exact (hnonempty htrace).elim
        · exact Or.inr hutf8
      · rcases hblameless _ hi with ⟨-, hfailed⟩ | ⟨⟨status, h⟩, -⟩ | ⟨u, h⟩
        · exact hfailed
        · cases h
        · cases h
      · rcases hblameless _ hx with ⟨⟨i, h⟩, -⟩ | ⟨⟨status, h⟩, -⟩ | ⟨u, h⟩ <;> cases h
    -- refused arguments: no call was made, and only `hop` keeps the error apart
    · rcases hexit with haborted | ⟨e, he, hrefused⟩
      · rw [haborted]
        exact ⟨fun _ => Or.inl rfl, nofun, nofun, nofun⟩
      · obtain ⟨m, rfl⟩ := Op.refuses_invalidArgument hvalid hop he
        rw [hrefused]
        refine ⟨fun _ => Or.inr ⟨m, rfl⟩, fun _ e he => ?_, nofun, nofun⟩
        obtain rfl := Exit.error.inj he
        exact Or.inl ⟨m, rfl⟩

theorem bad_arguments_misreported :
    ¬(Op.device (.setHostId ⟨0⟩ false false .empty)).Classified littleHost ∧
      ¬(Op.device (.getHostId ⟨0⟩ .current true .empty)).Classified littleHost ∧
      ¬(Op.slotFirmware ⟨0, .replicate 7 (.replicate 8 0)⟩ 8).Classified littleHost := by
  refine ⟨?_, ?_, ?_⟩
  · exact Op.not_classified_of_fail littleHost (Or.inl rfl)
  · exact Op.not_classified_of_fail littleHost (Or.inl rfl)
  · exact Op.not_classified_of_fail littleHost (Or.inr rfl)

end LibnvmeRs
