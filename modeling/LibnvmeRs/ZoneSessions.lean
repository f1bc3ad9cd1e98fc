import LibnvmeRs.IoSessions
import LibnvmeRs.Zones

/-!
# Sessions on zoned namespaces

What the journal of a session tells of the write pointers, and what a zone reads as
that was reset and then only appended to.
-/

namespace LibnvmeRs

open Interaction Program ByteOrder BlockStore Journals

namespace ZoneOp

def placed (b : ZnsAppend) (r : Except Error IoValue) (k : Option ℕ) : Option ℕ :=
  match r with
  | .ok (.lba address) => some (address.toNat + b.nlb.toNat)
  | .error (.invalidArgument _) => k
  | _ => none

def tells (z : ℕ) (op : ZoneOp) (r : Except Error IoValue) (k : Option ℕ) : Option ℕ :=
  match op with
  | .append b => if b.zslba.toNat = z then placed b r k else k
  | .read _ | .report _ => k
  | .send b =>
    if b.action.OnlyOpens ∨ ¬Selects b.selectAll b.slba z then k
    else if r.isOk ∧ b.action = .reset then some z
    else none

variable {p p' : ℕ → ℕ} {z : ℕ} {r : Except Error IoValue} {k : Option ℕ}

theorem places_other {b : ZnsAppend} (hb : Places b r p p') (hz : z ≠ b.zslba.toNat) :
    p' z = p z := by
  cases r with
  | ok v =>
    cases v with
    | lba address => exact hb.1 z hz
    | nothing | code | bytes => exact hb.elim
  | error e =>
    cases e with
    | invalidArgument m => exact congrFun hb z
    | os | nvme | notAvailable | utf8 => exact hb z hz

theorem placed_sound {b : ZnsAppend} (hb : Places b r p p') (hk : ∀ a ∈ k, p b.zslba.toNat = a) :
    ∀ a ∈ placed b r k, p' b.zslba.toNat = a := by
  cases r with
  | ok v =>
    cases v with
    | lba address =>
      obtain ⟨-, hplace, hnext⟩ := hb
      rintro a ⟨⟩
      rw [hnext, hplace]
    | nothing | code | bytes => exact hb.elim
  | error e =>
    cases e with
    | invalidArgument m =>
      obtain rfl : p' = p := hb
      exact hk
    | os | nvme | notAvailable | utf8 => exact fun a ha => by cases ha

theorem tells_sound {op : ZoneOp} (hop : op.Points r p p') (hk : ∀ a ∈ k, p z = a) :
    ∀ a ∈ op.tells z r k, p' z = a := by
  cases op with
  | read b | report b =>
    obtain rfl : p' = p := hop
    exact hk
  | append b =>
    rw [tells]
    split_ifs with hz
    · subst hz
      exact placed_sound hop hk
    · rw [places_other hop (Ne.symm hz)]
      exact hk
  | send b =>
    rw [Points] at hop
    rw [tells]
    by_cases hopens : b.action.OnlyOpens
    · rw [if_pos hopens] at hop
      rw [if_pos (Or.inl hopens), hop]
      exact hk
    · rw [if_neg hopens] at hop
      obtain ⟨hother, hreset⟩ := hop
      split_ifs with hkept hdone
      · rw [hother z (hkept.resolve_left hopens)]
        exact hk
      · rintro a ⟨⟩
        exact hreset hdone.1 hdone.2 z (not_not.mp fun hz => hkept (Or.inr hz))
      · exact fun a ha => by cases ha

end ZoneOp

abbrev ZoneLog := Journal ZoneOp Error IoValue

def zoneSession (t : Target) (ops : List ZoneOp) : Ffi ZoneLog := journal (ZoneOp.run t) ops

section Journal
variable {σ : Type} {D : ZonedMedia σ} {h : Handler Call Answer σ} {t : Target}

def ZoneLog.pointer (D : ZonedMedia σ) (d z : ℕ) (log : ZoneLog) (k : Option ℕ) : Option ℕ :=
  learned (fun op r k => if op.disk D = d then op.tells z r k else k) log k

theorem tells_zone_sound (d z : ℕ) :
    Teaches (ZoneOp.Step D) (fun k s => ∀ a ∈ k, D.pointer s d z = a)
      fun op r k => if op.disk D = d then op.tells z r k else k := by
  intro op r s s' k hstep hk
  obtain ⟨-, hpoints, hothers⟩ := hstep
  dsimp only
  split_ifs with hd
  · subst hd
    exact ZoneOp.tells_sound hpoints hk
  · rw [hothers d (Ne.symm hd)]
    exact hk

theorem zoneSession_follows (hD : D.Conforms t.endian h) {ops : List ZoneOp}
    (hops : ∀ op ∈ ops, op.Fits D) {log : ZoneLog} {s : σ}
    (hexit : ((zoneSession t ops).run h s).exit = .ok log) :
    log.map Prod.fst = ops ∧ Follows (ZoneOp.Step D) log s ((zoneSession t ops).run h s).state :=
  journal_follows (fun op hop s _ hr => op.step_of_run hD t s (hops op hop) hr) hexit

/-- The zone holds these blocks from its start on, and nothing was appended after them. -/
structure Filled (D : ZonedMedia σ) (s : σ) (d z : ℕ) (blocks : List (List Byte)) : Prop where
  pointer : D.pointer s d z = z + blocks.length
  stands : (D.medium s d).read z blocks.length = some blocks
  inside : ∀ i, Span.Covers ⟨z, blocks.length⟩ i → (D.zone d z).Covers i

namespace ZoneOp

def fills (D : ZonedMedia σ) (d z : ℕ) (op : ZoneOp) (r : Except Error IoValue) :
    List (List Byte) :=
  match op with
  | .append b =>
    if D.disk b.ns = d ∧ b.zslba.toNat = z ∧ r.isOk then
      cut (D.blockSize d) b.nlb.toNat b.data.bytes
    else []
  | .read _ | .send _ | .report _ => []

/-- Nothing but appends that succeeded, and calls that were refused, changes the zone. -/
def Spares (D : ZonedMedia σ) (d z : ℕ) (op : ZoneOp) (r : Except Error IoValue) : Prop :=
  op.disk D = d →
    match op with
    | .append b => b.zslba.toNat = z → ∀ e, r = .error e → ∃ m, e = .invalidArgument m
    | .read _ | .report _ => True
    | .send b => b.action.OnlyOpens ∨ ¬Selects b.selectAll b.slba z

end ZoneOp

namespace Filled
variable {s s' : σ} {d z : ℕ} {blocks : List (List Byte)}

theorem kept (hz : Filled D s d z blocks) {changes : List (Change (List Byte))}
    (hmedium : Evolves changes (D.medium s d) (D.medium s' d))
    (hpointer : D.pointer s' d z = D.pointer s d z)
    (hout : ∀ c ∈ changes, ∀ i, (D.zone d z).Covers i → ¬c.span.Covers i) :
    Filled D s' d z blocks where
  pointer := hpointer.trans hz.pointer
  stands := hmedium.read_outside (fun c hc i hi => hout c hc i (hz.inside i hi)) hz.stands
  inside := hz.inside

theorem append (hz : Filled D s d z blocks) {added : List (List Byte)} {address : ℕ}
    (hmedium : Evolves [.put address (added.map some)] (D.medium s d) (D.medium s' d))
    (haddress : address = D.pointer s d z)
    (hpointer : D.pointer s' d z = D.pointer s d z + added.length)
    (hinside : ∀ i, Span.Covers ⟨address, added.length⟩ i → (D.zone d z).Covers i) :
    Filled D s' d z (blocks ++ added) := by
  rw [hz.pointer] at haddress
  subst haddress
  refine ⟨?_, ?_, fun i hi => ?_⟩
  · rw [hpointer, hz.pointer, List.length_append, Nat.add_assoc]
  · rw [List.length_append]
    refine Medium.read_append (hmedium.read_outside ?_ hz.stands) hmedium.read_put
    rintro c hc i ⟨-, hend⟩ ⟨hfirst, -⟩
    rw [List.mem_singleton.mp hc] at hfirst
    exact absurd hend (Nat.not_lt.mpr hfirst)
  · obtain ⟨hfirst, hend⟩ := hi
    rw [List.length_append, ← Nat.add_assoc] at hend
    by_cases hold : i < z + blocks.length
    · exact hz.inside i ⟨hfirst, hold⟩
    · exact hinside i ⟨Nat.le_of_not_lt hold, hend⟩

theorem step_append {b : ZnsAppend} {r : Except Error IoValue} (hz : Filled D s d z blocks)
    (hd : D.disk b.ns = d) (hstep : (ZoneOp.append b).Step D r s s')
    (hspares : (ZoneOp.append b).Spares D d z r) :
    Filled D s' d z (blocks ++ (ZoneOp.append b).fills D d z r) := by
  subst hd
  obtain ⟨⟨⟨hmedium, -⟩, hanswers⟩, hpoints, -⟩ := hstep
  change Evolves ((IoOp.append b).changes D.toMedia r) (D.medium s (D.disk b.ns))
    (D.medium s' (D.disk b.ns)) at hmedium
  change ZoneOp.Places b r (D.pointer s (D.disk b.ns)) (D.pointer s' (D.disk b.ns)) at hpoints
  have hsame := ZoneOp.places_other (z := z) hpoints
  rw [ZoneOp.fills]
  cases r with
  | ok v =>
    cases v with
    | nothing | code | bytes => exact hpoints.elim
    | lba address =>
      have hinside : ∀ i, Span.Covers ⟨address.toNat, b.nlb.toNat⟩ i →
          (D.zone (D.disk b.ns) b.zslba.toNat).Covers i := hanswers _ rfl
      by_cases hhere : b.zslba.toNat = z
      · subst hhere
        rw [if_pos ⟨rfl, rfl, rfl⟩]
        obtain ⟨-, hplace, hnext⟩ := hpoints
        refine hz.append hmedium hplace ?_ ?_
        · rw [length_cut]
          exact hnext
        · rw [length_cut]
          exact hinside
      · rw [if_neg fun h => hhere h.2.1, List.append_nil]
        refine hz.kept hmedium (hsame (Ne.symm hhere)) fun c hc i hi hcovers => ?_
        obtain rfl := List.mem_singleton.mp hc
        rw [Change.span, List.length_map, length_cut] at hcovers
        exact hhere (D.zone_disjoint _ _ _ i (hinside i hcovers) hi)
  | error e =>
    have hnone : ¬(D.disk b.ns = D.disk b.ns ∧ b.zslba.toNat = z ∧
        (Except.error e : Except Error IoValue).isOk) := fun h => by cases h.2.2
    rw [if_neg hnone, List.append_nil]
    by_cases hhere : b.zslba.toNat = z
    · obtain ⟨m, rfl⟩ := hspares rfl hhere e rfl
      exact hz.kept hmedium (congrFun hpoints z) fun c hc => by cases hc
    · refine hz.kept hmedium (hsame (Ne.symm hhere)) fun c hc i hi hcovers => ?_
      obtain rfl : c = .lose (D.zone (D.disk b.ns) b.zslba.toNat) := by
        cases e with
        | invalidArgument m => cases hc
        | os | nvme | notAvailable | utf8 => exact List.mem_singleton.mp hc
      exact hhere (D.zone_disjoint _ _ _ i hcovers hi)

theorem step_quiet {op : ZoneOp} {r : Except Error IoValue} (hz : Filled D s d z blocks)
    (hd : op.disk D = d) (hstep : op.Step D r s s') (hop : ∀ b, op ≠ .append b)
    (hspares : op.Spares D d z r) : Filled D s' d z blocks := by
  obtain ⟨⟨⟨hmedium, -⟩, -⟩, hpoints, -⟩ := hstep
  rw [hd] at hmedium hpoints
  cases op with
  | append b => exact (hop b rfl).elim
  | read b =>
    have hnone : (ZoneOp.read b).changes D r = [] := by
      cases r with
      | ok v => rfl
      | error e => cases e <;> rfl
    rw [hnone] at hmedium
    exact hz.kept hmedium (congrFun hpoints z) fun c hc => by cases hc
  | report b => exact hz.kept hmedium (congrFun hpoints z) fun c hc => by cases hc
  | send b =>
    rw [ZoneOp.Points] at hpoints
    rw [ZoneOp.changes] at hmedium
    have hallowed : b.action.OnlyOpens ∨ ¬Selects b.selectAll b.slba z := hspares hd
    split_ifs at hpoints hmedium with hopens
    · exact hz.kept hmedium (congrFun hpoints z) fun c hc => by cases hc
    · have hother := hallowed.resolve_left hopens
      refine hz.kept hmedium (hpoints.1 z hother) fun c hc i hi hcovers => ?_
      obtain ⟨hone, hslba⟩ := not_or.mp hother
      rw [List.mem_singleton.mp hc, Change.span, ZonedMedia.selected, if_neg hone] at hcovers
      rw [show D.disk b.ns = d from hd] at hcovers
      exact hslba (D.zone_disjoint d _ _ i hi hcovers)

theorem step {op : ZoneOp} {r : Except Error IoValue} (hz : Filled D s d z blocks)
    (hstep : op.Step D r s s') (hspares : op.Spares D d z r) :
    Filled D s' d z (blocks ++ op.fills D d z r) := by
  by_cases hd : op.disk D = d
  · cases op with
    | append b => exact hz.step_append hd hstep hspares
    | read | send | report =>
      rw [ZoneOp.fills, List.append_nil]
      exact hz.step_quiet hd hstep (fun b h => by cases h) hspares
  · obtain ⟨⟨⟨-, hmedia⟩, -⟩, -, hpointers⟩ := hstep
    have hnone : op.fills D d z r = [] := by
      cases op with
      | append b => exact if_neg fun h => hd h.1
      | read | send | report => rfl
    have hmedium : Evolves [] (D.medium s d) (D.medium s' d) := hmedia d (Ne.symm hd)
    rw [hnone, List.append_nil]
    exact hz.kept hmedium (congrFun (hpointers d (Ne.symm hd)) z) fun c hc => by cases hc

end Filled

def ZoneLog.fills (D : ZonedMedia σ) (d z : ℕ) (log : ZoneLog) : List (List Byte) :=
  log.flatMap fun x => x.1.fills D d z x.2

namespace Filled
variable {s s' : σ} {d z : ℕ} {blocks : List (List Byte)}

/-- A zone is filled by what is appended to it, in the order of the log. -/
theorem follows {log : ZoneLog} (hz : Filled D s d z blocks)
    (hlog : Follows (ZoneOp.Step D) log s s') (hspares : ∀ x ∈ log, x.1.Spares D d z x.2) :
    Filled D s' d z (blocks ++ log.fills D d z) := by
  induction log generalizing s blocks with
  | nil =>
    obtain rfl : s' = s := hlog
    rw [show ZoneLog.fills D d z [] = [] from rfl, List.append_nil]
    exact hz
  | cons x log ih =>
    obtain ⟨s₁, hstep, hrest⟩ := hlog
    have hrest' := ih (hz.step hstep (hspares x List.mem_cons_self)) hrest
      fun y hy => hspares y (List.mem_cons_of_mem _ hy)
    rw [List.append_assoc] at hrest'
    exact hrest'

theorem of_reset {b : ZnsMgmtSend} {v : IoValue} (hstep : (ZoneOp.send b).Step D (.ok v) s s')
    (hreset : b.action = .reset) (hz : Selects b.selectAll b.slba z) :
    Filled D s' (D.disk b.ns) z [] := by
  obtain ⟨-, hpoints, -⟩ := hstep
  have hopens : ¬b.action.OnlyOpens := by
    rw [hreset]
    decide
  rw [ZoneOp.Points, if_neg hopens] at hpoints
  refine ⟨hpoints.2 rfl hreset z hz, rfl, fun i hi => ?_⟩
  exact absurd hi.2 (Nat.not_lt.mpr hi.1)

end Filled
end Journal

namespace RamZones

structure State where
  cells : Medium (List Byte)
  pointer : ℕ → ℕ

def zone (z : ℕ) : Span := ⟨z, if z % 4 = 0 then 4 else 0⟩

theorem zone_disjoint {z z' i : ℕ} (hz : (zone z).Covers i) (hz' : (zone z').Covers i) :
    z = z' := by
  simp only [zone, Span.Covers] at hz hz'
  split_ifs at hz hz' <;> omega

def media : ZonedMedia State :=
  { medium := fun s d => if d = 0 then s.cells else fun _ => none
    blockSize := fun _ => 2
    zone := fun _ => zone
    disk := fun _ => 0
    target := fun _ _ => 0
    pointer := fun s d => if d = 0 then s.pointer else id
    zone_disjoint := fun _ _ _ _ => zone_disjoint }

def fits (s : State) (z count : ℕ) : Bool :=
  z ≤ s.pointer z && s.pointer z + count ≤ z + (zone z).count && s.pointer z < 2 ^ 64

def append (s : State) (args : NvmeZnsAppendArgs) : Done U64 × State :=
  let z := args.zslba.toNat
  let count := args.nlb.toNat + 1
  if fits s z count then
    ({ cret := ⟨0, 0⟩, result := BitVec.ofNat 64 (s.pointer z), data := [], metadata := [] },
      { cells := s.cells.put (s.pointer z) ((cut 2 count args.data.bytes).map some)
        pointer := fun x => if x = z then s.pointer z + count else s.pointer x })
  else (RamDisk.failed 0, s)

def send (s : State) (args : NvmeZnsMgmtSendArgs) : Done U32 × State :=
  if args.zsa = nvmeZnsZsaOpen ∨ args.zsa = nvmeZnsZsaClose then (RamDisk.done [], s)
  else if args.zsa = nvmeZnsZsaReset then
    (RamDisk.done [],
      { s with pointer := fun z => if Selects args.selectAll args.slba z then z else s.pointer z })
  else (RamDisk.failed 0, s)

def library : Handler Call Answer State := fun c s =>
  match c with
  | .nvmeZnsAppend args => append s args
  | .nvmeZnsMgmtSend args => send s args
  | c => ((RamDisk.library c s.cells).1, { s with cells := (RamDisk.library c s.cells).2 })

theorem moves {s s' : State} {l : List (Change (List Byte))} (hl : Evolves l s.cells s'.cells) :
    media.Moves s s' 0 l := by
  refine ⟨hl, fun other hother => ?_⟩
  simp only [media, if_neg hother]

theorem turns {s s' : State} {effect : (ℕ → ℕ) → (ℕ → ℕ) → Prop}
    (heffect : effect s.pointer s'.pointer) : media.Turns s s' 0 effect := by
  refine ⟨heffect, fun other hother => ?_⟩
  simp only [media, if_neg hother]

theorem append_meets (s : State) (args : NvmeZnsAppendArgs) :
    media.MeetsAppend s (append s args).2 args (append s args).1 ∧
      media.MeetsPlace s (append s args).2 args (append s args).1 := by
  have hfailed : ¬(RamDisk.failed (0 : U64)).cret.ret = 0 := by decide
  rw [append]
  split_ifs with hfits <;> rw [Media.MeetsAppend, ZonedMedia.MeetsPlace]
  · simp only [fits, Bool.and_eq_true, decide_eq_true_eq] at hfits
    obtain ⟨⟨hfirst, hend⟩, hsmall⟩ := hfits
    have hresult : (BitVec.ofNat 64 (s.pointer args.zslba.toNat)).toNat =
        s.pointer args.zslba.toNat := by
      rw [BitVec.toNat_ofNat, Nat.mod_eq_of_lt hsmall]
    refine ⟨fun _ _ => ⟨moves ?_, fun _ i hi => ?_⟩, turns ⟨fun z hz => if_neg hz, fun _ => ?_⟩⟩
    · dsimp only
      rw [if_pos rfl, hresult]
      exact evolves_singleton.mpr (s.cells.takes_put _ _)
    · dsimp only at hi
      rw [hresult] at hi
      exact ⟨Nat.le_trans hfirst hi.1, Nat.lt_of_lt_of_le hi.2 hend⟩
    · exact ⟨hresult, if_pos rfl⟩
  · refine ⟨fun _ _ => ⟨moves ?_, fun hzero => (hfailed hzero).elim⟩,
      turns ⟨fun _ _ => rfl, fun hzero => (hfailed hzero).elim⟩⟩
    rw [if_neg hfailed]
    exact evolves_singleton.mpr (Change.takes_lose _ _)

theorem send_meets (s : State) (args : NvmeZnsMgmtSendArgs) :
    media.MeetsSend s (send s args).2 args (send s args).1 := by
  have hlose : ∀ span, Evolves [Change.lose span] s.cells s.cells := fun span =>
    evolves_singleton.mpr (Change.takes_lose span s.cells)
  rw [ZonedMedia.MeetsSend, send]
  split_ifs with hopens hreset
  · exact ⟨rfl, rfl⟩
  · exact ⟨moves (hlose _), turns ⟨fun z hz => if_neg hz, fun _ _ z hz => if_pos hz⟩⟩
  · exact ⟨moves (hlose _), turns ⟨fun _ _ => rfl, fun _ h => (hreset h).elim⟩⟩

theorem conforms (e : Endian) : media.Conforms e library where
  media c s := by
    cases c with
    | nvmeZnsAppend args => exact (append_meets s args).1
    | nvmeNsGetFd ns => exact RamDisk.conforms e (.nvmeNsGetFd ns) s.cells
    | nvmeIo args opcode => exact RamDisk.conforms e (.nvmeIo args opcode) s.cells
    | nvmeDsm args => exact RamDisk.conforms e (.nvmeDsm args) s.cells
    | nvmeIoPassthru args => exact RamDisk.conforms e (.nvmeIoPassthru args) s.cells
    | _ => trivial
  zones c s := by
    cases c with
    | nvmeZnsAppend args => exact (append_meets s args).2
    | nvmeZnsMgmtSend args => exact send_meets s args
    | nvmeNsGetFd ns => rfl
    | nvmeIo args opcode => exact fun _ => rfl
    | nvmeZnsMgmtRecv args => exact ⟨rfl, rfl⟩
    | _ => trivial

theorem io_fits {op : IoOp} (hns : op.ns = RamDisk.ns) : op.Fits media.toMedia :=
  IoOp.fits_of_small hns rfl (by decide)

def blank : State := ⟨fun _ => none, fun _ => 0⟩

def triple : Slice := ⟨[3, 4, 5, 6], by decide⟩

def reset : ZnsMgmtSend := { ns := RamDisk.ns, slba := 4, action := .reset }

def last : Read := DataIo.new RamDisk.ns 5 2 RamDisk.buffer

def middle : List ZoneOp :=
  [.send { ns := RamDisk.ns, slba := 4, action := .open },
    .append (ZnsAppend.new RamDisk.ns 4 1 RamDisk.pattern),
    .append (ZnsAppend.new RamDisk.ns 0 1 RamDisk.pattern),
    .append (ZnsAppend.new RamDisk.ns 4 2 triple),
    .append (ZnsAppend.new RamDisk.ns 4 0 triple),
    .report { ns := RamDisk.ns, slba := 0, data := some RamDisk.buffer }]

def refusal : Error := .invalidArgument "nlb must be 1..=65536, got 0"

def middleLog : ZoneLog := middle.zip
  [.ok (.code 0), .ok (.lba 4), .ok (.lba 0), .ok (.lba 5), .error refusal,
    .ok (.bytes [0, 0, 0, 0])]

def script : List ZoneOp := .send reset :: (middle ++ [.read last])

def scriptLog : ZoneLog :=
  (.send reset, .ok (.code 0)) :: (middleLog ++ [(.read last, .ok (.bytes [3, 4, 5, 6]))])

theorem script_fits : ∀ op ∈ script, op.Fits media := by
  simp only [script, middle, List.forall_mem_cons, List.cons_append, List.nil_append]
  exact ⟨rfl, rfl, io_fits rfl, io_fits rfl, io_fits rfl, io_fits rfl, rfl, io_fits rfl,
    fun _ h => by cases h⟩

theorem script_exit : ((zoneSession littleHost script).run library blank).exit = .ok scriptLog :=
  rfl

theorem middle_spares : ∀ x ∈ middleLog, x.1.Spares media 0 4 x.2 := by
  have hok {b : ZnsAppend} {v : IoValue} : (ZoneOp.append b).Spares media 0 4 (.ok v) :=
    fun _ _ e he => by cases he
  have hrefused {b : ZnsAppend} : (ZoneOp.append b).Spares media 0 4 (.error refusal) :=
    fun _ _ e he => ⟨_, (Except.error.inj he).symm⟩
  simp only [middleLog, middle, List.zip_cons_cons, List.zip_nil_right, List.forall_mem_cons]
  exact ⟨fun _ => Or.inl (Or.inl rfl), hok, hok, hok, hrefused, fun _ => trivial,
    fun _ h => by cases h⟩

end RamZones

section Results
variable {σ : Type} {D : ZonedMedia σ} {h : Handler Call Answer σ} {t : Target}

/-- The write pointers that the log tells are those of the device, and what is appended where
the pointer is told goes there. -/
theorem zone_session_told (hD : D.Conforms t.endian h) {ops : List ZoneOp}
    (hops : ∀ op ∈ ops, op.Fits D) {log : ZoneLog} {s : σ}
    (hexit : ((zoneSession t ops).run h s).exit = .ok log) :
    log.map Prod.fst = ops ∧
      ∀ d z k, (∀ p ∈ k, D.pointer s d z = p) →
        (∀ p ∈ log.pointer D d z k, D.pointer ((zoneSession t ops).run h s).state d z = p) ∧
        ∀ (before : ZoneLog) b address after,
          log = before ++ (.append b, .ok (.lba address)) :: after → D.disk b.ns = d →
            b.zslba.toNat = z → ∀ p ∈ before.pointer D d z k, address.toNat = p := by
  obtain ⟨hdone, hfollows⟩ := zoneSession_follows hD hops hexit
  refine ⟨hdone, fun d z k hk => ⟨hfollows.learned (tells_zone_sound d z) hk, ?_⟩⟩
  rintro before b address after rfl rfl rfl p hp
  obtain ⟨s₁, hbefore, s₂, ⟨-, ⟨-, hplace, -⟩, -⟩, -⟩ := follows_append.mp hfollows
  exact hplace.trans (hbefore.learned (tells_zone_sound _ _) hk p hp)

theorem zone_session_told_ram :
    RamZones.media.pointer ((zoneSession littleHost RamZones.script).run RamZones.library
      RamZones.blank).state 0 4 = 7 :=
  ((zone_session_told (RamZones.conforms littleHost.endian) RamZones.script_fits
    RamZones.script_exit).2 0 4 none fun _ h => by cases h).1 7 rfl

/-- What is read of a zone that was reset and then appended to is what was appended. -/
theorem zone_reads_appended (hD : D.Conforms t.endian h) {ops : List ZoneOp}
    (hops : ∀ op ∈ ops, op.Fits D) {s : σ} {before between after : ZoneLog} {b : ZnsMgmtSend}
    {r : Read} {v : IoValue} {data : List Byte}
    (hexit : ((zoneSession t ops).run h s).exit = .ok (before ++ (.send b, .ok v) ::
      (between ++ (.read r, .ok (.bytes data)) :: after)))
    (hreset : b.action = .reset) (hdisk : D.disk b.ns = D.disk r.ns) {z : ℕ}
    (hz : Selects b.selectAll b.slba z)
    (hspares : ∀ x ∈ between, x.1.Spares D (D.disk r.ns) z x.2) (hfirst : z ≤ r.slba.toNat)
    (hend : r.slba.toNat + r.nlb.toNat ≤ z + (between.fills D (D.disk r.ns) z).length) :
    data = (((between.fills D (D.disk r.ns) z).drop (r.slba.toNat - z)).take
      r.nlb.toNat).flatten := by
  obtain ⟨-, hfollows⟩ := zoneSession_follows hD hops hexit
  obtain ⟨s₁, -, s₂, hsend, hrest⟩ := follows_append.mp hfollows
  obtain ⟨s₃, hbetween, s₄, ⟨⟨-, hanswers⟩, -⟩, -⟩ := follows_append.mp hrest
  have hempty := Filled.of_reset hsend hreset hz
  rw [hdisk] at hempty
  have hfilled := hempty.follows hbetween hspares
  rw [List.nil_append] at hfilled
  obtain ⟨blocks, hread, rfl, -⟩ := hanswers _ rfl
  have hinside : r.slba.toNat - z + r.nlb.toNat ≤ (between.fills D (D.disk r.ns) z).length := by
    omega
  have hpart := Medium.read_part hfilled.stands hinside
  rw [Nat.add_sub_cancel' hfirst] at hpart
  rw [Option.some.inj (hread.symm.trans hpart)]

theorem zone_reads_appended_ram : [3, 4, 5, 6] =
    (((RamZones.middleLog.fills RamZones.media 0 4).drop 1).take 2).flatten := by
  have hexit : ((zoneSession littleHost RamZones.script).run RamZones.library
      RamZones.blank).exit = .ok ([] ++ (.send RamZones.reset, .ok (.code 0)) ::
        (RamZones.middleLog ++ (.read RamZones.last, .ok (.bytes [3, 4, 5, 6])) :: [])) :=
    RamZones.script_exit
  exact zone_reads_appended (RamZones.conforms littleHost.endian) RamZones.script_fits hexit rfl
    rfl (Or.inr rfl) RamZones.middle_spares (by decide) (by decide)

end Results
end LibnvmeRs
