import LibnvmeRs.Addressing
import LibnvmeRs.FormatSelection
import LibnvmeRs.Guards
import LibnvmeRs.IoSessions
import Mathlib.Data.List.DropRight

/-!
# The smoke tests

Two of the examples destroy data: one writes, clears and trims the first block of
every namespace it visits, the other formats them. Both stop at controllers whose
model is not the one of the QEMU fixture. That latch holds whatever libnvme answers,
and on a device that keeps its documentation the assertions of the first never fail.
-/

namespace LibnvmeRs

open Interaction Program ByteOrder BlockStore Cursors Guards

def codePoints : List Byte → List ℕ
  | [] => []
  | b₀ :: l₀ =>
    if b₀.toNat < 0x80 then b₀.toNat :: codePoints l₀
    else match l₀ with
      | [] => []
      | b₁ :: l₁ =>
        if b₀.toNat < 0xE0 then (b₀.toNat % 0x20 * 0x40 + b₁.toNat % 0x40) :: codePoints l₁
        else match l₁ with
          | [] => []
          | b₂ :: l₂ =>
            if b₀.toNat < 0xF0 then
              (b₀.toNat % 0x20 * 0x1000 + b₁.toNat % 0x40 * 0x40 + b₂.toNat % 0x40) ::
                codePoints l₂
            else match l₂ with
              | [] => []
              | b₃ :: l₃ =>
                (b₀.toNat % 8 * 0x40000 + b₁.toNat % 0x40 * 0x1000 + b₂.toNat % 0x40 * 0x40 +
                  b₃.toNat % 0x40) :: codePoints l₃

def isWhitespace (c : ℕ) : Bool :=
  c == 0x20 || (0x09 ≤ c && c ≤ 0x0D) || c == 0x85 || c == 0xA0 || c == 0x1680 ||
    (0x2000 ≤ c && c ≤ 0x200A) || c == 0x2028 || c == 0x2029 || c == 0x202F || c == 0x205F ||
    c == 0x3000

def Str.trim (s : Str) : List ℕ :=
  ((codePoints s.bytes).dropWhile isWhitespace).rdropWhile isWhitespace

def qemuModel : List ℕ := "QEMU NVMe Ctrl".toList.map Char.toNat

/-- `model().unwrap_or("?").trim()`. -/
def latchText : Except Error Str → List ℕ
  | .ok text => text.trim
  | .error _ => ['?'.toNat]

def assertThat (condition : Bool) : Ffi Unit := if condition then .ret () else .abort

namespace Smoke
variable (t : Target)

/-- The pattern of a block: every byte is its offset, cut to eight bits. -/
def pattern (lbaSize : ℕ) : Exit Error Slice :=
  (t.alloc lbaSize).map fun buf =>
    ⟨buf.bytes.mapIdx fun i _ => BitVec.ofNat 8 i, by
      rw [List.length_mapIdx]
      exact buf.length_le⟩

variable (nsName : Namespace → Except Error Str)

def exercise (ns : Namespace) : Ffi Unit := do
  let _ ← ofExcept (nsName ns)
  let data ← ofExit (pattern t ns.lbaSize.toNat)
  let _ ← Write.execute ((DataIo.new ns 0 1 data).set (.flag .fua))
  let got ← ns.readToVec t 0 1
  assertThat (got.bytes = data.bytes)
  let _ ← Compare.execute (DataIo.new ns 0 1 data)
  let _ ← Verify.execute (NodataIo.new ns 0 1)
  let _ ← WriteZeroes.execute (NodataIo.new ns 0 1)
  let zeroed ← ns.readToVec t 0 1
  assertThat (zeroed.bytes.all (· == 0))
  let _ ← ((Dsm.new ns .deallocate).set (.ranges [DsmRange.new 0 1])).execute t.endian
  ns.flush

def reformat (ns : Namespace) : Ffi Unit := do
  let _ ← ofExcept (nsName ns)
  (((Format.new ns).set (.lbaFormat 0)).set (.secureErase .none)).execute

inductive Test where
  | io
  | format

def visit : Test → Namespace → Ffi Unit
  | .io => exercise t nsName
  | .format => reformat nsName

def controller (body : Namespace → Ffi Unit) (fuel : ℕ) (ctrl : Controller) (count : ℕ) :
    Ffi ℕ := do
  let model ← (Controller.model ctrl).attempt
  if latchText model ≠ qemuModel then do
    let _ ← Controller.name ctrl
    return count
  else do
    let namespaces ← Controller.namespaces ctrl
    forEach Namespaces.next (fun ns count => do
      body ns
      return count + 1) fuel namespaces count

def run (test : Test) (root : Root) (fuel : ℕ) : Ffi ℕ := do
  let hosts ← root.hosts
  forEach Hosts.next (fun host count => do
    let subsystems ← host.subsystems
    forEach Subsystems.next (fun subsys count => do
      let controllers ← Subsystem.controllers subsys
      forEach Controllers.next (controller (visit t nsName test) fuel) fuel controllers count)
        fuel subsystems count) fuel hosts 0

end Smoke

namespace Smoke

def Latched (history : History Call Answer) (c : Controller) : Prop :=
  ∃ cstr : CString, ⟨.nvmeCtrlGetString .model c, some cstr⟩ ∈ history ∧
    latchText (utf8OrError (trimTrailingPadding cstr.bytes)) = qemuModel

def Handed (history : History Call Answer) (c : Controller) (ns : Namespace) : Prop :=
  ⟨.nvmeFirst .ns c, some ns⟩ ∈ history ∨
    ∃ current, ⟨.nvmeNext .ns c current, some ns⟩ ∈ history

def Ready (ns : Namespace) (history : History Call Answer) : Prop :=
  ∃ c, Latched history c ∧ Handed history c ns

/-- An effectful call opens a namespace of a latched controller, or is a command to the
namespace opened just before. -/
def Guard (history : History Call Answer) (c : Call) : Prop :=
  c.effectful = true → (∃ ns, c = .nvmeNsGetFd ns ∧ Ready ns history) ∨
    ∃ before ns r fd, history = before ++ [⟨.nvmeNsGetFd ns, r⟩] ∧ openedFd r = .ok fd ∧
      (Device.ns ns).Takes fd c

variable {history history' : History Call Answer} {c : Controller} {ns : Namespace}

theorem Latched.mono (hlatched : Latched history c) (hgrows : history <+: history') :
    Latched history' c := by
  obtain ⟨cstr, hmodel, htext⟩ := hlatched
  exact ⟨cstr, hgrows.subset hmodel, htext⟩

theorem Handed.mono (hhanded : Handed history c ns) (hgrows : history <+: history') :
    Handed history' c ns := by
  rcases hhanded with hfirst | ⟨current, hnext⟩
  · exact Or.inl (hgrows.subset hfirst)
  · exact Or.inr ⟨current, hgrows.subset hnext⟩

theorem Ready.mono (hready : Ready ns history) (hgrows : history <+: history') :
    Ready ns history' := by
  obtain ⟨c, hlatched, hhanded⟩ := hready
  exact ⟨c, hlatched.mono hgrows, hhanded.mono hgrows⟩

theorem complies_segment (hready : Ready ns history) {seg : List (Event Call Answer)}
    (hseg : (Device.ns ns).Segment seg) : Complies Guard history seg := by
  intro before c r after hsplit _
  cases hseg with
  | nothing => simp at hsplit
  | opened r' =>
    cases before with
    | nil =>
      obtain ⟨rfl, -⟩ := Sigma.mk.inj (List.cons.inj hsplit).1
      rw [List.append_nil]
      exact Or.inl ⟨ns, rfl, hready⟩
    | cons ev before => simp at hsplit
  | sent r' hfd d hd a =>
    cases before with
    | nil =>
      obtain ⟨rfl, -⟩ := Sigma.mk.inj (List.cons.inj hsplit).1
      rw [List.append_nil]
      exact Or.inl ⟨ns, rfl, hready⟩
    | cons ev before =>
      obtain ⟨rfl, hrest⟩ := List.cons.inj hsplit
      cases before with
      | nil =>
        obtain ⟨rfl, -⟩ := Sigma.mk.inj (List.cons.inj hrest).1
        exact Or.inr ⟨history, ns, r', _, rfl, hfd, hd⟩
      | cons ev' before => simp at hrest

theorem obeys_command {α : Type} {p : Ffi α} (t : Target) (op : PlainCommand)
    (hp : p.discard = op.run t false) (hns : op.opens = .ns ns) (hready : Ready ns history) :
    Obeys Guard p (fun history' _ => Ready ns history') history := by
  have hsegment := op.segment t false
  rw [hns, ← hp, ensures_discard] at hsegment
  refine Obeys.of_ensures (hsegment.mono fun seg x hseg => ⟨?_, fun a _ => ?_⟩)
  · exact complies_segment hready hseg
  · exact hready.mono (List.prefix_append _ _)

variable (t : Target) (nsName : Namespace → Except Error Str)

theorem obeys_assertThat {condition : Bool} (hready : Ready ns history) :
    Obeys Guard (assertThat condition) (fun history' _ => Ready ns history') history := by
  unfold assertThat
  split_ifs
  · exact hready
  · trivial

theorem exercise_obeys (hready : Ready ns history) :
    Obeys Guard (exercise t nsName ns) (fun history' _ => Ready ns history') history := by
  unfold exercise
  simp only [obeys_bind, obeys_ofExcept, obeys_ofExit]
  intro _ _ data _
  refine (obeys_command t (.device (.write _)) rfl rfl hready).mono fun _ _ hready => ?_
  refine (obeys_command t (.device (.readToVec ns 0 1)) rfl rfl hready).mono fun _ _ hready => ?_
  refine (obeys_assertThat hready).mono fun _ _ hready => ?_
  refine (obeys_command t (.device (.compare _)) rfl rfl hready).mono fun _ _ hready => ?_
  refine (obeys_command t (.device (.verify _)) rfl rfl hready).mono fun _ _ hready => ?_
  refine (obeys_command t (.device (.writeZeroes _)) rfl rfl hready).mono fun _ _ hready => ?_
  refine (obeys_command t (.device (.readToVec ns 0 1)) rfl rfl hready).mono fun _ _ hready => ?_
  refine (obeys_assertThat hready).mono fun _ _ hready => ?_
  refine (obeys_command t (.device (.dsm _)) rfl rfl hready).mono fun _ _ hready => ?_
  exact obeys_command t (.flush ns) (discard_unit _) rfl hready

theorem visit_obeys (test : Test) (hready : Ready ns history) :
    Obeys Guard (visit t nsName test ns) (fun history' _ => Ready ns history') history := by
  cases test with
  | io => exact exercise_obeys t nsName hready
  | format =>
    change Obeys Guard (reformat nsName ns) _ history
    unfold reformat
    simp only [obeys_bind, obeys_ofExcept]
    intro _ _
    exact obeys_command t (.device (.format _)) rfl rfl hready

theorem model_obeys (c : Controller) :
    Obeys Guard (Controller.model c).attempt
      (fun history' model => latchText model = qemuModel → Latched history' c) history := by
  refine ⟨fun heffect => (Bool.false_ne_true heffect).elim, fun r => ?_⟩
  cases r with
  | none => exact fun hlatch => absurd hlatch (by decide)
  | some cstr =>
    change Obeys Guard (ofExcept (utf8OrError (trimTrailingPadding cstr.bytes))).attempt _ _
    have hmem : (⟨.nvmeCtrlGetString .model c, some cstr⟩ : Event Call Answer) ∈
        history ++ [⟨.nvmeCtrlGetString .model c, some cstr⟩] := by simp
    cases htext : utf8OrError (trimTrailingPadding cstr.bytes) with
    | ok text => exact fun hlatch => ⟨cstr, hmem, by rw [htext, hlatch]⟩
    | error e => exact fun hlatch => ⟨cstr, hmem, by rw [htext, hlatch]⟩

theorem string_obeys (which : CtrlGetter) (c : Controller) :
    Obeys Guard (Controller.string c which) (fun _ _ => True) history := by
  refine ⟨fun heffect => (Bool.false_ne_true heffect).elim, fun r => ?_⟩
  cases r with
  | none => trivial
  | some cstr => exact (obeys_ofExcept _).mpr fun _ _ => trivial

theorem cursor_obeys (k : Link) (parent : k.Parent) :
    Obeys Guard (Cursor.new k parent)
      (fun history' it => it.parent = parent ∧ ∀ x, it.cursor = some x →
        ⟨.nvmeFirst k parent, some x⟩ ∈ history') history := by
  refine ⟨fun heffect => (Bool.false_ne_true heffect).elim, fun r => ⟨rfl, ?_⟩⟩
  intro x hx
  obtain rfl : r = some x := hx
  simp

theorem next_obeys {k : Link} (it : Cursor k) :
    Obeys Guard it.next (fun history' y => history <+: history' ∧ y.2.parent = it.parent ∧
      (y.1 = none ∨ ∃ x, it.cursor = some x ∧ y.1 = some (k.fromRaw it.parent x) ∧
        ∀ x', y.2.cursor = some x' → ⟨.nvmeNext k it.parent x, some x'⟩ ∈ history')) history := by
  rw [Cursor.next]
  cases hcursor : it.cursor with
  | none => exact ⟨List.prefix_refl _, rfl, Or.inl rfl⟩
  | some x =>
    refine ⟨fun heffect => (Bool.false_ne_true heffect).elim, fun r => ?_⟩
    refine ⟨List.prefix_append _ _, rfl, Or.inr ⟨x, rfl, rfl, fun x' hx' => ?_⟩⟩
    obtain rfl : r = some x' := hx'
    simp

theorem controller_obeys {body : Namespace → Ffi Unit}
    (hbody : ∀ history ns, Ready ns history →
      Obeys Guard (body ns) (fun history' _ => Ready ns history') history)
    (fuel : ℕ) (c : Controller) (count : ℕ) :
    Obeys Guard (controller body fuel c count) (fun _ _ => True) history := by
  rw [controller, obeys_bind]
  refine (model_obeys c).mono fun history model hlatch => ?_
  split_ifs with hmodel
  · rw [obeys_bind]
    exact (string_obeys .name c).mono fun _ _ _ => trivial
  rw [obeys_bind]
  have hlatched := hlatch (not_not.mp hmodel)
  have hfirst : Obeys Guard (Controller.namespaces c) _ history := (cursor_obeys .ns c).extends
  refine hfirst.mono fun history' it hit => ?_
  obtain ⟨hgrows, hparent, hcursor⟩ := hit
  have hstart : Latched history' c ∧ it.parent = c ∧
      ∀ ns, it.cursor = some ns → Handed history' c ns :=
    ⟨hlatched.mono hgrows, hparent, fun ns hns => Or.inl (hcursor ns hns)⟩
  refine obeys_forEach (I := fun history it _ => Latched history c ∧ it.parent = c ∧
    ∀ ns, it.cursor = some ns → Handed history c ns) (fun history it count hI => ?_) fuel hstart
  obtain ⟨hlatched, rfl, hhanded⟩ := hI
  refine (next_obeys it).mono fun history' y hy => ?_
  obtain ⟨item, rest⟩ := y
  obtain ⟨hgrows, hparent, rfl | ⟨ns, hns, rfl, hnext⟩⟩ := hy
  · trivial
  have hready : Ready ns history' := ⟨_, hlatched.mono hgrows, (hhanded ns hns).mono hgrows⟩
  refine (obeys_bind _ _).mpr ((hbody history' ns hready).extends.mono fun history'' _ hbody => ?_)
  refine ⟨(hlatched.mono hgrows).mono hbody.1, hparent, fun ns' hns' => ?_⟩
  exact Or.inr ⟨ns, hbody.1.subset (hnext ns' hns')⟩

theorem loop_obeys (k : Link) (parent : k.Parent) {body : k.Item → ℕ → Ffi ℕ}
    (hbody : ∀ history item count, Obeys Guard (body item count) (fun _ _ => True) history)
    (fuel count : ℕ) :
    Obeys Guard (Cursor.new k parent >>= fun it => forEach Cursor.next body fuel it count)
      (fun _ _ => True) history := by
  refine (obeys_bind _ _).mpr ((cursor_obeys k parent).mono fun history it _ => ?_)
  refine obeys_forEach (I := fun _ _ _ => True) (fun history it count _ => ?_) fuel trivial
  refine (next_obeys it).mono fun history' y _ => ?_
  obtain ⟨item, rest⟩ := y
  cases item with
  | none => trivial
  | some item => exact hbody history' item count

theorem run_obeys (test : Test) (root : Root) (fuel : ℕ) :
    Obeys Guard (run t nsName test root fuel) (fun _ _ => True) history := by
  refine loop_obeys .host root.inner (fun _ host count => ?_) fuel 0
  refine loop_obeys .subsystem (Host.ptr host) (fun _ subsys count => ?_) fuel count
  refine loop_obeys .ctrl subsys (fun _ c count => ?_) fuel count
  exact controller_obeys (fun _ _ => visit_obeys t nsName test) fuel c count

/-- Neither test opens, writes to or formats a namespace unless libnvme handed it out for a
controller that had answered with the model of the fixture. -/
theorem latch_holds (test : Test) (root : Root) (fuel : ℕ) {σ : Type} (h : Handler Call Answer σ)
    (s : σ) : Complies Guard [] ((run t nsName test root fuel).run h s).trace := by
  have hrun : Obeys Guard (run t nsName test root fuel) (fun _ _ => True) [] :=
    run_obeys t nsName test root fuel
  exact (hrun.run h s).1

section Conforming
variable {σ : Type} {D : Media σ} {h : Handler Call Answer σ}

theorem bind_not_aborted {α β : Type} {p : Ffi α} {f : α → Ffi β} {s : σ}
    (hp : (p.run h s).exit ≠ .aborted)
    (hf : ∀ a, (p.run h s).exit = .ok a → ((f a).run h (p.run h s).state).exit ≠ .aborted) :
    ((p >>= f).run h s).exit ≠ .aborted := by
  intro habort
  rcases run_bind_aborted h s habort with hfirst | ⟨a, ha, hrest⟩
  · exact hp hfirst
  · exact hf a ha hrest

theorem attempt_not_aborted {α : Type} {p : Ffi α} {s : σ} (hp : (p.run h s).exit ≠ .aborted) :
    (p.attempt.run h s).exit ≠ .aborted := by
  have hattempt := (run_attempt h s p).2.2
  cases hexit : (p.run h s).exit with
  | ok a =>
    rw [(hattempt (.ok a)).mpr hexit]
    exact fun hx => by cases hx
  | error e =>
    rw [(hattempt (.error e)).mpr hexit]
    exact fun hx => by cases hx
  | aborted => exact (hp hexit).elim

theorem request_not_aborted {check ready : Exit Error Unit} (hcheck : check ≠ .aborted)
    (hready : ready ≠ .aborted) (device : Device) (command : I32 → Call) (s : σ) :
    ((request check device ready command).program.run h s).exit ≠ .aborted := by
  have hensures : (request check device ready command).program.Ensures fun _ x => x ≠ .aborted := by
    rw [Submission.ensures_iff]
    refine ⟨fun _ => hcheck, fun _ r => ⟨fun _ _ hx => (by cases hx), fun fd _ => ?_⟩⟩
    exact ⟨fun _ => hready, fun _ a => Exit.ofExcept_ne_aborted _⟩
  exact hensures.run h s

theorem device_not_aborted {α : Type} {p : Ffi α} (op : DeviceOp) (hp : p.discard = op.run t)
    (hlen : op.allocated ≤ t.allocLimit) (s : σ) : (p.run h s).exit ≠ .aborted := by
  have hdiscard : (p.discard.run h s).exit ≠ .aborted := by
    rw [hp]
    by_cases hidle : op.Idle
    · rw [op.run_idle t hidle]
      exact fun hx => by cases hx
    obtain ⟨hcheck, hready⟩ := not_or.mp (mt (op.aborted_iff t).mp (not_not_intro hlen))
    rw [op.run_eq t hidle, op.request_device]
    exact request_not_aborted hcheck hready _ _ s
  rw [run_discard] at hdiscard
  intro habort
  exact hdiscard (by rw [habort, Exit.map_aborted])

theorem ok_step {α : Type} {p : Ffi α} {f : α → IoValue} (op : IoOp) (hD : D.Conforms t.endian h)
    (hp : op.run t = p >>= fun a => .ret (f a)) (hop : op.Fits D) {s : σ} {a : α}
    (ha : (p.run h s).exit = .ok a) : op.Step D (.ok (f a)) s (p.run h s).state := by
  have hrun := run_bind_ret h s p f
  rw [← hp] at hrun
  have hexit : ((op.run t).run h s).exit = .ofExcept (.ok (f a)) := by
    rw [hrun, ha]
    rfl
  have hstep := IoOp.step_of_run hD t s rfl op hop hexit
  rwa [hrun] at hstep

theorem stored_first {op : IoOp} {v : IoValue} {cells : List (Option (List Byte))}
    {cell : Option (List Byte)} {s s' : σ} (hstep : op.Step D (.ok v) s s')
    (hput : op.stores D v = [.put 0 cells]) (hcell : cells[0]? = some cell) :
    D.medium s' (op.disk D) 0 = cell := by
  have hmoves := hstep.1.1
  rw [IoOp.changes, hput, evolves_singleton] at hmoves
  have hfirst := hmoves 0
  rw [← Nat.add_zero 0, Change.fate_put hcell] at hfirst
  exact hfirst

theorem read_first {b : List Byte} {got : Slice} {s s' : σ}
    (hblock : D.medium s (D.disk ns) 0 = some b)
    (hstep : (IoOp.readToVec ns 0 1).Step D (.ok (.bytes got.bytes)) s s') : got.bytes = b := by
  obtain ⟨blocks, hread, hgot, -⟩ := hstep.2 _ rfl
  have hone : (D.medium s (D.disk ns)).read 0 1 = some [b] := by
    simp [Medium.read, hblock]
  obtain rfl : blocks = [b] := Option.some.inj (hread.symm.trans hone)
  rw [hgot, List.flatten_singleton]

theorem assertThat_not_aborted {condition : Bool} (hcondition : condition = true) (s : σ) :
    ((assertThat condition).run h s).exit ≠ .aborted := by
  rw [assertThat, if_pos hcondition]
  exact fun hx => by cases hx

theorem exercise_not_aborted (hD : D.Conforms t.endian h) (hns : D.Lists ns)
    (halloc : ns.lbaSize.toNat ≤ t.allocLimit) (s : σ) :
    ((exercise t nsName ns).run h s).exit ≠ .aborted := by
  have hbuffer : (1 : U32).toNat * ns.lbaSize.toNat ≤ t.allocLimit := by
    rwa [show (1 : U32).toNat = 1 from rfl, Nat.one_mul]
  have hshort (nlb : U32) (hnlb : nlb ∈ some (1 : U32)) (_ : NlbValid nlb) :
      nlb.toNat * ns.lbaSize.toNat < 2 ^ 32 := by
    obtain rfl := Option.some.inj hnlb
    rw [show (1 : U32).toNat = 1 from rfl, Nat.one_mul]
    exact ns.lbaSize.isLt
  unfold exercise
  refine bind_not_aborted ?_ fun _ _ => ?_
  · cases nsName ns <;> exact fun hx => by cases hx
  refine bind_not_aborted ?_ fun data hdata => ?_
  · rw [pattern, t.alloc_ok halloc]
    exact fun hx => by cases hx
  have hlength : data.bytes.length = D.blockSize (D.disk ns) := by
    rw [pattern, t.alloc_ok halloc] at hdata
    obtain rfl := Exit.ok.inj hdata
    exact ((List.length_mapIdx ..).trans List.length_replicate).trans hns
  have hfirst : ((cut (D.blockSize (D.disk ns)) 1 data.bytes).map some)[0]? =
      some (some data.bytes) := by
    rw [List.getElem?_map, getElem?_cut Nat.one_pos, Nat.zero_mul, field, List.drop_zero,
      ← hlength, List.take_length, Option.map_some]
  refine bind_not_aborted (device_not_aborted t (.write _) rfl (Nat.zero_le _) _)
    fun result hwrite => ?_
  refine bind_not_aborted (device_not_aborted t (.readToVec ns 0 1) rfl hbuffer _)
    fun got hgot => ?_
  refine bind_not_aborted ?_ fun _ _ => ?_
  · have hblock : D.medium _ (D.disk ns) 0 = some data.bytes :=
      stored_first (ok_step t (f := IoValue.code)
        (.write ((DataIo.new ns 0 1 data).set (.flag .fua))) hD rfl ⟨hns, hshort⟩ hwrite) rfl hfirst
    have hread := read_first hblock (ok_step t (f := fun got => .bytes got.bytes)
      (.readToVec ns 0 1) hD rfl ⟨hns, hshort⟩ hgot)
    exact assertThat_not_aborted (decide_eq_true hread) _
  refine bind_not_aborted (device_not_aborted t (.compare _) rfl (Nat.zero_le _) _)
    fun _ _ => ?_
  refine bind_not_aborted (device_not_aborted t (.verify _) rfl (Nat.zero_le _) _)
    fun _ _ => ?_
  refine bind_not_aborted (device_not_aborted t (.writeZeroes _) rfl (Nat.zero_le _) _)
    fun _ hzeroes => ?_
  refine bind_not_aborted (device_not_aborted t (.readToVec ns 0 1) rfl hbuffer _)
    fun zeroed hzeroed => ?_
  refine bind_not_aborted ?_ fun _ _ => ?_
  · have hblock : D.medium _ (D.disk ns) 0 = some (List.replicate (D.blockSize (D.disk ns)) 0) :=
      stored_first (ok_step t (f := IoValue.code) (.writeZeroes (NodataIo.new ns 0 1)) hD rfl
        ⟨hns, fun _ hnlb => by cases hnlb⟩ hzeroes) rfl rfl
    have hread := read_first hblock (ok_step t (f := fun got => .bytes got.bytes)
      (.readToVec ns 0 1) hD rfl ⟨hns, hshort⟩ hzeroed)
    refine assertThat_not_aborted ?_ _
    rw [hread]
    simp
  refine bind_not_aborted (device_not_aborted t (.dsm _) rfl (Nat.zero_le _) _)
    fun _ _ => ?_
  have hflush : ns.flush = (request (.ok ()) (.ns ns) (.ok ())
      fun fd => .nvmeIoPassthru (flushCommand ns fd)).program := rfl
  rw [hflush]
  exact request_not_aborted (fun hx => by cases hx) (fun hx => by cases hx) _ _ _

theorem loop_not_aborted {T : Tree} (hT : ∀ c s, T.Answers ⟨c, (h c s).1⟩) (k : Link)
    (parent : k.Parent) {body : ℕ → k.Item → ℕ → Ffi ℕ}
    (hbody : ∀ item ∈ T.items k parent, ∃ N, ∀ fuel ≥ N, ∀ count s,
      ((body fuel item count).run h s).exit ≠ .aborted) :
    ∃ N, ∀ fuel ≥ N, ∀ count s, ((Cursor.new k parent >>= fun it =>
      forEach Cursor.next (body fuel) fuel it count).run h s).exit ≠ .aborted := by
  obtain ⟨N, hN⟩ := exists_common_bound hbody
  refine ⟨max N ((T.items k parent).length + 1), fun fuel hfuel count s => ?_⟩
  have hloop : ∀ steps n (it : Cursor k) count s, it.StandsAt T parent n →
      n ≤ (T.items k parent).length → (T.items k parent).length < steps + n →
        ((forEach Cursor.next (body fuel) steps it count).run h s).exit ≠ .aborted := by
    intro steps
    induction steps with
    | zero =>
      intro n it count s _ hn hsteps
      omega
    | succ steps ih =>
      intro n it count s hit hn hsteps
      obtain ⟨rest, hnext, hrest⟩ := Cursor.next_returns hT hit
      rw [forEach]
      refine bind_not_aborted (by rw [hnext s]; exact fun hx => by cases hx) fun y hy => ?_
      obtain rfl := Exit.ok.inj ((hnext s).symm.trans hy)
      cases hitem : (T.items k parent)[n]? with
      | none => exact fun hx => by cases hx
      | some item =>
        have hlt : n < (T.items k parent).length := (List.getElem?_eq_some_iff.mp hitem).1
        have hmem := List.mem_of_getElem? hitem
        refine bind_not_aborted (hN item hmem fuel (by omega) _ _) fun count' _ => ?_
        exact ih (n + 1) rest count' _ hrest hlt (by omega)
  have hnew := Cursor.new_returns hT parent
  refine bind_not_aborted (by rw [hnew s]; exact fun hx => by cases hx) fun it hit => ?_
  obtain rfl := Exit.ok.inj ((hnew s).symm.trans hit)
  exact hloop fuel 0 _ count _ (Cursor.standsAt_first parent) (Nat.zero_le _) (by omega)

theorem string_not_aborted (which : CtrlGetter) (c : Controller) (s : σ) :
    ((Controller.string c which).run h s).exit ≠ .aborted := by
  rw [Controller.string]
  refine bind_not_aborted (fun hx => by cases hx) fun ptr _ => ?_
  cases ptr with
  | none => exact fun hx => by cases hx
  | some cstr =>
    change ((ofExcept (utf8OrError (trimTrailingPadding cstr.bytes))).run h _).exit ≠ .aborted
    cases utf8OrError (trimTrailingPadding cstr.bytes) <;> exact fun hx => by cases hx

theorem controller_not_aborted {T : Tree} (hT : ∀ c s, T.Answers ⟨c, (h c s).1⟩) (c : Controller)
    {body : Namespace → Ffi Unit}
    (hbody : ∀ ns ∈ T.items .ns c, ∀ s, ((body ns).run h s).exit ≠ .aborted) :
    ∃ N, ∀ fuel ≥ N, ∀ count s, ((controller body fuel c count).run h s).exit ≠ .aborted := by
  have hloop : ∃ N, ∀ fuel ≥ N, ∀ count s, ((Controller.namespaces c >>= fun it =>
      forEach Namespaces.next (fun ns count => do
        body ns
        return count + 1) fuel it count).run h s).exit ≠ .aborted :=
    loop_not_aborted hT .ns c fun ns hns => ⟨0, fun _ _ count s =>
      bind_not_aborted (hbody ns hns s) fun _ _ hx => by cases hx⟩
  obtain ⟨N, hN⟩ := hloop
  refine ⟨N, fun fuel hfuel count s => ?_⟩
  rw [controller]
  refine bind_not_aborted ?_ fun model _ => ?_
  · exact attempt_not_aborted (string_not_aborted .model c s)
  split_ifs
  · exact bind_not_aborted (string_not_aborted .name c _) fun _ _ hx => by cases hx
  · exact hN fuel hfuel count _

/-- On devices that keep their documentation the assertions of `io_smoke` never fail: it ends,
with a count or with an error. -/
theorem io_smoke_never_panics {T : Tree} (hT : ∀ c s, T.Answers ⟨c, (h c s).1⟩)
    (hD : D.Conforms t.endian h) (root : Root)
    (hns : ∀ visit ∈ T.visits root, D.Lists visit.2.2.2 ∧
      (Namespace.lbaSize visit.2.2.2).toNat ≤ t.allocLimit) :
    ∃ N, ∀ fuel ≥ N, ∀ s, ((run t nsName .io root fuel).run h s).exit ≠ .aborted := by
  have hvisit : ∀ (host : Host) (subsys : Subsystem) (c : Controller) (ns : Namespace),
      host ∈ T.items .host root.inner → subsys ∈ T.items .subsystem host.ptr →
        c ∈ T.items .ctrl subsys → ns ∈ T.items .ns c →
          (host, subsys, c, ns) ∈ T.visits root := by
    intro host subsys c ns hhost hsubsys hc hns
    refine List.mem_flatMap.mpr ⟨host, hhost, List.mem_flatMap.mpr ⟨subsys, hsubsys, ?_⟩⟩
    exact List.mem_flatMap.mpr ⟨c, hc, List.mem_flatMap.mpr ⟨ns, hns, List.mem_singleton_self _⟩⟩
  have hctrls : ∀ (host : Host) (subsys : Subsystem), host ∈ T.items .host root.inner →
      subsys ∈ T.items .subsystem host.ptr → ∃ N, ∀ fuel ≥ N, ∀ count s,
        ((Subsystem.controllers subsys >>= fun it => forEach Controllers.next
          (controller (exercise t nsName) fuel) fuel it count).run h s).exit ≠ .aborted :=
    fun host subsys hhost hsubsys => loop_not_aborted hT .ctrl subsys fun c hc =>
      controller_not_aborted hT c fun ns hmem s =>
        have hlisted := hns _ (hvisit host subsys c ns hhost hsubsys hc hmem)
        exercise_not_aborted t nsName hD hlisted.1 hlisted.2 s
  have hsubsystems : ∀ host : Host, host ∈ T.items .host root.inner → ∃ N, ∀ fuel ≥ N, ∀ count s,
      ((Host.subsystems host >>= fun it => forEach Subsystems.next (fun subsys count => do
        let controllers ← Subsystem.controllers subsys
        forEach Controllers.next (controller (exercise t nsName) fuel) fuel controllers count)
          fuel it count).run h s).exit ≠ .aborted :=
    fun host hhost => loop_not_aborted hT .subsystem (Host.ptr host) fun subsys hsubsys =>
      hctrls host subsys hhost hsubsys
  obtain ⟨N, hN⟩ := loop_not_aborted hT .host root.inner hsubsystems
  exact ⟨N, fun fuel hfuel s => hN fuel hfuel 0 s⟩

end Conforming

def fixtureTree : Tree where
  children
    | .host, _ => [1]
    | .subsystem, _ => [5]
    | .ctrl, _ => [7]
    | .ns, _ => [RamDisk.ns]
    | .path, _ => []
  nodup := by
    intro k parent
    cases k <;> simp

def fixtureModel : CString :=
  ⟨"QEMU NVMe Ctrl  ".toList.map fun c => BitVec.ofNat 8 c.toNat, by decide⟩

def fixture : Handler Call Answer (Medium (List Byte)) := fun c m =>
  match c with
  | .nvmeFirst k parent => ((fixtureTree.children k parent).head?, m)
  | .nvmeNext k parent current => (after (fixtureTree.children k parent) current, m)
  | .nvmeCtrlGetString _ _ => (some fixtureModel, m)
  | c => RamDisk.library c m

theorem fixtureName_valid : validateUtf8 0 [0x6E, 0x30, 0x6E, 0x31] = .ok () := rfl

def fixtureName : Namespace → Except Error Str := fun _ =>
  .ok ⟨[0x6E, 0x30, 0x6E, 0x31], fixtureName_valid⟩

theorem fixture_answers (c : Call) (m : Medium (List Byte)) :
    fixtureTree.Answers ⟨c, (fixture c m).1⟩ := by
  cases c with
  | nvmeFirst k parent => exact rfl
  | nvmeNext k parent current => exact fun _ => rfl
  | _ => trivial

theorem fixture_conforms (e : Endian) : RamDisk.media.Conforms e fixture := by
  intro c m
  cases c with
  | nvmeFirst | nvmeNext | nvmeCtrlGetString => trivial
  | _ => exact RamDisk.conforms e _ m

theorem io_smoke_never_panics_fixture :
    ∃ N, ∀ fuel ≥ N, ∀ s,
      ((run littleHost fixtureName .io ⟨0⟩ fuel).run fixture s).exit ≠ .aborted := by
  refine io_smoke_never_panics littleHost fixtureName fixture_answers
    (fixture_conforms littleHost.endian) ⟨0⟩ fun visit hvisit => ?_
  obtain rfl := List.mem_singleton.mp hvisit
  exact ⟨rfl, by decide⟩

example : ((run littleHost fixtureName .io ⟨0⟩ 2).run fixture RamDisk.blank).exit = .ok 1 := by
  decide +kernel

end Smoke

end LibnvmeRs
