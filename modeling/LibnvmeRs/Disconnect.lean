import LibnvmeRs.DiscoveryLog
import LibnvmeRs.HandleTree
import LibnvmeRs.Operation

/-!
# Controllers after a disconnect

`disconnect` takes the controller by value, so one Rust value is gone after it.
The handle is not: every enumeration of the subsystem hands out another value for
it, and the iterators over its namespaces and paths carry it as well. The session
below holds all of these, and `Careful` is what its caller has to see to.
-/

namespace LibnvmeRs

open Interaction Program Cursors Sessions

namespace Link

def parentCtrl? : (k : Link) → k.Parent → Option NvmeCtrl
  | .ns, c => some c
  | .path, .controller c => some c
  | .path, .namespace _ => none
  | .host, _ | .subsystem, _ | .ctrl, _ => none

def childCtrl? : (k : Link) → k.Child → Option NvmeCtrl
  | .ctrl, c => some c
  | .host, _ | .subsystem, _ | .ns, _ | .path, _ => none

end Link

def Call.ctrl? : Call → Option NvmeCtrl
  | .nvmeCtrlGetFd c | .nvmeCtrlSetDiscoveryCtrl c _ | .nvmeCtrlSetUniqueDiscoveryCtrl c _
  | .nvmeCtrlSetPersistent c _ | .nvmfAddCtrl _ c _ | .nvmeCtrlSetString _ c _
  | .nvmeCtrlGetString _ c | .nvmeCtrlIs _ c | .nvmeCtrlIdentify c | .nvmeDisconnectCtrl c
  | .nvmeFreeCtrl c | .nvmfGetDiscoveryLog c _ => some c
  | .nvmeFirst k parent => k.parentCtrl? parent
  | .nvmeNext k parent current => (k.parentCtrl? parent).or (k.childCtrl? current)
  | _ => none

def disconnected? : Event Call Answer → Option NvmeCtrl
  | ⟨.nvmeDisconnectCtrl c, r⟩ => if r.ret = 0 then some c else none
  | _ => none

def disconnected (trace : List (Event Call Answer)) : List NvmeCtrl := trace.filterMap disconnected?

/-- No call hands over a controller that an earlier call has disconnected. -/
def NoUseAfterDisconnect (trace : List (Event Call Answer)) : Prop :=
  trace.Pairwise fun before later => ∀ c ∈ disconnected? before, c ∉ later.1.ctrl?

instance (trace : List (Event Call Answer)) : Decidable (NoUseAfterDisconnect trace) :=
  inferInstanceAs (Decidable (List.Pairwise _ _))

theorem disconnected_ctrl {ev : Event Call Answer} {c : NvmeCtrl} (hc : c ∈ disconnected? ev) :
    c ∈ ev.1.ctrl? := by
  obtain ⟨call, r⟩ := ev
  cases call with
  | nvmeDisconnectCtrl d =>
    have hentry : disconnected? ⟨.nvmeDisconnectCtrl d, r⟩ =
      if r.ret = 0 then some d else none := rfl
    rw [hentry] at hc
    by_cases hret : r.ret = 0
    · rwa [if_pos hret] at hc
    · rw [if_neg hret] at hc
      cases hc
  | _ => cases hc

def sizeofNvmeIdCtrl : ℕ := 4096

namespace Controller
variable (c : Controller)

def string (which : CtrlGetter) : Ffi Str := do
  let ptr ← ask (Call.nvmeCtrlGetString which c)
  match ptr with
  | none => .fail .notAvailable
  | some cstr => utf8OrError (trimTrailingPadding cstr.bytes)

def name : Ffi Str := c.string .name
def model : Ffi Str := c.string .model
def serial : Ffi Str := c.string .serial
def firmware : Ffi Str := c.string .firmware
def transport : Ffi Str := c.string .transport
def address : Ffi Str := c.string .address
def state : Ffi Str := c.string .state
def numaNode : Ffi Str := c.string .numaNode
def queueCount : Ffi Str := c.string .queueCount
def sqSize : Ffi Str := c.string .sqsize
def phySlot : Ffi Str := c.string .physSlot
def subsystemNqn : Ffi Str := c.string .subsysnqn
def transportAddress : Ffi Str := c.string .traddr
def transportServiceId : Ffi Str := c.string .trsvcid
def hostTransportAddress : Ffi Str := c.string .hostTraddr
def hostInterface : Ffi Str := c.string .hostIface

def flag (which : CtrlFlag) : Ffi Bool := ask (Call.nvmeCtrlIs which c)

def isDiscoveryController : Ffi Bool := c.flag .discoveryCtrl
def wasDiscovered : Ffi Bool := c.flag .discovered
def isUniqueDiscoveryController : Ffi Bool := c.flag .uniqueDiscoveryCtrl
def isPersistent : Ffi Bool := c.flag .persistent

def setPersistent (persistent : Bool) : Ffi Unit := ask (Call.nvmeCtrlSetPersistent c persistent)

def identify (t : Target) : Ffi Slice := do
  let id ← ofExit (t.alloc sizeofNvmeIdCtrl)
  let done ← ask (Call.nvmeCtrlIdentify c)
  checkRet done.cret
  return id.fill done.data

def submit (command : I32 → {call : Call // call.ctrl? = none}) : Ffi Unit := do
  let fd ← c.openFd
  let answer ← ask (command fd).1
  checkRet ((command fd).1.reply.cret answer)

def reset : Ffi Unit := do
  let fd ← c.openFd
  let r ← ask (Call.nvmeCtrlReset fd)
  checkRet r

def disconnect : Ffi Unit := do
  let r ← ask (Call.nvmeDisconnectCtrl c)
  checkRet r

end Controller

inductive CtrlOp where
  | string (which : CtrlGetter)
  | flag (which : CtrlFlag)
  | identify
  | setPersistent (persistent : Bool)
  | setString (which : CtrlString) (value : Str)
  | discoveryLog (maxRetries : I32)
  | reset
  | submit (command : I32 → {call : Call // call.ctrl? = none})

def CtrlOp.run (t : Target) (c : Controller) : CtrlOp → Ffi Unit
  | .string which => (c.string which).discard
  | .flag which => (c.flag which).discard
  | .identify => (c.identify t).discard
  | .setPersistent persistent => c.setPersistent persistent
  | .setString which value => setCtrlString which c value
  | .discoveryLog maxRetries => (c.discoveryLog maxRetries).discard
  | .reset => c.reset
  | .submit command => c.submit command

/-- What the caller holds: controller values, several of which may be for one handle,
and iterators. `gone` lists the handles whose disconnect returned `Ok`; the code keeps
no such list. -/
structure Held where
  controllers : List Controller := []
  iters : List (Σ k : Link, Cursor k) := []
  gone : List NvmeCtrl := []

inductive CtrlAction where
  | iterate (k : Link) (parent : k.Parent)
  | next (i : ℕ)
  | use (c : Controller) (op : CtrlOp)
  | device (op : DeviceOp)
  | other (c : {call : Call // call.ctrl? = none})
  | disconnect (c : Controller)
  | drop (c : Controller)
  | dropIter (i : ℕ)

def yielded : (k : Link) → Option k.Item → List Controller
  | .ctrl, some c => [c]
  | _, _ => []

def Held.ifHeld (x : Held) (c? : Option NvmeCtrl) (p : Ffi Held) : Ffi Held :=
  if ∀ c ∈ c?, c ∈ x.controllers then p else return x

def Held.disconnect (x : Held) (c : Controller) : Ffi Held := do
  match ← c.disconnect.attempt with
  | .ok _ => return { x with controllers := x.controllers.erase c, gone := c :: x.gone }
  | .error _ => return { x with controllers := x.controllers.erase c }

def ctrlStep (t : Target) (x : Held) : CtrlAction → Ffi Held
  | .iterate k parent => x.ifHeld (k.parentCtrl? parent) do
    let it ← Cursor.new k parent
    return { x with iters := x.iters ++ [⟨k, it⟩] }
  | .next i =>
    match x.iters[i]? with
    | none => return x
    | some ⟨k, it⟩ => do
      let (item, rest) ← it.next
      return { x with
        controllers := x.controllers ++ yielded k item
        iters := x.iters.set i ⟨k, rest⟩ }
  | .use c op => x.ifHeld (some c) do
    let _ ← (op.run t c).attempt
    return x
  | .device op => x.ifHeld op.device.getFd.ctrl? do
    let _ ← (op.run t).attempt
    return x
  | .other c => do
    let _ ← ask c.1
    return x
  | .disconnect c => x.ifHeld (some c) (x.disconnect c)
  | .drop c => return { x with controllers := x.controllers.erase c }
  | .dropIter i => return { x with iters := x.iters.eraseIdx i }

def Cursor.pending (T : Tree) {k : Link} (it : Cursor k) : List Call :=
  match it.cursor with
  | none => []
  | some current => (since (T.children k it.parent) current).map (Call.nvmeNext k it.parent)

/-- A controller is disconnected through the only value for its handle while no iterator
is about to pass the handle on, and its subsystem is not enumerated again. -/
def Careful (T : Tree) (x : Held) : CtrlAction → Prop
  | .disconnect c => c ∉ x.controllers.erase c ∧
      ∀ v ∈ x.iters, ∀ call ∈ v.2.pending T, c ∉ call.ctrl?
  | .iterate .ctrl subsystem => ∀ c ∈ T.children .ctrl subsystem, c ∉ x.gone
  | _ => True

def Call.Serves (c? : Option NvmeCtrl) (call : Call) : Prop :=
  (∀ r, disconnected? ⟨call, r⟩ = none) ∧ ∀ c ∈ call.ctrl?, c ∈ c?

theorem Call.serves_none {call : Call} (hcall : call.ctrl? = none) (c? : Option NvmeCtrl) :
    call.Serves c? := by
  refine ⟨fun r => ?_, by simp [hcall]⟩
  cases hr : disconnected? ⟨call, r⟩ with
  | none => rfl
  | some c =>
    have hmem : c ∈ call.ctrl? := disconnected_ctrl hr
    rw [hcall] at hmem
    cases hmem

theorem Device.getFd_serves (d : Device) : d.getFd.Serves d.getFd.ctrl? := by
  cases d <;> exact ⟨fun _ => rfl, fun c hc => hc⟩

theorem DeviceOp.onlyCalls_serves (t : Target) (op : DeviceOp) :
    (op.run t).OnlyCalls (Call.Serves op.device.getFd.ctrl?) := by
  refine op.onlyCalls_of t op.device.getFd_serves fun fd => Call.serves_none ?_ _
  cases op <;> rfl

theorem CtrlOp.onlyCalls_serves (t : Target) (c : Controller) (op : CtrlOp) :
    (op.run t c).OnlyCalls (Call.Serves (some c)) := by
  have hown {call : Call} (hcall : call.ctrl? = some c)
      (hkeep : ∀ r, disconnected? ⟨call, r⟩ = none) :
      (ask call : Ffi (Answer call)).OnlyCalls (Call.Serves (some c)) :=
    onlyCalls_ask ⟨hkeep, fun d hd => hcall ▸ hd⟩
  have hother {call : Call} (hcall : call.ctrl? = none) :
      (ask call : Ffi (Answer call)).OnlyCalls (Call.Serves (some c)) :=
    onlyCalls_ask (Call.serves_none hcall _)
  have hopen : c.openFd.OnlyCalls (Call.Serves (some c)) :=
    (hown rfl fun _ => rfl).bind fun r => onlyCalls_ofExcept _
  cases op with
  | string which =>
    refine onlyCalls_discard.mpr ((hown rfl fun _ => rfl).bind fun ptr => ?_)
    cases ptr with
    | none => exact onlyCalls_fail _
    | some cstr => exact onlyCalls_ofExcept _
  | flag which => exact onlyCalls_discard.mpr (hown rfl fun _ => rfl)
  | identify =>
    refine onlyCalls_discard.mpr ((onlyCalls_ofExit _).bind fun id => ?_)
    refine (hown rfl fun _ => rfl).bind fun done => ?_
    exact (onlyCalls_ofExcept _).bind fun _ => onlyCalls_ret _
  | setPersistent persistent => exact hown rfl fun _ => rfl
  | setString which value => exact (onlyCalls_ofExcept _).bind fun v => hown rfl fun _ => rfl
  | discoveryLog maxRetries =>
    refine onlyCalls_discard.mpr ((hown rfl fun _ => rfl).bind fun r => ?_)
    exact (onlyCalls_ofExcept _).bind fun _ => onlyCalls_ofExcept _
  | reset => exact hopen.bind fun fd => (hother rfl).bind fun r => onlyCalls_ofExcept _
  | submit command =>
    exact hopen.bind fun fd => (hother (command fd).2).bind fun r => onlyCalls_ofExcept _

structure Held.Clear (T : Tree) (x : Held) : Prop where
  values : ∀ c ∈ x.controllers, c ∉ x.gone
  stands : ∀ v ∈ x.iters, ∃ n, v.2.StandsAt T v.2.parent n
  pending : ∀ v ∈ x.iters, ∀ call ∈ v.2.pending T, ∀ c ∈ call.ctrl?, c ∉ x.gone

structure Guarded (T : Tree) (trace : List (Event Call Answer)) (x : Held) : Prop where
  unused : NoUseAfterDisconnect trace
  known : ∀ c, c ∈ x.gone ↔ c ∈ disconnected trace
  clear : x.Clear T

theorem NoUseAfterDisconnect.append {t₁ t₂ : List (Event Call Answer)}
    (h₁ : NoUseAfterDisconnect t₁) (h₂ : NoUseAfterDisconnect t₂)
    (hfree : ∀ ev ∈ t₂, ∀ c ∈ ev.1.ctrl?, c ∉ disconnected t₁) :
    NoUseAfterDisconnect (t₁ ++ t₂) := by
  refine List.pairwise_append.mpr ⟨h₁, h₂, fun a ha b hb c hc hcb => ?_⟩
  exact hfree b hb c hcb (List.mem_filterMap.mpr ⟨a, ha, hc⟩)

theorem disconnected_append (t₁ t₂ : List (Event Call Answer)) :
    disconnected (t₁ ++ t₂) = disconnected t₁ ++ disconnected t₂ := List.filterMap_append

def Call.Avoids (gone : List NvmeCtrl) (call : Call) : Prop :=
  (∀ r, disconnected? ⟨call, r⟩ = none) ∧ ∀ c ∈ call.ctrl?, c ∉ gone

theorem Call.Serves.avoids {c? : Option NvmeCtrl} {call : Call} {gone : List NvmeCtrl}
    (hcall : call.Serves c?) (hc : ∀ c ∈ c?, c ∉ gone) : call.Avoids gone :=
  ⟨hcall.1, fun c hmem => hc c (hcall.2 c hmem)⟩

section Steps
variable {T : Tree} {σ : Type} {h : Handler Call Answer σ} {t : List (Event Call Answer)}
variable {x : Held}

def Kept (T : Tree) (h : Handler Call Answer σ) (t : List (Event Call Answer)) (p : Ffi Held) :
    Prop :=
  ∀ s, NoUseAfterDisconnect (t ++ (p.run h s).trace) ∧
    ∀ y, (p.run h s).exit = .ok y → Guarded T (t ++ (p.run h s).trace) y

theorem Guarded.kept (hx : Guarded T t x) {p : Ffi Held} (hp : p.OnlyCalls (Call.Avoids x.gone))
    (hy : ∀ s y, (p.run h s).exit = .ok y → y.gone = x.gone ∧ y.Clear T) : Kept T h t p := by
  intro s
  have hcalls : ∀ ev ∈ (p.run h s).trace, ev.1.Avoids x.gone :=
    fun ev hev => hp σ h s ev.1 (List.mem_map_of_mem hev)
  have hquiet : ∀ ev ∈ (p.run h s).trace, disconnected? ev = none :=
    fun ev hev => (hcalls ev hev).1 ev.2
  have hnone : disconnected (p.run h s).trace = [] := List.filterMap_eq_nil_iff.mpr hquiet
  have htail : NoUseAfterDisconnect (p.run h s).trace := by
    refine List.pairwise_of_forall_mem_list fun a ha b _ c hc => ?_
    rw [hquiet a ha] at hc
    cases hc
  have hunused := hx.unused.append htail fun ev hev c hc hgone =>
    (hcalls ev hev).2 c hc ((hx.known c).mpr hgone)
  refine ⟨hunused, fun y hexit => ?_⟩
  obtain ⟨hgone, hclear⟩ := hy s y hexit
  refine ⟨hunused, fun c => ?_, hclear⟩
  rw [hgone, hx.known, disconnected_append, hnone, List.append_nil]

theorem Guarded.kept_ret (hx : Guarded T t x) {y : Held} (hgone : y.gone = x.gone)
    (hclear : y.Clear T) : Kept T h t (.ret y) := by
  refine hx.kept (onlyCalls_ret y) fun s z hz => ?_
  obtain rfl := Exit.ok.inj hz
  exact ⟨hgone, hclear⟩

theorem Guarded.kept_ifHeld (hx : Guarded T t x) {c? : Option NvmeCtrl} {p : Ffi Held}
    (hp : (∀ c ∈ c?, c ∉ x.gone) → (∀ c ∈ c?, c ∈ x.controllers) → Kept T h t p) :
    Kept T h t (x.ifHeld c? p) := by
  by_cases hheld : ∀ c ∈ c?, c ∈ x.controllers
  · rw [Held.ifHeld, if_pos hheld]
    exact hp (fun c hc => hx.clear.values c (hheld c hc)) hheld
  · rw [Held.ifHeld, if_neg hheld]
    exact hx.kept_ret rfl hx.clear

theorem Guarded.kept_attempt (hx : Guarded T t x) {α : Type} {p : Ffi α} {c? : Option NvmeCtrl}
    (hp : p.OnlyCalls (Call.Serves c?)) (hc : ∀ c ∈ c?, c ∉ x.gone) :
    Kept T h t (p.attempt >>= fun _ => .ret x) := by
  have hcalls := hp.attempt.mono fun call hcall => hcall.avoids hc
  refine hx.kept (hcalls.bind fun _ => onlyCalls_ret x) fun s y hy => ?_
  obtain ⟨_, -, hret⟩ := exists_of_run_bind h s hy
  obtain rfl := Exit.ok.inj hret
  exact ⟨rfl, hx.clear⟩

theorem Held.disconnect_eq (x : Held) (c : Controller) :
    x.disconnect c = .call (.nvmeDisconnectCtrl c) fun r => .ret
      { x with
        controllers := x.controllers.erase c
        gone := if r.ret = 0 then c :: x.gone else x.gone } := by
  simp only [Held.disconnect, Controller.disconnect, ask_bind, liftM_eq, attempt, call_bind]
  refine congrArg (Program.call _) (funext fun r => ?_)
  by_cases hret : r.ret = 0
  · rw [if_pos hret, checkRet_eq_ok.mpr hret]
    rfl
  · rw [if_neg hret]
    cases hcheck : checkRet r with
    | ok u => exact (hret (checkRet_eq_ok.mp hcheck)).elim
    | error e => rfl

theorem Held.Clear.erase (hx : x.Clear T) (c : Controller) :
    Held.Clear T { x with controllers := x.controllers.erase c } :=
  ⟨fun d hd => hx.values d (List.mem_of_mem_erase hd), hx.stands, hx.pending⟩

theorem Held.Clear.disconnect (hx : x.Clear T) {c : NvmeCtrl} (halias : c ∉ x.controllers)
    (hpending : ∀ v ∈ x.iters, ∀ call ∈ v.2.pending T, c ∉ call.ctrl?) :
    Held.Clear T { x with gone := c :: x.gone } := by
  refine ⟨fun d hd => ?_, hx.stands, fun v hv call hcall d hd => ?_⟩
  · rw [List.mem_cons, not_or]
    exact ⟨fun hdc => halias (hdc ▸ hd), hx.values d hd⟩
  · rw [List.mem_cons, not_or]
    exact ⟨fun hdc => hpending v hv call hcall (hdc ▸ hd), hx.pending v hv call hcall d hd⟩

theorem disconnected_disconnect (c : NvmeCtrl) (r : CRet) :
    disconnected [⟨.nvmeDisconnectCtrl c, r⟩] = if r.ret = 0 then [c] else [] := by
  have hentry : disconnected? ⟨.nvmeDisconnectCtrl c, r⟩ =
    if r.ret = 0 then some c else none := rfl
  by_cases hret : r.ret = 0
  · rw [if_pos hret] at hentry ⊢
    exact List.filterMap_cons_some hentry
  · rw [if_neg hret] at hentry ⊢
    exact List.filterMap_cons_none hentry

theorem Guarded.kept_disconnect (hx : Guarded T t x) {c : Controller}
    (hheld : c ∈ x.controllers) (hcare : Careful T x (.disconnect c)) :
    Kept T h t (x.disconnect c) := by
  obtain ⟨halias, hpending⟩ := hcare
  intro s
  simp only [x.disconnect_eq, run_call, run_ret]
  generalize (h (.nvmeDisconnectCtrl c) s).1 = r
  have hlast : disconnected [⟨.nvmeDisconnectCtrl c, r⟩] = if r.ret = 0 then [c] else [] :=
    disconnected_disconnect c r
  have hunused : NoUseAfterDisconnect (t ++ [⟨.nvmeDisconnectCtrl c, r⟩]) := by
    refine hx.unused.append (List.pairwise_singleton _ _) fun ev hev d hd => ?_
    obtain rfl := List.mem_singleton.mp hev
    obtain rfl : c = d := Option.some.inj hd
    exact fun hgone => hx.clear.values c hheld ((hx.known c).mpr hgone)
  refine ⟨hunused, fun y hy => ?_⟩
  obtain rfl := Exit.ok.inj hy
  by_cases hret : r.ret = 0
  · simp only [if_pos hret] at hlast ⊢
    refine ⟨hunused, fun d => ?_, (hx.clear.erase c).disconnect halias hpending⟩
    rw [disconnected_append, hlast, List.mem_append, ← hx.known, List.mem_singleton, List.mem_cons,
      or_comm]
  · simp only [if_neg hret] at hlast ⊢
    refine ⟨hunused, fun d => ?_, hx.clear.erase c⟩
    rw [disconnected_append, hlast, List.append_nil, ← hx.known]

theorem Cursor.StandsAt.pending {k : Link} {it : Cursor k} {n : ℕ}
    (hit : it.StandsAt T it.parent n) :
    it.pending T = ((T.children k it.parent).drop n).map (Call.nvmeNext k it.parent) := by
  obtain ⟨-, hcursor⟩ := hit
  rw [Cursor.pending, hcursor]
  by_cases hn : n < (T.children k it.parent).length
  · simp only [List.getElem?_eq_getElem hn]
    rw [since_getElem (T.nodup k it.parent) hn]
  · have hend : (T.children k it.parent).length ≤ n := by omega
    simp only [List.getElem?_eq_none hend]
    rw [List.drop_eq_nil_of_le hend, List.map_nil]

theorem ctrl_of_next {k : Link} {parent : k.Parent} {current : k.Child} {c : NvmeCtrl}
    (hc : c ∈ (Call.nvmeNext k parent current).ctrl?) :
    c ∈ k.parentCtrl? parent ∨ c ∈ k.childCtrl? current := by
  cases hparent : k.parentCtrl? parent with
  | none => exact Or.inr (by simpa [Call.ctrl?, hparent] using hc)
  | some d => exact Or.inl (by simpa [Call.ctrl?, hparent] using hc)

theorem Cursor.StandsAt.mem_pending {k : Link} {it : Cursor k} {n : ℕ}
    (hit : it.StandsAt T it.parent n) {child : k.Child}
    (hchild : (T.children k it.parent)[n]? = some child) :
    Call.nvmeNext k it.parent child ∈ it.pending T := by
  rw [hit.pending]
  obtain ⟨hn, hget⟩ := List.getElem?_eq_some_iff.mp hchild
  refine List.mem_map_of_mem ?_
  rw [List.drop_eq_getElem_cons hn, hget]
  exact List.mem_cons_self

theorem Cursor.StandsAt.pending_succ {k : Link} {it rest : Cursor k} {n : ℕ}
    (hit : it.StandsAt T it.parent n) (hrest : rest.StandsAt T it.parent (n + 1)) {call : Call}
    (hcall : call ∈ rest.pending T) : call ∈ it.pending T := by
  obtain ⟨parent, cursor⟩ := rest
  obtain ⟨rfl, hcursor⟩ := hrest
  have hstands : Cursor.StandsAt T it.parent ⟨it.parent, cursor⟩ (n + 1) := ⟨rfl, hcursor⟩
  rw [Cursor.StandsAt.pending hstands] at hcall
  rw [hit.pending]
  exact List.map_subset _ (List.drop_subset_drop_left _ (Nat.le_succ n)) hcall

theorem mem_yielded {k : Link} {parent : k.Parent} {n : ℕ} {c : Controller}
    (hc : c ∈ yielded k (T.items k parent)[n]?) :
    ∃ child, (T.children k parent)[n]? = some child ∧ c ∈ (Call.nvmeNext k parent child).ctrl? := by
  cases k with
  | ctrl =>
    rw [Tree.items, List.getElem?_map] at hc
    cases hchild : (T.children .ctrl parent)[n]? with
    | none =>
      rw [hchild] at hc
      cases hc
    | some child =>
      rw [hchild] at hc
      obtain rfl : c = child := List.mem_singleton.mp hc
      exact ⟨c, rfl, rfl⟩
  | host | subsystem | ns | path => cases hc

section Library
variable (hT : ∀ c s, T.Answers ⟨c, (h c s).1⟩)

include hT

theorem Guarded.kept_iterate (hx : Guarded T t x) (k : Link) (parent : k.Parent)
    (hparent : ∀ c ∈ k.parentCtrl? parent, c ∉ x.gone)
    (hcare : Careful T x (.iterate k parent)) :
    Kept T h t
      (Cursor.new k parent >>= fun it => .ret { x with iters := x.iters ++ [⟨k, it⟩] }) := by
  have hfirst : (Call.nvmeFirst k parent).Avoids x.gone := ⟨fun _ => rfl, hparent⟩
  refine hx.kept (((onlyCalls_ask hfirst).bind fun _ => onlyCalls_ret _).bind fun _ =>
    onlyCalls_ret _) fun s y hy => ?_
  obtain ⟨it, hnew, hret⟩ := exists_of_run_bind h s hy
  obtain rfl := Exit.ok.inj ((Cursor.new_returns hT parent s).symm.trans hnew)
  obtain rfl := Exit.ok.inj hret
  have hstands := Cursor.standsAt_first (T := T) (k := k) parent
  refine ⟨rfl, hx.clear.values, fun v hv => ?_, fun v hv call hcall c hc => ?_⟩
  · rcases List.mem_append.mp hv with hv | hv
    · exact hx.clear.stands v hv
    · obtain rfl := List.mem_singleton.mp hv
      exact ⟨0, hstands⟩
  · rcases List.mem_append.mp hv with hv | hv
    · exact hx.clear.pending v hv call hcall c hc
    · obtain rfl := List.mem_singleton.mp hv
      rw [Cursor.StandsAt.pending hstands, List.drop_zero] at hcall
      obtain ⟨child, hchild, rfl⟩ := List.mem_map.mp hcall
      rcases ctrl_of_next hc with hc | hc
      · exact hparent c hc
      · cases k with
        | ctrl => exact hcare c (Option.some.inj hc ▸ hchild)
        | host | subsystem | ns | path => cases hc

theorem Guarded.kept_next (hx : Guarded T t x) {i : ℕ} {k : Link} {it : Cursor k}
    (hi : x.iters[i]? = some ⟨k, it⟩) :
    Kept T h t (it.next >>= fun a => .ret
      { x with
        controllers := x.controllers ++ yielded k a.1
        iters := x.iters.set i ⟨k, a.2⟩ }) := by
  have hmem : ⟨k, it⟩ ∈ x.iters := List.mem_of_getElem? hi
  have hpending := hx.clear.pending _ hmem
  obtain ⟨n, hstands⟩ := hx.clear.stands _ hmem
  have hcalls : it.next.OnlyCalls (Call.Avoids x.gone) := by
    rw [Cursor.next]
    cases hcursor : it.cursor with
    | none => exact onlyCalls_ret _
    | some current =>
      have hcall := hstands.mem_pending (hstands.2.symm.trans hcursor)
      exact (onlyCalls_ask ⟨fun _ => rfl, hpending _ hcall⟩).bind fun _ => onlyCalls_ret _
  refine hx.kept (hcalls.bind fun _ => onlyCalls_ret _) fun s y hy => ?_
  obtain ⟨a, hnext, hret⟩ := exists_of_run_bind h s hy
  obtain ⟨rest, hreturns, hrest⟩ := Cursor.next_returns hT hstands
  obtain rfl := Exit.ok.inj ((hreturns s).symm.trans hnext)
  obtain rfl := Exit.ok.inj hret
  refine ⟨rfl, fun c hc => ?_, fun v hv => ?_, fun v hv call hcall => ?_⟩
  · rcases List.mem_append.mp hc with hc | hc
    · exact hx.clear.values c hc
    · obtain ⟨child, hchild, hctrl⟩ := mem_yielded hc
      exact hpending _ (hstands.mem_pending hchild) c hctrl
  · rcases List.mem_or_eq_of_mem_set hv with hv | rfl
    · exact hx.clear.stands v hv
    · exact ⟨n + 1, rfl, hrest.1 ▸ hrest.2⟩
  · rcases List.mem_or_eq_of_mem_set hv with hv | rfl
    · exact hx.clear.pending v hv call hcall
    · exact hpending call (hstands.pending_succ hrest hcall)

theorem ctrlStep_kept (target : Target) (a : CtrlAction) (hx : Guarded T t x)
    (hcare : Careful T x a) : Kept T h t (ctrlStep target x a) := by
  cases a with
  | iterate k parent =>
    exact hx.kept_ifHeld fun hfree _ => hx.kept_iterate hT k parent hfree hcare
  | next i =>
    rw [ctrlStep]
    cases hi : x.iters[i]? with
    | none => exact hx.kept_ret rfl hx.clear
    | some v => exact hx.kept_next hT hi
  | use c op =>
    exact hx.kept_ifHeld fun hfree _ => hx.kept_attempt (op.onlyCalls_serves target c) hfree
  | device op =>
    exact hx.kept_ifHeld fun hfree _ => hx.kept_attempt (op.onlyCalls_serves target) hfree
  | other c =>
    have hcall : c.1.Avoids x.gone := (Call.serves_none c.2 none).avoids (by simp)
    refine hx.kept ((onlyCalls_ask hcall).bind fun _ => onlyCalls_ret x) fun s y hy => ?_
    obtain rfl := Exit.ok.inj hy
    exact ⟨rfl, hx.clear⟩
  | disconnect c => exact hx.kept_ifHeld fun _ hheld => hx.kept_disconnect (hheld c rfl) hcare
  | drop c => exact hx.kept_ret rfl (hx.clear.erase c)
  | dropIter i =>
    refine hx.kept_ret rfl ⟨hx.clear.values, fun v hv => ?_, fun v hv => ?_⟩
    · exact hx.clear.stands v (List.mem_of_mem_eraseIdx hv)
    · exact hx.clear.pending v (List.mem_of_mem_eraseIdx hv)

end Library

theorem not_noUse_of_disconnected {t₁ t₂ : List (Event Call Answer)} {c : NvmeCtrl}
    (hc : c ∈ disconnected t₁) {ev : Event Call Answer} (hev : ev ∈ t₂) (huse : c ∈ ev.1.ctrl?) :
    ¬NoUseAfterDisconnect (t₁ ++ t₂) := by
  intro hnone
  obtain ⟨before, hbefore, hentry⟩ := List.mem_filterMap.mp hc
  exact (List.pairwise_append.mp hnone).2.2 before hbefore ev hev c hentry huse

/-- A step that breaks the condition; a disconnect is one that succeeds. -/
def Careless (T : Tree) (h : Handler Call Answer σ) (x : Held) (s : σ) (a : CtrlAction) : Prop :=
  ¬Careful T x a ∧
    ∀ c, a = .disconnect c → c ∈ x.controllers ∧ (h (.nvmeDisconnectCtrl c) s).1.ret = 0

section Reach
variable (target : Target) (hT : ∀ c s, T.Answers ⟨c, (h c s).1⟩)

include hT

theorem ctrlStep_next_run {i n : ℕ} {k : Link} {it : Cursor k} (hi : x.iters[i]? = some ⟨k, it⟩)
    (hit : it.StandsAt T it.parent n) {child : k.Child}
    (hchild : (T.children k it.parent)[n]? = some child) (s : σ) :
    ∃ y rest r, ((ctrlStep target x (.next i)).run h s).exit = .ok y ∧
      y.iters[i]? = some ⟨k, ⟨it.parent, rest⟩⟩ ∧
      Cursor.StandsAt T it.parent ⟨it.parent, rest⟩ (n + 1) ∧
      ((ctrlStep target x (.next i)).run h s).trace = [⟨.nvmeNext k it.parent child, r⟩] := by
  obtain ⟨⟨parent, rest⟩, hnext, hparent, hrest⟩ := Cursor.next_returns hT hit
  obtain rfl : parent = it.parent := hparent
  have hcursor : it.cursor = some child := hit.2.trans hchild
  have hstep : ctrlStep target x (.next i) = it.next >>= fun a => .ret
      { x with
        controllers := x.controllers ++ yielded k a.1
        iters := x.iters.set i ⟨k, a.2⟩ } := by
    rw [ctrlStep, hi]
    rfl
  have htrace : (it.next.run h s).trace =
      [⟨.nvmeNext k it.parent child, (h (.nvmeNext k it.parent child) s).1⟩] := by
    rw [Cursor.next, hcursor]
    rfl
  obtain ⟨hlt, -⟩ := List.getElem?_eq_some_iff.mp hi
  rw [hstep, run_bind_ok h s (hnext s), htrace]
  exact ⟨_, rest, _, rfl, List.getElem?_set_self hlt, ⟨rfl, hrest⟩, rfl⟩

theorem exists_pending_call {i n d : ℕ} {k : Link} {it : Cursor k}
    (hi : x.iters[i]? = some ⟨k, it⟩) (hit : it.StandsAt T it.parent n) {child : k.Child}
    (hchild : (T.children k it.parent)[n + d]? = some child) (s : σ) :
    ∃ l : List CtrlAction, ∃ ev ∈ ((session (ctrlStep target) l x).run h s).trace,
      ev.1 = .nvmeNext k it.parent child := by
  induction d generalizing n x it s with
  | zero =>
    obtain ⟨y, rest, r, hexit, -, -, htrace⟩ := ctrlStep_next_run target hT hi hit hchild s
    refine ⟨[.next i], ⟨_, r⟩, ?_, rfl⟩
    rw [session, run_bind_ok h s hexit, htrace]
    exact List.mem_cons_self
  | succ d ih =>
    obtain ⟨hlt, hget⟩ := List.getElem?_eq_some_iff.mp hchild
    have hn : n < (T.children k it.parent).length := by omega
    obtain ⟨y, rest, r, hexit, hy, hrest, htrace⟩ :=
      ctrlStep_next_run target hT hi hit (List.getElem?_eq_getElem hn) s
    have hlater : (T.children k it.parent)[n + 1 + d]? = some child := by
      rw [← hchild]
      congr 1
      omega
    obtain ⟨l, ev, hev, hcall⟩ := ih hy hrest hlater ((ctrlStep target x (.next i)).run h s).state
    refine ⟨.next i :: l, ev, ?_, hcall⟩
    rw [session, run_bind_ok h s hexit]
    exact List.mem_append_right _ hev

omit hT in
theorem exists_misuse_of_use {a : CtrlAction} {y : Held} {s : σ}
    (hexit : ((ctrlStep target x a).run h s).exit = .ok y) {c : NvmeCtrl}
    (hc : c ∈ disconnected (t ++ ((ctrlStep target x a).run h s).trace))
    (hl : ∃ l : List CtrlAction, ∃ ev ∈ ((session (ctrlStep target) l y).run h
      ((ctrlStep target x a).run h s).state).trace, c ∈ ev.1.ctrl?) :
    ∃ l, ¬NoUseAfterDisconnect (t ++ ((session (ctrlStep target) (a :: l) x).run h s).trace) := by
  obtain ⟨l, ev, hev, huse⟩ := hl
  refine ⟨l, ?_⟩
  rw [session, run_bind_ok h s hexit, ← List.append_assoc]
  exact not_noUse_of_disconnected hc hev huse

theorem exists_misuse_of_pending {y : Held} {v : Σ k : Link, Cursor k} (hv : v ∈ y.iters) {n : ℕ}
    (hstands : v.2.StandsAt T v.2.parent n) {call : Call} (hcall : call ∈ v.2.pending T)
    {c : NvmeCtrl} (hc : c ∈ call.ctrl?) (s : σ) :
    ∃ l : List CtrlAction, ∃ ev ∈ ((session (ctrlStep target) l y).run h s).trace,
      c ∈ ev.1.ctrl? := by
  obtain ⟨k, it⟩ := v
  obtain ⟨i, hi⟩ := List.mem_iff_getElem?.mp hv
  rw [hstands.pending] at hcall
  obtain ⟨child, hmem, rfl⟩ := List.mem_map.mp hcall
  obtain ⟨d, hd⟩ := List.mem_iff_getElem?.mp hmem
  rw [List.getElem?_drop] at hd
  obtain ⟨l, ev, hev, heq⟩ := exists_pending_call target hT hi hstands hd s
  exact ⟨l, ev, hev, heq ▸ hc⟩

theorem Guarded.exists_misuse_disconnect (hx : Guarded T t x) {c : Controller}
    (hheld : c ∈ x.controllers) (hcare : ¬Careful T x (.disconnect c)) (s : σ)
    (hret : (h (.nvmeDisconnectCtrl c) s).1.ret = 0) :
    ∃ l, ¬NoUseAfterDisconnect
      (t ++ ((session (ctrlStep target) (.disconnect c :: l) x).run h s).trace) := by
  have hstep : ctrlStep target x (.disconnect c) = x.disconnect c :=
    if_pos fun d hd => Option.some.inj hd ▸ hheld
  have hrun : (ctrlStep target x (.disconnect c)).run h s =
      ⟨.ok { x with controllers := x.controllers.erase c, gone := c :: x.gone },
        (h (.nvmeDisconnectCtrl c) s).2,
        [⟨.nvmeDisconnectCtrl c, (h (.nvmeDisconnectCtrl c) s).1⟩]⟩ := by
    simp only [hstep, x.disconnect_eq, run_call, run_ret, if_pos hret]
  refine exists_misuse_of_use target (congrArg Outcome.exit hrun) (c := c) ?_ ?_
  · rw [hrun, disconnected_append, disconnected_disconnect, if_pos hret]
    exact List.mem_append_right _ List.mem_cons_self
  by_cases halias : c ∈ x.controllers.erase c
  · -- another value for the handle is asked a question
    have huse (y : Held) (hy : c ∈ y.controllers) :
        ctrlStep target y (.use c (.flag .discovered)) =
          ((CtrlOp.flag .discovered).run target c).attempt >>= fun _ => .ret y :=
      if_pos fun d hd => Option.some.inj hd ▸ hy
    refine ⟨[.use c (.flag .discovered)], ⟨.nvmeCtrlIs .discovered c,
      (h (.nvmeCtrlIs .discovered c) (h (.nvmeDisconnectCtrl c) s).2).1⟩, ?_, rfl⟩
    rw [hrun, session, huse _ halias]
    exact List.mem_cons_self
  · -- an iterator that carries the handle is advanced
    obtain ⟨v, hv, call, hcall, hc⟩ :
        ∃ v ∈ x.iters, ∃ call ∈ v.2.pending T, c ∈ call.ctrl? := by
      by_contra hnone
      exact hcare ⟨halias, fun v hv call hcall hc => hnone ⟨v, hv, call, hcall, hc⟩⟩
    obtain ⟨n, hstands⟩ := hx.clear.stands v hv
    exact exists_misuse_of_pending target hT (y := ⟨x.controllers.erase c, x.iters, c :: x.gone⟩)
      hv hstands hcall hc _

theorem Guarded.exists_misuse_iterate (hx : Guarded T t x) {subsystem : Subsystem}
    (hcare : ¬Careful T x (.iterate .ctrl subsystem)) (s : σ) :
    ∃ l, ¬NoUseAfterDisconnect
      (t ++ ((session (ctrlStep target) (.iterate .ctrl subsystem :: l) x).run h s).trace) := by
  obtain ⟨c, hchild, hgone⟩ : ∃ c ∈ T.children .ctrl subsystem, c ∈ x.gone := by
    by_contra hnone
    exact hcare fun c hchild hgone => hnone ⟨c, hchild, hgone⟩
  have hstep : ctrlStep target x (.iterate .ctrl subsystem) =
      Cursor.new .ctrl subsystem >>= fun it =>
        .ret { x with iters := x.iters ++ [⟨.ctrl, it⟩] } := by
    have hnone : Link.ctrl.parentCtrl? subsystem = none := rfl
    rw [ctrlStep, hnone, Held.ifHeld, if_pos (by simp)]
    rfl
  have hnew := run_bind_ok h s (Cursor.new_returns hT (k := .ctrl) subsystem s)
    fun it => (.ret { x with iters := x.iters ++ [⟨.ctrl, it⟩] } : Ffi Held)
  rw [← hstep] at hnew
  have hstands := Cursor.standsAt_first (T := T) (k := .ctrl) subsystem
  have hpending : Call.nvmeNext .ctrl subsystem c ∈ Cursor.pending T
      (⟨subsystem, (T.children .ctrl subsystem)[0]?⟩ : Cursor .ctrl) := by
    rw [Cursor.StandsAt.pending hstands, List.drop_zero]
    exact List.mem_map_of_mem hchild
  refine exists_misuse_of_use target (congrArg Outcome.exit hnew) (c := c) ?_ ?_
  · rw [disconnected_append]
    exact List.mem_append_left _ ((hx.known c).mp hgone)
  · exact exists_misuse_of_pending target hT (List.mem_append_right _ List.mem_cons_self) hstands
      hpending rfl _

theorem Guarded.exists_misuse (hx : Guarded T t x) {a : CtrlAction} {s : σ}
    (ha : Careless T h x s a) :
    ∃ l, ¬NoUseAfterDisconnect (t ++ ((session (ctrlStep target) (a :: l) x).run h s).trace) := by
  obtain ⟨hcare, hdone⟩ := ha
  cases a with
  | disconnect c =>
    obtain ⟨hheld, hret⟩ := hdone c rfl
    exact hx.exists_misuse_disconnect target hT hheld hcare s hret
  | iterate k parent =>
    cases k with
    | ctrl => exact hx.exists_misuse_iterate target hT hcare s
    | host | subsystem | ns | path => exact (hcare trivial).elim
  | next | use | device | other | drop | dropIter => exact (hcare trivial).elim

end Reach
end Steps

/-- As long as the caller is careful, no call hands over a disconnected controller; and
after a careless step the session can go on to a call that does. -/
theorem no_use_after_disconnect (target : Target) (T : Tree) {σ : Type}
    (h : Handler Call Answer σ) (hT : ∀ c s, T.Answers ⟨c, (h c s).1⟩) (l : List CtrlAction)
    (s : σ) (hcare : Along h (ctrlStep target) (Careful T) l {} s) :
    NoUseAfterDisconnect ((session (ctrlStep target) l {}).run h s).trace ∧
      ∀ x, ((session (ctrlStep target) l {}).run h s).exit = .ok x →
        ∀ a, Careless T h x ((session (ctrlStep target) l {}).run h s).state a →
          ∃ l', ¬NoUseAfterDisconnect
            ((session (ctrlStep target) (l ++ a :: l') {}).run h s).trace := by
  have hstart : Guarded T [] {} := by
    refine ⟨List.Pairwise.nil, fun c => Iff.rfl, ?_, ?_, ?_⟩ <;> simp
  have hstep (t : List (Event Call Answer)) (x : Held) (a : CtrlAction) (s : σ)
      (hx : Guarded T t x) (hcond : Careful T x a) :=
    ctrlStep_kept hT target a hx hcond s
  have hsession := session_invariant (fun t x (hx : Guarded T t x) => hx.unused) hstep hstart hcare
  refine ⟨hsession.1, fun x hx a ha => ?_⟩
  obtain ⟨l', hmisuse⟩ := (hsession.2 x hx).exists_misuse target hT ha
  refine ⟨l', ?_⟩
  rw [session_append, run_bind_ok h s hx]
  exact hmisuse

def disconnectFirst : List CtrlAction :=
  [.iterate .ctrl 5, .next 0, .next 0, .disconnect 7, .use 8 (.flag .discovered)]

theorem no_use_after_disconnect_first :
    NoUseAfterDisconnect ((session (ctrlStep littleHost) disconnectFirst {}).run
      twoHosts.library ()).trace :=
  no_use_after_disconnect littleHost twoHosts twoHosts.library twoHosts.library_answers
    disconnectFirst ()
    (.cons (fun _ _ => List.not_mem_nil) rfl (.cons trivial rfl (.cons trivial rfl
      (.cons ⟨by decide, by decide⟩ rfl (.cons trivial rfl trivial))))) |>.1

theorem use_after_disconnect_alias :
    (∀ c s, twoHosts.Answers ⟨c, (twoHosts.library c s).1⟩) ∧
    ¬NoUseAfterDisconnect ((session (ctrlStep littleHost)
      [.iterate .ctrl 5, .iterate .ctrl 5, .next 0, .next 1, .disconnect 7,
        .use 7 (.flag .discovered)] {}).run twoHosts.library ()).trace :=
  ⟨twoHosts.library_answers, by decide⟩

end LibnvmeRs
