import LibnvmeRs.Guards
import LibnvmeRs.Handles
import LibnvmeRs.Lifetimes

/-!
# The lifetime of a handle tree

A `Root` owns the tree its scan has built and frees it when it is dropped. Every
other handle borrows the root it was obtained from, and the compiler lets none of
them outlive it. A session opens and drops roots in any order and uses whatever
handles are in scope; a call that is handed a pointer into a tree comes after the
scan of that tree and before its end.
-/

namespace LibnvmeRs

open Interaction Program Guards Lifetimes Sessions

inductive Ref where
  | root (r : NvmeRoot)
  | host (h : NvmeHost)
  | subsystem (s : NvmeSubsystem)
  | ctrl (c : NvmeCtrl)
  | ns (n : NvmeNs)
  | path (p : NvmePath)
  deriving DecidableEq

namespace Link

def parentRef : (k : Link) → k.Parent → Ref
  | .host, r => .root r
  | .subsystem, h => .host h
  | .ctrl, s => .subsystem s
  | .ns, c => .ctrl c
  | .path, .controller c => .ctrl c
  | .path, .namespace n => .ns n

def childRef : (k : Link) → k.Child → Ref
  | .host, h => .host h
  | .subsystem, s => .subsystem s
  | .ctrl, c => .ctrl c
  | .ns, n => .ns n
  | .path, p => .path p

def itemRef : (k : Link) → k.Item → Ref
  | .host, h => .host h.ptr
  | .subsystem, s => .subsystem s
  | .ctrl, c => .ctrl c
  | .ns, n => .ns n
  | .path, p => .path p

theorem itemRef_fromRaw (k : Link) (parent : k.Parent) (child : k.Child) :
    k.itemRef (k.fromRaw parent child) = k.childRef child := by
  cases k <;> rfl

end Link

def Call.refs : Call → List Ref
  | .nvmeNsGetFd n => [.ns n]
  | .nvmeCtrlGetFd c | .nvmeCtrlSetDiscoveryCtrl c _ | .nvmeCtrlSetUniqueDiscoveryCtrl c _
  | .nvmeCtrlSetPersistent c _ | .nvmeCtrlSetString _ c _ | .nvmeCtrlGetString _ c
  | .nvmeCtrlIs _ c | .nvmeCtrlIdentify c | .nvmeDisconnectCtrl c | .nvmeFreeCtrl c
  | .nvmfGetDiscoveryLog c _ => [.ctrl c]
  | .nvmeCreateCtrl args => [.root args.root]
  | .nvmfAddCtrl h c _ => [.host h, .ctrl c]
  | .nvmeLookupHost r _ _ => [.root r]
  | .nvmeFirst k parent => [k.parentRef parent]
  | .nvmeNext k parent current => [k.parentRef parent, k.childRef current]
  | _ => []

def AdminCall.refs : AdminCall → List Ref
  | .lib c => c.refs
  | _ => []

def TreeCall.refs : TreeCall → List Ref
  | .admin c => c.refs
  | .nvmeScan => []
  | .nvmeDefaultHost r | .nvmeFreeTree r => [.root r]
  | .nvmeHostGet _ h => [.host h]
  | .nvmeSubsystemGet _ s => [.subsystem s]
  | .nvmePathGet _ p | .nvmePathGetQueueDepth p => [.path p]
  | .nvmeNsGet _ n | .nvmeNsGetInt _ n | .nvmeNsGetLong _ n | .nvmeNsGetBytes _ n
  | .nvmeNsGetUuid n | .nvmeNsIdentify n => [.ns n]

abbrev TreeEvent := Event TreeCall TreeAnswer

/-- A child of what one enumerates, a host of the root it is asked of, a controller of the
root it is created for. -/
def Gives : TreeEvent → Ref → Ref → Prop
  | ⟨.lib (.nvmeFirst k parent), r⟩, x, y =>
    x = k.parentRef parent ∧ ∃ child, r = some child ∧ y = k.childRef child
  | ⟨.lib (.nvmeNext k parent _), r⟩, x, y =>
    x = k.parentRef parent ∧ ∃ child, r = some child ∧ y = k.childRef child
  | ⟨.lib (.nvmeLookupHost r _ _), raw⟩, x, y =>
    x = .root r ∧ ∃ h, raw.value = some h ∧ y = .host h
  | ⟨.lib (.nvmeCreateCtrl args), raw⟩, x, y =>
    x = .root args.root ∧ ∃ c, raw.value = some c ∧ y = .ctrl c
  | ⟨.nvmeDefaultHost r, raw⟩, x, y => x = .root r ∧ ∃ h, raw.value = some h ∧ y = .host h
  | _, _, _ => False

def trees : Scheme TreeEvent NvmeRoot Ref where
  opens
    | ⟨.nvmeScan, raw⟩ => raw.value
    | _ => none
  closes
    | ⟨.nvmeFreeTree r, _⟩ => some r
    | _ => none
  top := .root
  gives := Gives

abbrev TreeHistory := List TreeEvent

/-- As long as libnvme builds no tree where one stands, every pointer a call is handed
is held in a tree that is open. -/
def TreeGuard (history : TreeHistory) (c : TreeCall) : Prop :=
  trees.Fresh history → ∀ x ∈ c.refs, ∃ r, trees.Held history r x

structure Borrow (α : Type) where
  root : NvmeRoot
  value : α

structure Scope where
  roots : List Root := []
  borrows : List (Borrow Ref) := []
  iters : List (Borrow (Σ k : Link, Cursor k)) := []

inductive HandleOp where
  | command (op : Command)
  | string (c : Controller) (which : CtrlGetter)
  | flag (c : Controller) (which : CtrlFlag)
  | identify (c : Controller)
  | setPersistent (c : Controller) (persistent : Bool)
  | setString (c : Controller) (which : CtrlString) (value : Str)
  | discoveryLog (c : Controller) (maxRetries : I32)
  | disconnect (c : Controller)
  | hostText (h : NvmeHost) (which : HostGetter)
  | subsystemText (s : Subsystem) (which : SubsystemGetter)
  | pathText (p : NvmePath) (which : PathGetter)
  | queueDepth (p : NvmePath)
  | nsText (n : Namespace) (which : NsGetter)
  | nsInt (n : Namespace) (which : NsInt)
  | nsLong (n : Namespace) (which : NsLong)
  | nsBytes (n : Namespace) (which : NsBytes) (len : ℕ)
  | sizeBytes (n : Namespace)
  | uuid (n : Namespace)
  | nsIdentify (n : Namespace)

def Device.ref : Device → Ref
  | .ns n => .ns n
  | .ctrl c => .ctrl c

namespace HandleOp
variable (t : Target) (hasSanitizeEmvs : Bool)

def self : HandleOp → Ref
  | .command op => op.opens.ref
  | .string c _ | .flag c _ | .identify c | .setPersistent c _ | .setString c _ _
  | .discoveryLog c _ | .disconnect c => .ctrl c
  | .hostText h _ => .host h
  | .subsystemText s _ => .subsystem s
  | .pathText p _ | .queueDepth p => .path p
  | .nsText n _ | .nsInt n _ | .nsLong n _ | .nsBytes n _ _ | .sizeBytes n | .uuid n
  | .nsIdentify n => .ns n

def run : HandleOp → TreeFfi Unit
  | .command op => (op.run t hasSanitizeEmvs).tree
  | .string c which => Ffi.tree (Controller.string c which).discard
  | .flag c which => Ffi.tree (Controller.flag c which).discard
  | .identify c => Ffi.tree (Controller.identify c t).discard
  | .setPersistent c persistent => (Controller.setPersistent c persistent).tree
  | .setString c which value => (LibnvmeRs.setCtrlString which c value).tree
  | .discoveryLog c maxRetries => Ffi.tree (Controller.discoveryLog c maxRetries).discard
  | .disconnect c => (Controller.disconnect c).tree
  | .hostText h which => (NvmeHost.text h which).discard
  | .subsystemText s which => (Subsystem.text s which).discard
  | .pathText p which => (NvmePath.text p which).discard
  | .queueDepth p => (NvmePath.queueDepth p).discard
  | .nsText n which => (Namespace.text n which).discard
  | .nsInt n which => (Namespace.int n which).discard
  | .nsLong n which => (Namespace.long n which).discard
  | .nsBytes n which len => (Namespace.bytes n which len).discard
  | .sizeBytes n => (Namespace.sizeBytes n).discard
  | .uuid n => (Namespace.uuid n).discard
  | .nsIdentify n => (Namespace.identify n t).discard

end HandleOp

inductive TreeAction where
  | scan
  | drop (i : ℕ)
  | hosts (i : ℕ)
  | defaultHost (i : ℕ)
  | lookupHost (i : ℕ) (hostnqn : Str) (hostid : Option Str)
  | children (j : ℕ) (k : Link) (parent : k.Parent)
  | next (j : ℕ)
  | connect (j : ℕ) (b : Connect)
  | use (j : ℕ) (op : HandleOp)

namespace Scope
variable (x : Scope)

def without (i : ℕ) (r : NvmeRoot) : Scope :=
  { roots := x.roots.eraseIdx i
    borrows := x.borrows.filter (·.root ≠ r)
    iters := x.iters.filter (·.root ≠ r) }

def hold (r : NvmeRoot) (ref : Ref) : Scope := { x with borrows := x.borrows ++ [⟨r, ref⟩] }

def iterate (r : NvmeRoot) {k : Link} (it : Cursor k) : Scope :=
  { x with iters := x.iters ++ [⟨r, ⟨k, it⟩⟩] }

def yield_ (j : ℕ) (r : NvmeRoot) {k : Link} (item : Option k.Item) (rest : Cursor k) : Scope :=
  { x with
    borrows := x.borrows ++ (item.map fun item => ⟨r, k.itemRef item⟩).toList
    iters := x.iters.set j ⟨r, ⟨k, rest⟩⟩ }

end Scope

def treeStep (t : Target) (hasSanitizeEmvs : Bool) (x : Scope) : TreeAction → TreeFfi Scope
  | .scan => do
    match ← Root.scan.attempt with
    | .ok root => return { x with roots := x.roots ++ [root] }
    | .error _ => return x
  | .drop i =>
    match x.roots[i]? with
    | none => return x
    | some root => do
      root.drop
      return x.without i root.inner
  | .hosts i =>
    match x.roots[i]? with
    | none => return x
    | some root => do
      let it ← root.hosts.tree
      return x.iterate root.inner it
  | .defaultHost i =>
    match x.roots[i]? with
    | none => return x
    | some root => do
      match ← root.defaultHost.attempt with
      | .ok host => return x.hold root.inner (.host host.ptr)
      | .error _ => return x
  | .lookupHost i hostnqn hostid =>
    match x.roots[i]? with
    | none => return x
    | some root => do
      match ← (root.lookupHost hostnqn hostid).tree.attempt with
      | .ok host => return x.hold root.inner (.host host.ptr)
      | .error _ => return x
  | .children j k parent =>
    match x.borrows[j]? with
    | none => return x
    | some b =>
      if b.value = k.parentRef parent then do
        let it ← (Cursor.new k parent).tree
        return x.iterate b.root it
      else return x
  | .next j =>
    match x.iters[j]? with
    | none => return x
    | some ⟨r, ⟨_, it⟩⟩ => do
      let (item, rest) ← it.next.tree
      return x.yield_ j r item rest
  | .connect j b =>
    match x.borrows[j]? with
    | none => return x
    | some w =>
      if w.value = .host b.host.ptr ∧ w.root = b.host.root then do
        match ← (b.execute t).tree.attempt with
        | .ok ctrl => return x.hold w.root (.ctrl ctrl)
        | .error _ => return x
      else return x
  | .use j op =>
    match x.borrows[j]? with
    | none => return x
    | some b =>
      if b.value = op.self then do
        let _ ← (op.run t hasSanitizeEmvs).attempt
        return x
      else return x

theorem Call.refs_of_fd {c : Call} {fd : I32} (hc : c.fd? = some fd) : c.refs = [] := by
  cases c <;> first | rfl | cases hc

theorem AdminCall.refs_of_fd {c : AdminCall} {fd : I32} (hc : c.fd? = some fd) : c.refs = [] := by
  cases c with
  | lib c => exact Call.refs_of_fd hc
  | _ => rfl

theorem Device.getFd_refs (d : Device) : d.getFd.refs = [d.ref] := by
  cases d <;> rfl

def TreeCall.quiet : TreeCall → Bool
  | .nvmeScan | .nvmeFreeTree _ => false
  | _ => true

theorem passes_quiet {c : TreeCall} (hc : c.quiet = true) (r : NvmeRoot) (a : TreeAnswer c) :
    trees.Passes r (⟨c, a⟩ : TreeEvent) := by
  cases c with
  | nvmeScan | nvmeFreeTree => cases hc
  | _ => exact ⟨nofun, nofun⟩

def TreeCall.Own (x : Ref) (c : TreeCall) : Prop :=
  c.quiet = true ∧ ∀ y ∈ c.refs, y = x

theorem own_admin {x : Ref} {c : AdminCall} (hc : ∀ y ∈ c.refs, y = x) :
    TreeCall.Own x (.admin c) := ⟨rfl, hc⟩

theorem own_tree {α : Type} {x : Ref} {p : Ffi α}
    (hp : p.OnlyCalls fun c => ∀ y ∈ c.refs, y = x) : p.tree.OnlyCalls (TreeCall.Own x) :=
  OnlyCalls.via hp fun _ hc => own_admin hc

theorem Command.onlySelf (t : Target) (hasSanitizeEmvs : Bool) (op : Command) :
    (op.run t hasSanitizeEmvs).OnlyCalls fun c => ∀ x ∈ c.refs, x = op.opens.ref := by
  refine onlyCalls_iff.mpr ((op.segment t hasSanitizeEmvs).mono fun seg _ hseg ev hev x hx => ?_)
  have hopen : ∀ x ∈ AdminCall.refs (.lib op.opens.getFd), x = op.opens.ref := fun x hx => by
    rw [AdminCall.refs, Device.getFd_refs] at hx
    exact List.mem_singleton.mp hx
  cases hseg with
  | nothing => cases hev
  | opened a =>
    obtain rfl := List.mem_singleton.mp hev
    exact hopen x hx
  | sent a hfd call hcall b =>
    rcases List.mem_cons.mp hev with rfl | hev
    · exact hopen x hx
    · obtain rfl := List.mem_singleton.mp hev
      rw [AdminCall.refs_of_fd hcall.1] at hx
      cases hx

/-- A method hands on no pointer but that of its own handle. -/
theorem HandleOp.onlySelf (t : Target) (hasSanitizeEmvs : Bool) (op : HandleOp) :
    (op.run t hasSanitizeEmvs).OnlyCalls (TreeCall.Own op.self) := by
  have hown {c : Controller} {call : Call} (hcall : call.refs = [.ctrl c]) :
      (ask call : Ffi (Answer call)).OnlyCalls fun call => ∀ x ∈ call.refs, x = .ctrl c :=
    onlyCalls_ask fun x hx => List.mem_singleton.mp (hcall ▸ hx)
  have hget {x : Ref} {c : TreeCall} (hquiet : c.quiet = true) (hc : c.refs = [x]) :
      (ask c : TreeFfi (TreeAnswer c)).OnlyCalls (TreeCall.Own x) :=
    onlyCalls_ask ⟨hquiet, fun y hy => List.mem_singleton.mp (hc ▸ hy)⟩
  cases op with
  | command op => exact OnlyCalls.via (op.onlySelf t hasSanitizeEmvs) fun _ hc => own_admin hc
  | string c which =>
    refine own_tree (onlyCalls_discard.mpr ((hown rfl).bind fun ptr => ?_))
    cases ptr with
    | none => exact onlyCalls_fail _
    | some cstr => exact onlyCalls_ofExcept _
  | flag c which => exact own_tree (onlyCalls_discard.mpr (hown rfl))
  | identify c =>
    refine own_tree (onlyCalls_discard.mpr ((onlyCalls_ofExit _).bind fun id => ?_))
    refine (hown rfl).bind fun done => ?_
    exact (onlyCalls_ofExcept _).bind fun _ => onlyCalls_ret _
  | setPersistent c persistent => exact own_tree (hown rfl)
  | setString c which value =>
    exact own_tree ((onlyCalls_ofExcept _).bind fun v => hown rfl)
  | discoveryLog c maxRetries =>
    refine own_tree (onlyCalls_discard.mpr ((hown rfl).bind fun r => ?_))
    exact (onlyCalls_ofExcept _).bind fun _ => onlyCalls_ofExcept _
  | disconnect c => exact own_tree ((hown rfl).bind fun r => onlyCalls_ofExcept _)
  | hostText | subsystemText | pathText | nsText =>
    refine onlyCalls_discard.mpr ((hget rfl rfl).bind fun ptr => ?_)
    exact onlyCalls_ofExcept _
  | queueDepth | nsInt | nsLong =>
    exact onlyCalls_discard.mpr (hget rfl rfl)
  | nsBytes | uuid =>
    refine onlyCalls_discard.mpr ((hget rfl rfl).bind fun _ => ?_)
    exact onlyCalls_ret _
  | sizeBytes n =>
    refine onlyCalls_discard.mpr ((hget rfl rfl).bind fun _ => ?_)
    refine (hget rfl rfl).bind fun _ => ?_
    exact onlyCalls_ret _
  | nsIdentify n =>
    refine onlyCalls_discard.mpr ((onlyCalls_ofExit _).bind fun id => ?_)
    refine (hget rfl rfl).bind fun done => ?_
    exact (onlyCalls_ofExcept _).bind fun _ => onlyCalls_ret _

section Plain
variable {α : Type} {history : TreeHistory}

theorem passes_lib (r : NvmeRoot) (c : Call) (a : Answer c) :
    trees.Passes r (⟨.lib c, a⟩ : TreeEvent) := ⟨nofun, nofun⟩

theorem obeys_tree_call (c : Call) (next : Answer c → Ffi α) {Q : TreeHistory → α → Prop} :
    Obeys TreeGuard (Ffi.tree (.call c next)) Q history ↔
      TreeGuard history (.lib c) ∧
        ∀ a, Obeys TreeGuard (next a).tree Q (history ++ [⟨.lib c, a⟩]) := Iff.rfl

theorem obeys_tree {p : Ffi α} {Q : TreeHistory → α → Prop}
    (hp : Obeys TreeGuard p.tree Q history) :
    Obeys TreeGuard p.tree (fun history' a => trees.Later history history' ∧ Q history' a)
      history := by
  induction p generalizing history with
  | ret a => exact ⟨.refl _, hp⟩
  | fail e => trivial
  | abort => trivial
  | call c next ih =>
    refine ⟨hp.1, fun r => (ih r (hp.2 r)).mono fun history' a h => ⟨?_, h.2⟩⟩
    exact h.1.after fun root => passes_lib root c r

theorem obeys_tree_attempt {p : Ffi α} {Q : TreeHistory → α → Prop}
    (hp : Obeys TreeGuard p.tree Q history) :
    Obeys TreeGuard p.tree.attempt
      (fun history' y => trees.Later history history' ∧ ∀ a, y = .ok a → Q history' a) history := by
  induction p generalizing history with
  | ret a =>
    refine ⟨.refl _, fun b hb => ?_⟩
    obtain rfl := Except.ok.inj hb
    exact hp
  | fail e => exact ⟨.refl _, fun a ha => by cases ha⟩
  | abort => trivial
  | call c next ih =>
    refine ⟨hp.1, fun r => (ih r (hp.2 r)).mono fun history' y h => ⟨?_, h.2⟩⟩
    exact h.1.after fun root => passes_lib root c r

theorem obeys_stale {p : TreeFfi α} (hstale : ¬trees.Fresh history) {P : TreeHistory → α → Prop} :
    Obeys TreeGuard p (fun history' a => trees.Fresh history' → P history' a) history := by
  induction p generalizing history with
  | ret a => exact fun hfresh => (hstale hfresh).elim
  | fail e => trivial
  | abort => trivial
  | call c next ih =>
    exact ⟨fun hfresh => (hstale hfresh).elim, fun r => ih r fun hfresh => hstale hfresh.before⟩

variable {r : NvmeRoot}

theorem guard_of_ref {c : Call} {x : Ref} (hc : c.refs = [x]) (hx : trees.Held history r x) :
    TreeGuard history (.lib c) := by
  intro _ y hy
  rw [TreeCall.refs, AdminCall.refs, hc] at hy
  obtain rfl := List.mem_singleton.mp hy
  exact ⟨r, hx⟩

def Reach (history : TreeHistory) (r : NvmeRoot) {k : Link} (it : Cursor k) : Prop :=
  trees.Held history r (k.parentRef it.parent) ∧
    ∀ current, it.cursor = some current → trees.Held history r (k.childRef current)

theorem Reach.passes {k : Link} {it : Cursor k} (hit : Reach history r it) {ev : TreeEvent}
    (hev : trees.Passes r ev) : Reach (history ++ [ev]) r it :=
  ⟨hit.1.passes hev, fun current hcurrent => (hit.2 current hcurrent).passes hev⟩

theorem Reach.later {history' : TreeHistory} {k : Link} {it : Cursor k} (hit : Reach history r it)
    (h : trees.Later history history') : Reach history' r it :=
  ⟨hit.1.later h, fun current hcurrent => (hit.2 current hcurrent).later h⟩

theorem cursor_new_obeys {k : Link} {parent : k.Parent}
    (hparent : trees.Held history r (k.parentRef parent)) :
    Obeys TreeGuard (Cursor.new k parent).tree (fun history' it => Reach history' r it)
      history := by
  refine ⟨guard_of_ref rfl hparent, fun child => ?_⟩
  · have hpasses := passes_lib r (.nvmeFirst k parent) child
    exact ⟨hparent.passes hpasses, fun current hcurrent =>
      hparent.given hpasses ⟨rfl, current, hcurrent, rfl⟩⟩

theorem cursor_next_obeys {k : Link} {it : Cursor k} (hit : Reach history r it) :
    Obeys TreeGuard it.next.tree (fun history' y => Reach history' r y.2 ∧
      ∀ item, y.1 = some item → trees.Held history' r (k.itemRef item)) history := by
  obtain ⟨hparent, hcursor⟩ := hit
  rw [Cursor.next]
  cases hcurrent : it.cursor with
  | none => exact ⟨⟨hparent, hcursor⟩, fun item hitem => by cases hitem⟩
  | some current =>
    have hheld := hcursor current hcurrent
    refine ⟨fun _ x hx => ⟨r, ?_⟩, fun child => ?_⟩
    · simp only [TreeCall.refs, AdminCall.refs, Call.refs, List.mem_cons, List.not_mem_nil,
        or_false] at hx
      rcases hx with rfl | rfl
      · exact hparent
      · exact hheld
    · have hpasses := passes_lib r (.nvmeNext k it.parent current) child
      refine ⟨⟨hparent.passes hpasses, fun next hnext =>
        hparent.given hpasses ⟨rfl, next, hnext, rfl⟩⟩, fun item hitem => ?_⟩
      obtain rfl := Option.some.inj hitem
      rw [Link.itemRef_fromRaw]
      exact hheld.passes hpasses

theorem lookupHost_obeys (hroot : trees.Alive r history) (hostnqn : Str) (hostid : Option Str) :
    Obeys TreeGuard (Root.lookupHost ⟨r⟩ hostnqn hostid).tree
      (fun history' host => trees.Held history' r (.host host.ptr)) history := by
  have htop : trees.Held history r (.root r) := Scheme.held_top hroot
  rw [Root.lookupHost]
  cases Root.lookupArgs hostnqn hostid with
  | error e => trivial
  | ok args =>
    simp only [liftM_eq, ofExcept_ok, ret_bind, ask_bind, obeys_tree_call]
    refine ⟨guard_of_ref rfl htop, fun raw => ?_⟩
    · have hpasses := passes_lib r (.nvmeLookupHost r args.1 args.2) raw
      cases hraw : raw.value with
      | none => trivial
      | some ptr => exact htop.given hpasses ⟨rfl, ptr, hraw, rfl⟩

theorem mark_obeys {flag : Bool} {c : Call} {k : Unit → Ffi α} {Q : TreeHistory → α → Prop}
    (hc : TreeGuard history (.lib c))
    (hk : ∀ history', trees.Later history history' → Obeys TreeGuard (k ()).tree Q history') :
    Obeys TreeGuard (Connect.mark flag c >>= k).tree Q history := by
  cases flag with
  | false => exact hk history (.refl _)
  | true => exact ⟨hc, fun a => hk _ ((Scheme.Later.refl _).snoc fun root => passes_lib root c a)⟩

theorem addCtrl_obeys {t : Target} {b : Connect} {args : NvmeCreateCtrl} {ctrl : NvmeCtrl}
    (hhost : trees.Held history r (.host b.host.ptr)) (hctrl : trees.Held history r (.ctrl ctrl)) :
    Obeys TreeGuard (b.addCtrl t args ctrl).tree
      (fun history' ctrl' => trees.Held history' r (.ctrl ctrl')) history := by
  rw [Connect.addCtrl]
  refine mark_obeys (guard_of_ref rfl hctrl) fun h₁ hlater₁ => ?_
  refine mark_obeys (guard_of_ref rfl (hctrl.later hlater₁)) fun h₂ hlater₂ => ?_
  refine mark_obeys (guard_of_ref rfl ((hctrl.later hlater₁).later hlater₂)) fun h₃ hlater₃ => ?_
  have hheld : ∀ x ∈ [Ref.host b.host.ptr, .ctrl ctrl], trees.Held h₃ r x := by
    intro x hx
    simp only [List.mem_cons, List.not_mem_nil, or_false] at hx
    rcases hx with rfl | rfl
    · exact ((hhost.later hlater₁).later hlater₂).later hlater₃
    · exact ((hctrl.later hlater₁).later hlater₂).later hlater₃
  simp only [ask_bind, obeys_tree_call]
  refine ⟨fun _ x hx => absurd hx List.not_mem_nil, fun cfg => ?_⟩
  refine ⟨fun _ x hx => ⟨r, ?_⟩, fun ret => ?_⟩
  · exact (hheld x hx).passes (passes_lib r _ cfg)
  · have hadded := ((hheld (.ctrl ctrl) (by simp)).passes (passes_lib r _ cfg)).passes
      (passes_lib r (.nvmfAddCtrl b.host.ptr ctrl (b.configure args cfg)) ret)
    cases hret : checkRet ret with
    | error e => trivial
    | ok u => exact hadded

theorem connect_obeys {t : Target} {b : Connect} (hroot : trees.Alive b.host.root history)
    (hhost : trees.Held history b.host.root (.host b.host.ptr)) :
    Obeys TreeGuard (b.execute t).tree
      (fun history' ctrl => trees.Held history' b.host.root (.ctrl ctrl)) history := by
  have htop : trees.Held history b.host.root (.root b.host.root) := Scheme.held_top hroot
  rw [Connect.execute]
  cases hargs : b.createArgs with
  | error e => trivial
  | ok args =>
    simp only [liftM_eq, ofExcept_ok, ret_bind, ask_bind, obeys_tree_call]
    have hargsRoot := (Connect.createArgs_ok hargs).root
    refine ⟨guard_of_ref (congrArg (fun root => [Ref.root root]) hargsRoot) htop, fun raw => ?_⟩
    · have hpasses := passes_lib b.host.root (.nvmeCreateCtrl args) raw
      cases hraw : raw.value with
      | none => trivial
      | some ctrl =>
        have hctrl := htop.given hpasses ⟨by rw [hargsRoot], ctrl, hraw, rfl⟩
        exact addCtrl_obeys (hhost.passes hpasses) hctrl

end Plain

/-- The open trees are those of the roots in scope, and whatever borrows a root is held in
its tree. -/
structure Intact (history : TreeHistory) (x : Scope) : Prop where
  nodup : (x.roots.map Root.inner).Nodup
  alive : ∀ r, trees.Alive r history ↔ r ∈ x.roots.map Root.inner
  borrows : ∀ b ∈ x.borrows, trees.Held history b.root b.value
  iters : ∀ v ∈ x.iters, Reach history v.root v.value.2

def KeptScope (history : TreeHistory) (x : Scope) : Prop := trees.Fresh history → Intact history x

theorem intact_empty : Intact [] {} where
  nodup := List.nodup_nil
  alive r := iff_of_false (Scheme.not_alive_nil r) (by simp)
  borrows b hb := by cases hb
  iters v hv := by cases hv

namespace Intact
variable {history history' : TreeHistory} {x : Scope} {r : NvmeRoot}

theorem later (hx : Intact history x) (h : trees.Later history history') : Intact history' x where
  nodup := hx.nodup
  alive r := (Scheme.alive_later h r).trans (hx.alive r)
  borrows b hb := (hx.borrows b hb).later h
  iters v hv := (hx.iters v hv).later h

theorem held_root (hx : Intact history x) {i : ℕ} {root : Root} (hroot : x.roots[i]? = some root) :
    trees.Alive root.inner history :=
  (hx.alive root.inner).mpr (List.mem_map_of_mem (List.mem_of_getElem? hroot))

theorem hold (hx : Intact history x) {ref : Ref} (href : trees.Held history r ref) :
    Intact history (x.hold r ref) where
  nodup := hx.nodup
  alive := hx.alive
  borrows b hb := by
    rcases List.mem_append.mp hb with hb | hb
    · exact hx.borrows b hb
    · obtain rfl := List.mem_singleton.mp hb
      exact href
  iters := hx.iters

theorem iterate (hx : Intact history x) {k : Link} {it : Cursor k} (hit : Reach history r it) :
    Intact history (x.iterate r it) where
  nodup := hx.nodup
  alive := hx.alive
  borrows := hx.borrows
  iters v hv := by
    rcases List.mem_append.mp hv with hv | hv
    · exact hx.iters v hv
    · obtain rfl := List.mem_singleton.mp hv
      exact hit

theorem yield_ (hx : Intact history x) (j : ℕ) {k : Link} {item : Option k.Item} {rest : Cursor k}
    (hrest : Reach history r rest)
    (hitem : ∀ a, item = some a → trees.Held history r (k.itemRef a)) :
    Intact history (x.yield_ j r item rest) where
  nodup := hx.nodup
  alive := hx.alive
  borrows b hb := by
    rcases List.mem_append.mp hb with hb | hb
    · exact hx.borrows b hb
    · obtain ⟨a, ha, rfl⟩ := Option.map_eq_some_iff.mp (Option.mem_toList.mp hb)
      exact hitem a ha
  iters v hv := by
    rcases List.mem_or_eq_of_mem_set hv with hv | rfl
    · exact hx.iters v hv
    · exact hrest

theorem opened (hx : Intact history x) {ev : TreeEvent} (hopens : trees.opens ev = some r)
    (hcloses : trees.closes ev = none) (hr : ¬trees.Alive r history) :
    Intact (history ++ [ev]) { x with roots := x.roots ++ [⟨r⟩] } := by
  have hpasses {r' : NvmeRoot} (hr' : trees.Alive r' history) : trees.Passes r' ev := by
    refine ⟨fun h => hr ?_, fun h => by simp [hcloses] at h⟩
    rwa [Option.some.inj (hopens.symm.trans h)]
  refine ⟨?_, fun r' => ?_, fun b hb => ?_, fun v hv => ?_⟩
  · rw [List.map_append, List.nodup_append]
    refine ⟨hx.nodup, List.nodup_singleton r, fun a ha b hb hab => hr ?_⟩
    rw [hab, List.mem_singleton.mp hb] at ha
    exact (hx.alive r).mpr ha
  · rw [List.map_append, List.mem_append, ← hx.alive r']
    by_cases hrr : r' = r
    · rw [hrr]
      exact iff_of_true (Scheme.alive_opened hopens) (Or.inr (List.mem_singleton.mpr rfl))
    · have hother : trees.Passes r' ev :=
        ⟨fun h => hrr (Option.some.inj (h.symm.trans hopens)), fun h => by simp [hcloses] at h⟩
      rw [Scheme.alive_passes hother]
      exact (or_iff_left fun h => hrr (List.mem_singleton.mp h)).symm
  · exact (hx.borrows b hb).passes (hpasses (hx.borrows b hb).alive)
  · exact (hx.iters v hv).passes (hpasses (hx.iters v hv).1.alive)

theorem closed (hx : Intact history x) {i : ℕ} {root : Root} (hroot : x.roots[i]? = some root)
    {ev : TreeEvent} (hopens : trees.opens ev = none)
    (hcloses : trees.closes ev = some root.inner) :
    Intact (history ++ [ev]) (x.without i root.inner) := by
  have hpasses {r' : NvmeRoot} (hr' : r' ≠ root.inner) : trees.Passes r' ev :=
    ⟨fun h => by simp [hopens] at h, fun h => hr' (Option.some.inj (h.symm.trans hcloses))⟩
  obtain ⟨hlt, hget⟩ := List.getElem?_eq_some_iff.mp hroot
  have herase : (x.without i root.inner).roots.map Root.inner =
      (x.roots.map Root.inner).erase root.inner := by
    have hlt' : i < (x.roots.map Root.inner).length := by rwa [List.length_map]
    have hself : (x.roots.map Root.inner)[i] = root.inner := by rw [List.getElem_map, hget]
    rw [Scope.without, ← List.eraseIdx_map, ← hx.nodup.erase_getElem i hlt', hself]
  refine ⟨?_, fun r' => ?_, fun b hb => ?_, fun v hv => ?_⟩
  · rw [herase]
    exact hx.nodup.erase root.inner
  · rw [herase, hx.nodup.mem_erase_iff]
    by_cases hrr : r' = root.inner
    · subst hrr
      refine iff_of_false (Scheme.not_alive_closed ?_ hcloses) fun h => h.1 rfl
      simp [hopens]
    · rw [Scheme.alive_passes (hpasses hrr), hx.alive r']
      exact (and_iff_right hrr).symm
  · obtain ⟨hb, hne⟩ := List.mem_filter.mp hb
    exact (hx.borrows b hb).passes (hpasses (of_decide_eq_true hne))
  · obtain ⟨hv, hne⟩ := List.mem_filter.mp hv
    exact (hx.iters v hv).passes (hpasses (of_decide_eq_true hne))

end Intact

section Steps
variable {t : Target} {hasSanitizeEmvs : Bool} {history : TreeHistory} {x : Scope}

theorem Intact.kept (hx : Intact history x) : KeptScope history x := fun _ => hx

theorem attempt_kept {α : Type} {p : Ffi α} {Q : TreeHistory → α → Prop} (hx : Intact history x)
    (hp : Obeys TreeGuard p.tree Q history) :
    Obeys TreeGuard p.tree.attempt
      (fun history' y => Intact history' x ∧ ∀ a, y = .ok a → Q history' a) history :=
  (obeys_tree_attempt hp).mono fun _ _ hy => ⟨hx.later hy.1, hy.2⟩

theorem use_kept (hx : Intact history x) {r : NvmeRoot} {op : HandleOp}
    (hself : trees.Held history r op.self) :
    Obeys TreeGuard (op.run t hasSanitizeEmvs).attempt (fun history' _ => Intact history' x)
      history := by
  have hkeeps := Obeys.of_onlyCalls (G := TreeGuard)
    (L := fun history' => Intact history' x ∧ trees.Held history' r op.self)
    (op.onlySelf t hasSanitizeEmvs).attempt (fun history' c hL hown _ y hy => ?_)
    (fun history' c a hL hown => ?_) ⟨hx, hself⟩
  · exact hkeeps.mono fun _ _ hL => hL.1
  · rw [hown.2 y hy]
    exact ⟨r, hL.2⟩
  · exact ⟨hL.1.later ((Scheme.Later.refl history').snoc fun r => passes_quiet hown.1 r a),
      hL.2.passes (passes_quiet hown.1 r a)⟩

theorem scan_kept (hx : Intact history x) :
    Obeys TreeGuard (treeStep t hasSanitizeEmvs x .scan) KeptScope history := by
  refine ⟨fun _ y hy => absurd hy List.not_mem_nil, fun raw => ?_⟩
  obtain ⟨value, errno⟩ := raw
  cases value with
  | none =>
    have hpasses (r : NvmeRoot) : trees.Passes r ⟨.nvmeScan, ⟨none, errno⟩⟩ := ⟨nofun, nofun⟩
    exact (hx.later ((Scheme.Later.refl history).snoc hpasses)).kept
  | some inner => exact fun hfresh => hx.opened rfl rfl (hfresh.opened rfl)

theorem drop_kept (hx : Intact history x) {i : ℕ} {root : Root} (hroot : x.roots[i]? = some root) :
    Obeys TreeGuard (root.drop >>= fun _ => .ret (x.without i root.inner)) KeptScope history := by
  refine ⟨fun _ y hy => ⟨root.inner, ?_⟩, fun r => (hx.closed hroot rfl rfl).kept⟩
  rw [List.mem_singleton.mp hy]
  exact Scheme.held_top (hx.held_root hroot)

theorem defaultHost_kept (hx : Intact history x) (i : ℕ) :
    Obeys TreeGuard (treeStep t hasSanitizeEmvs x (.defaultHost i)) KeptScope history := by
  rw [treeStep]
  cases hroot : x.roots[i]? with
  | none => exact hx.kept
  | some root =>
    have htop : trees.Held history root.inner (.root root.inner) :=
      Scheme.held_top (hx.held_root hroot)
    refine ⟨fun _ y hy => ⟨root.inner, ?_⟩, fun raw => ?_⟩
    · rw [List.mem_singleton.mp hy]
      exact htop
    · have hpasses (r : NvmeRoot) : trees.Passes r ⟨.nvmeDefaultHost root.inner, raw⟩ :=
        ⟨nofun, nofun⟩
      have hkept := hx.later ((Scheme.Later.refl history).snoc hpasses)
      obtain ⟨value, errno⟩ := raw
      cases value with
      | none => exact hkept.kept
      | some ptr => exact (hkept.hold (htop.given (hpasses _) ⟨rfl, ptr, rfl, rfl⟩)).kept

theorem next_kept (hx : Intact history x) {j : ℕ} {r : NvmeRoot} {k : Link} {it : Cursor k}
    (hit : x.iters[j]? = some ⟨r, ⟨k, it⟩⟩) :
    Obeys TreeGuard (it.next.tree >>= fun y => .ret (x.yield_ j r y.1 y.2)) KeptScope history := by
  rw [obeys_bind]
  refine (obeys_tree (cursor_next_obeys (hx.iters _ (List.mem_of_getElem? hit)))).mono
    fun history' y hy => ?_
  exact ((hx.later hy.1).yield_ j hy.2.1 hy.2.2).kept

theorem iterate_kept (hx : Intact history x) {r : NvmeRoot} {k : Link} {parent : k.Parent}
    (hparent : trees.Held history r (k.parentRef parent)) :
    Obeys TreeGuard ((Cursor.new k parent).tree >>= fun it => .ret (x.iterate r it))
      KeptScope history := by
  rw [obeys_bind]
  refine (obeys_tree (cursor_new_obeys hparent)).mono fun history' it hit => ?_
  exact ((hx.later hit.1).iterate hit.2).kept

theorem treeStep_kept (hx : Intact history x) (a : TreeAction) :
    Obeys TreeGuard (treeStep t hasSanitizeEmvs x a) KeptScope history := by
  cases a with
  | scan => exact scan_kept hx
  | drop i =>
    rw [treeStep]
    cases hroot : x.roots[i]? with
    | none => exact hx.kept
    | some root => exact drop_kept hx hroot
  | hosts i =>
    rw [treeStep]
    cases hroot : x.roots[i]? with
    | none => exact hx.kept
    | some root => exact iterate_kept (k := .host) hx (Scheme.held_top (hx.held_root hroot))
  | defaultHost i => exact defaultHost_kept hx i
  | lookupHost i hostnqn hostid =>
    rw [treeStep]
    cases hroot : x.roots[i]? with
    | none => exact hx.kept
    | some root =>
      dsimp only
      rw [obeys_bind]
      refine (attempt_kept hx (lookupHost_obeys (hx.held_root hroot) hostnqn hostid)).mono
        fun history' y hy => ?_
      cases y with
      | ok host => exact (hy.1.hold (hy.2 host rfl)).kept
      | error e => exact hy.1.kept
  | children j k parent =>
    rw [treeStep]
    cases hb : x.borrows[j]? with
    | none => exact hx.kept
    | some b =>
      have hheld := hx.borrows b (List.mem_of_getElem? hb)
      dsimp only
      split
      next hself => exact iterate_kept hx (hself ▸ hheld)
      next => exact hx.kept
  | next j =>
    rw [treeStep]
    cases hv : x.iters[j]? with
    | none => exact hx.kept
    | some v => exact next_kept hx hv
  | connect j b =>
    rw [treeStep]
    cases hw : x.borrows[j]? with
    | none => exact hx.kept
    | some w =>
      have hheld := hx.borrows w (List.mem_of_getElem? hw)
      dsimp only
      split
      next hself =>
        rw [hself.1, hself.2] at hheld
        rw [hself.2, obeys_bind]
        refine (attempt_kept hx (connect_obeys hheld.alive hheld)).mono fun history' y hy => ?_
        cases y with
        | ok ctrl => exact (hy.1.hold (hy.2 ctrl rfl)).kept
        | error e => exact hy.1.kept
      next => exact hx.kept
  | use j op =>
    rw [treeStep]
    cases hb : x.borrows[j]? with
    | none => exact hx.kept
    | some b =>
      have hheld := hx.borrows b (List.mem_of_getElem? hb)
      dsimp only
      split
      next hself =>
        rw [obeys_bind]
        exact (use_kept hx (hself ▸ hheld)).mono fun history' y hy => hy.kept
      next => exact hx.kept

end Steps

theorem session_kept (t : Target) (hasSanitizeEmvs : Bool) (l : List TreeAction) :
    Obeys TreeGuard (session (treeStep t hasSanitizeEmvs) l {}) KeptScope [] := by
  refine obeys_session (fun history x a hx => ?_) l fun _ => intact_empty
  by_cases hfresh : trees.Fresh history
  · exact treeStep_kept (hx hfresh) a
  · exact obeys_stale hfresh

theorem not_gives_root {ev : TreeEvent} {x : Ref} {r : NvmeRoot} : ¬Gives ev x (.root r) := by
  have hchild (k : Link) (child : k.Child) : Ref.root r ≠ k.childRef child := by cases k <;> nofun
  obtain ⟨c, a⟩ := ev
  cases c with
  | admin c =>
    cases c with
    | lib c =>
      cases c with
      | nvmeFirst k parent | nvmeNext k parent current =>
        rintro ⟨-, child, -, hy⟩
        exact hchild k child hy
      | nvmeLookupHost | nvmeCreateCtrl =>
        rintro ⟨-, ptr, -, hy⟩
        cases hy
      | _ => exact id
    | _ => exact id
  | nvmeDefaultHost r' =>
    rintro ⟨-, ptr, -, hy⟩
    cases hy
  | _ => exact id

theorem eq_of_held_root {history : TreeHistory} {r r' : NvmeRoot}
    (hheld : trees.Held history r' (.root r)) : r = r' := by
  obtain ⟨seg, -, hderived⟩ := hheld
  generalize hx : Ref.root r = x at hderived
  cases hderived with
  | top => exact Ref.root.inj hx
  | @step y _ ev hy hev hgives =>
    subst hx
    exact (not_gives_root hgives).elim

/-- If libnvme builds no tree where one stands, every pointer a session hands it is held in
a tree that is open, and what is open when the session ends is what is still in scope. -/
theorem trees_outlive_handles (t : Target) (hasSanitizeEmvs : Bool) (l : List TreeAction)
    {σ : Type} (h : Handler TreeCall TreeAnswer σ) (s : σ)
    (hfresh : trees.Fresh ((session (treeStep t hasSanitizeEmvs) l {}).run h s).trace) :
    (∀ before c a after,
      ((session (treeStep t hasSanitizeEmvs) l {}).run h s).trace = before ++ ⟨c, a⟩ :: after →
        (∀ x ∈ c.refs, ∃ r, trees.Held before r x) ∧
        ∀ r, c = .nvmeFreeTree r → trees.Alive r before) ∧
    ∀ x, ((session (treeStep t hasSanitizeEmvs) l {}).run h s).exit = .ok x → ∀ r,
      trees.Alive r ((session (treeStep t hasSanitizeEmvs) l {}).run h s).trace ↔
        r ∈ x.roots.map Root.inner := by
  obtain ⟨hcalls, hvalue⟩ := (session_kept t hasSanitizeEmvs l).run h s
  refine ⟨fun before c a after htrace => ?_, fun x hx => (hvalue x hx hfresh).alive⟩
  have hguard : ∀ x ∈ c.refs, ∃ r, trees.Held before r x :=
    hcalls before c a after htrace (Scheme.Fresh.before (htrace ▸ hfresh))
  refine ⟨hguard, ?_⟩
  rintro r rfl
  obtain ⟨r', hheld⟩ := hguard (.root r) (List.mem_singleton.mpr rfl)
  rw [eq_of_held_root hheld]
  exact hheld.alive

def numberedTrees : Handler TreeCall TreeAnswer ℕ := fun c n =>
  match c with
  | .nvmeScan => (⟨some n, 0⟩, n + 1)
  | .nvmeDefaultHost r => (⟨some (r + 100), 0⟩, n)
  | .lib (.nvmeFirst .subsystem host) => (some (host + 100), n)
  | c => (c.zero, n)

def twoTrees : List TreeAction :=
  [.scan, .scan, .defaultHost 1, .use 0 (.hostText 101 .hostnqn), .children 0 .subsystem 101,
    .next 0, .use 1 (.subsystemText 201 .nqn), .drop 0, .defaultHost 0, .drop 0, .next 0]

theorem trees_outlive_handles_numbered :
    (∀ before c a after,
      ((session (treeStep littleHost true) twoTrees {}).run numberedTrees 0).trace =
        before ++ ⟨c, a⟩ :: after →
          (∀ x ∈ c.refs, ∃ r, trees.Held before r x) ∧
          ∀ r, c = .nvmeFreeTree r → trees.Alive r before) ∧
    ∀ x, ((session (treeStep littleHost true) twoTrees {}).run numberedTrees 0).exit = .ok x → ∀ r,
      trees.Alive r ((session (treeStep littleHost true) twoTrees {}).run numberedTrees 0).trace ↔
        r ∈ x.roots.map Root.inner :=
  trees_outlive_handles littleHost true twoTrees numberedTrees 0 (by decide +kernel)

end LibnvmeRs
