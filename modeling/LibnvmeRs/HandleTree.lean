import LibnvmeRs.Cursors
import LibnvmeRs.Fabrics
import LibnvmeRs.Controller
import LibnvmeRs.Sessions

/-!
# Walking the handle tree

The five iterators of the crate fetch their first child when they are made and
the child after the current one before they hand the current one out. libnvme is
taken to enumerate the child lists of a tree; nothing is assumed of its other
calls, which may come between any two steps.
-/

namespace LibnvmeRs

open Interaction Program Cursors Sessions

abbrev Subsystem := NvmeSubsystem

namespace Link

@[reducible] def Item : Link → Type
  | .host => Host
  | .subsystem => Subsystem
  | .ctrl => Controller
  | .ns => Namespace
  | .path => NvmePath

def fromRaw : (k : Link) → k.Parent → k.Child → k.Item
  | .host, root, ptr => { root := root, ptr := ptr }
  | .subsystem, _, raw => raw
  | .ctrl, _, raw => raw
  | .ns, _, raw => raw
  | .path, _, raw => raw

end Link

structure Cursor (k : Link) where
  parent : k.Parent
  cursor : Option k.Child

namespace Cursor
variable {k : Link}

def new (k : Link) (parent : k.Parent) : Ffi (Cursor k) := do
  let cursor ← ask (Call.nvmeFirst k parent)
  return { parent := parent, cursor := cursor }

def next (it : Cursor k) : Ffi (Option k.Item × Cursor k) :=
  match it.cursor with
  | none => return (none, it)
  | some current => do
    let cursor ← ask (Call.nvmeNext k it.parent current)
    return (some (k.fromRaw it.parent current), { it with cursor := cursor })

end Cursor

abbrev Hosts := Cursor .host
def Hosts.new : NvmeRoot → Ffi Hosts := Cursor.new .host
def Hosts.next : Hosts → Ffi (Option Host × Hosts) := Cursor.next
def Root.hosts (r : Root) : Ffi Hosts := Hosts.new r.inner

abbrev Subsystems := Cursor .subsystem
def Subsystems.new : NvmeHost → Ffi Subsystems := Cursor.new .subsystem
def Subsystems.next : Subsystems → Ffi (Option Subsystem × Subsystems) := Cursor.next
def Host.subsystems (h : Host) : Ffi Subsystems := Subsystems.new h.ptr

abbrev Controllers := Cursor .ctrl
def Controllers.new : NvmeSubsystem → Ffi Controllers := Cursor.new .ctrl
def Controllers.next : Controllers → Ffi (Option Controller × Controllers) := Cursor.next
def Subsystem.controllers (s : Subsystem) : Ffi Controllers := Controllers.new s

abbrev Namespaces := Cursor .ns
def Namespaces.new : NvmeCtrl → Ffi Namespaces := Cursor.new .ns
def Namespaces.next : Namespaces → Ffi (Option Namespace × Namespaces) := Cursor.next
def Controller.namespaces (c : Controller) : Ffi Namespaces := Namespaces.new c

abbrev Paths := Cursor .path
def Paths.fromController (c : NvmeCtrl) : Ffi Paths := Cursor.new .path (.controller c)
def Paths.fromNamespace (n : NvmeNs) : Ffi Paths := Cursor.new .path (.namespace n)
def Paths.next : Paths → Ffi (Option NvmePath × Paths) := Cursor.next
def Controller.paths (c : Controller) : Ffi Paths := Paths.fromController c
def Namespace.paths (n : Namespace) : Ffi Paths := Paths.fromNamespace n

structure Tree where
  children : (k : Link) → k.Parent → List k.Child
  nodup : ∀ k parent, (children k parent).Nodup

namespace Tree

/-- The answer is the one the tree gives; other calls are free. -/
def Answers (T : Tree) : Event Call Answer → Prop
  | ⟨.nvmeFirst k parent, r⟩ => r = (T.children k parent).head?
  | ⟨.nvmeNext k parent current, r⟩ =>
    current ∈ T.children k parent → r = after (T.children k parent) current
  | _ => True

def items (T : Tree) (k : Link) (parent : k.Parent) : List k.Item :=
  (T.children k parent).map (k.fromRaw parent)

end Tree

section Library
variable {T : Tree} {σ : Type} {h : Handler Call Answer σ} (hT : ∀ c s, T.Answers ⟨c, (h c s).1⟩)
variable {k : Link}

def Cursor.StandsAt (T : Tree) (parent : k.Parent) (it : Cursor k) (n : ℕ) : Prop :=
  it.parent = parent ∧ it.cursor = (T.children k parent)[n]?

theorem Cursor.standsAt_first (parent : k.Parent) :
    Cursor.StandsAt T parent ⟨parent, (T.children k parent)[0]?⟩ 0 := ⟨rfl, rfl⟩

include hT

theorem Cursor.new_returns (parent : k.Parent) :
    (Cursor.new k parent).Returns h ⟨parent, (T.children k parent)[0]?⟩ := by
  intro s
  have hfirst : (h (.nvmeFirst k parent) s).1 = (T.children k parent).head? :=
    hT (.nvmeFirst k parent) s
  rw [List.head?_eq_getElem?] at hfirst
  rw [← hfirst]
  rfl

theorem Cursor.next_returns {parent : k.Parent} {it : Cursor k} {n : ℕ}
    (hit : it.StandsAt T parent n) :
    ∃ rest, it.next.Returns h ((T.items k parent)[n]?, rest) ∧ rest.StandsAt T parent (n + 1) := by
  obtain ⟨rfl, hcursor⟩ := hit
  by_cases hn : n < (T.children k it.parent).length
  · rw [List.getElem?_eq_getElem hn] at hcursor
    refine ⟨⟨it.parent, (T.children k it.parent)[n + 1]?⟩, fun s => ?_, rfl, rfl⟩
    have hnext : (h (.nvmeNext k it.parent (T.children k it.parent)[n]) s).1 =
        (T.children k it.parent)[n + 1]? := by
      have hanswer := hT (.nvmeNext k it.parent (T.children k it.parent)[n]) s
      rw [← after_getElem (T.nodup k it.parent) hn]
      exact hanswer (List.getElem_mem hn)
    rw [Tree.items, List.getElem?_map, List.getElem?_eq_getElem hn, ← hnext, Cursor.next, hcursor]
    rfl
  · have hend : (T.children k it.parent).length ≤ n := by omega
    rw [List.getElem?_eq_none hend] at hcursor
    refine ⟨it, fun s => ?_, rfl, ?_⟩
    · rw [Tree.items, List.getElem?_map, List.getElem?_eq_none hend, Cursor.next, hcursor]
      rfl
    · rw [hcursor, List.getElem?_eq_none (by omega)]

end Library

structure Live where
  link : Link
  it : Cursor link
  yielded : List (Option link.Item)

def Live.origin (v : Live) : Σ k : Link, k.Parent := ⟨v.link, v.it.parent⟩

inductive WalkAction where
  | start (k : Link) (parent : k.Parent)
  | next (i : ℕ)
  | other (c : Call)

def WalkAction.origin? : WalkAction → Option (Σ k : Link, k.Parent)
  | .start k parent => some ⟨k, parent⟩
  | .next _ | .other _ => none

def Live.advance (v : Live) (item : Option v.link.Item) (it : Cursor v.link) : Live :=
  { link := v.link, it := it, yielded := v.yielded ++ [item] }

def walkStep (live : List Live) : WalkAction → Ffi (List Live)
  | .start k parent => do
    let it ← Cursor.new k parent
    return live ++ [{ link := k, it := it, yielded := [] }]
  | .next i =>
    match live[i]? with
    | none => return live
    | some v => do
      let (item, it) ← v.it.next
      return live.set i (v.advance item it)
  | .other c => do
    let _ ← ask c
    return live

/-- The iterator has yielded the children of its own parent, as far as it got. -/
structure Live.Faithful (T : Tree) (v : Live) : Prop where
  stands : v.it.StandsAt T v.it.parent v.yielded.length
  yields : Yields (T.items v.link v.it.parent) v.yielded

theorem Live.Faithful.advance {T : Tree} {v : Live} (hv : v.Faithful T) {rest : Cursor v.link}
    (hrest : rest.StandsAt T v.it.parent (v.yielded.length + 1)) :
    (v.advance (T.items v.link v.it.parent)[v.yielded.length]? rest).Faithful T ∧
      (v.advance (T.items v.link v.it.parent)[v.yielded.length]? rest).origin = v.origin := by
  obtain ⟨parent, cursor⟩ := rest
  obtain ⟨rfl, hcursor⟩ := hrest
  refine ⟨⟨⟨rfl, ?_⟩, hv.yields.snoc⟩, rfl⟩
  rw [Live.advance, List.length_append, List.length_singleton]
  exact hcursor

structure Walked (T : Tree) (done : List WalkAction) (live : List Live) : Prop where
  origins : live.map Live.origin = done.filterMap WalkAction.origin?
  faithful : ∀ v ∈ live, v.Faithful T

section Library
variable {T : Tree} {σ : Type} {h : Handler Call Answer σ} (hT : ∀ c s, T.Answers ⟨c, (h c s).1⟩)

include hT

theorem walkStep_start {done : List WalkAction} {live : List Live} (k : Link) (parent : k.Parent)
    (hlive : Walked T done live) :
    ∃ live', (walkStep live (.start k parent)).Returns h live' ∧
      Walked T (done ++ [.start k parent]) live' := by
  have hnew := Cursor.new_returns hT parent
  refine ⟨_, hnew.bind (returns_ret h _), ?_, ?_⟩
  · rw [List.map_append, List.filterMap_append, hlive.origins]
    rfl
  · intro v hv
    rcases List.mem_append.mp hv with hv | hv
    · exact hlive.faithful v hv
    · obtain rfl := List.mem_singleton.mp hv
      exact ⟨⟨rfl, rfl⟩, yields_nil _⟩

theorem walkStep_next {done : List WalkAction} {live : List Live} (i : ℕ)
    (hlive : Walked T done live) :
    ∃ live', (walkStep live (.next i)).Returns h live' ∧ Walked T (done ++ [.next i]) live' := by
  have hdone : (done ++ [WalkAction.next i]).filterMap WalkAction.origin? =
      done.filterMap WalkAction.origin? := by
    rw [List.filterMap_append]
    exact List.append_nil _
  cases hi : live[i]? with
  | none =>
    refine ⟨live, ?_, ?_, hlive.faithful⟩
    · rw [walkStep, hi]
      exact returns_ret h live
    · rw [hdone, hlive.origins]
  | some v =>
    have hv := hlive.faithful v (List.mem_of_getElem? hi)
    obtain ⟨rest, hnext, hrest⟩ := Cursor.next_returns hT hv.stands
    obtain ⟨hfaithful, horigin⟩ := hv.advance hrest
    obtain ⟨hlt, hget⟩ := List.getElem?_eq_some_iff.mp hi
    generalize (T.items v.link v.it.parent)[v.yielded.length]? = item at hnext hfaithful horigin
    refine ⟨live.set i (v.advance item rest), ?_, ?_, fun w hw => ?_⟩
    · rw [walkStep, hi]
      exact hnext.bind (returns_ret h _)
    · have hmap : i < (live.map Live.origin).length := by rwa [List.length_map]
      have hself : v.origin = (live.map Live.origin)[i] := by rw [List.getElem_map, hget]
      rw [hdone, ← hlive.origins, List.map_set, horigin, hself, List.set_getElem_self hmap]
    · rcases List.mem_or_eq_of_mem_set hw with hw | rfl
      · exact hlive.faithful w hw
      · exact hfaithful

theorem walkStep_walked {done : List WalkAction} {live : List Live} (a : WalkAction)
    (hlive : Walked T done live) :
    ∃ live', (walkStep live a).Returns h live' ∧ Walked T (done ++ [a]) live' := by
  cases a with
  | start k parent => exact walkStep_start hT k parent hlive
  | next i => exact walkStep_next hT i hlive
  | other c =>
    refine ⟨live, fun s => rfl, ?_, hlive.faithful⟩
    rw [List.filterMap_append, hlive.origins]
    exact (List.append_nil _).symm

theorem walk_interleaved (l : List WalkAction) (s : σ) :
    ∃ live, ((session walkStep l []).run h s).exit = .ok live ∧ Walked T l live := by
  have hstart : Walked T [] [] := ⟨rfl, by simp⟩
  refine session_returns (fun done live a s hlive => ?_) l hstart s
  obtain ⟨live', hreturns, hwalked⟩ := walkStep_walked hT a hlive
  exact ⟨live', hreturns s, hwalked⟩

end Library

abbrev Visit := Host × Subsystem × Controller × Namespace

/-- The four nested loops of the README, with what is seen innermost. -/
def Root.walk (r : Root) (fuel : ℕ) : Ffi (List Visit) := do
  let hosts ← r.hosts
  forEach Hosts.next (fun host seen => do
    let subsystems ← host.subsystems
    forEach Subsystems.next (fun subsys seen => do
      let controllers ← Subsystem.controllers subsys
      forEach Controllers.next (fun ctrl seen => do
        let namespaces ← Controller.namespaces ctrl
        forEach Namespaces.next (fun ns seen => return seen ++ [(host, subsys, ctrl, ns)])
          fuel namespaces seen) fuel controllers seen) fuel subsystems seen) fuel hosts []

def Tree.visits (T : Tree) (r : Root) : List Visit :=
  (T.items .host r.inner).flatMap fun host : Host =>
    (T.items .subsystem host.ptr).flatMap fun subsys =>
      (T.items .ctrl subsys).flatMap fun ctrl =>
        (T.items .ns ctrl).flatMap fun ns => [(host, subsys, ctrl, ns)]

section Library
variable {T : Tree} {σ : Type} {h : Handler Call Answer σ} (hT : ∀ c s, T.Answers ⟨c, (h c s).1⟩)

include hT

theorem forEach_collects {α : Type} (k : Link) (parent : k.Parent)
    {body : ℕ → k.Item → List α → Ffi (List α)} {f : k.Item → List α}
    (hbody : ∀ a ∈ T.items k parent, ∃ N, ∀ fuel ≥ N, ∀ seen,
      (body fuel a seen).Returns h (seen ++ f a)) :
    ∃ N, ∀ fuel ≥ N, ∀ seen,
      (Cursor.new k parent >>= fun it => forEach Cursor.next (body fuel) fuel it seen).Returns h
        (seen ++ (T.items k parent).flatMap f) := by
  obtain ⟨N, hN⟩ := forEach_settles (fun it n hit => Cursor.next_returns hT hit) hbody
    (Cursor.standsAt_first parent)
  refine ⟨N, fun fuel hfuel seen => (Cursor.new_returns hT parent).bind ?_⟩
  have hloop := hN fuel hfuel seen
  rwa [List.foldl_append_eq_append, ← List.flatMap_def] at hloop

theorem Root.walk_returns (r : Root) :
    ∃ N, ∀ fuel ≥ N, (r.walk fuel).Returns h (T.visits r) := by
  obtain ⟨N, hN⟩ := forEach_collects hT .host r.inner fun host _ =>
    forEach_collects hT .subsystem host.ptr fun subsys _ =>
      forEach_collects hT .ctrl subsys fun ctrl _ =>
        forEach_collects hT .ns ctrl fun ns _ =>
          ⟨0, fun _ _ seen => returns_ret h (seen ++ [((host, subsys, ctrl, ns) : Visit)])⟩
  exact ⟨N, fun fuel hfuel => hN fuel hfuel []⟩

end Library

/-- Every iterator yields the children of its parent in order and then nothing, however
the iterators are interleaved; the nested walk visits the whole tree once. -/
theorem handle_tree_walk (T : Tree) {σ : Type} (h : Handler Call Answer σ)
    (hT : ∀ c s, T.Answers ⟨c, (h c s).1⟩) :
    (∀ (l : List WalkAction) (s : σ),
      ∃ live, ((session walkStep l []).run h s).exit = .ok live ∧ Walked T l live) ∧
    ∀ r : Root, ∃ N, ∀ fuel ≥ N, (r.walk fuel).Returns h (T.visits r) :=
  ⟨walk_interleaved hT, Root.walk_returns hT⟩

def Tree.library (T : Tree) : Handler Call Answer Unit := fun c s =>
  (match c with
    | .nvmeFirst k parent => (T.children k parent).head?
    | .nvmeNext k parent current => after (T.children k parent) current
    | c => c.reply.zero, s)

theorem Tree.library_answers (T : Tree) (c : Call) (s : Unit) :
    T.Answers ⟨c, (T.library c s).1⟩ := by
  cases c with
  | nvmeFirst k parent => exact rfl
  | nvmeNext k parent current => exact fun _ => rfl
  | _ => trivial

def twoHosts : Tree where
  children
    | .host, _ => [1, 2]
    | .subsystem, host => if host = 1 then [5] else []
    | .ctrl, _ => [7, 8]
    | .ns, ctrl => if ctrl = 7 then [blockNs] else []
    | .path, _ => []
  nodup := by
    intro k parent
    cases k with
    | host | ctrl | path => simp
    | subsystem | ns =>
      dsimp only
      split <;> simp

theorem handle_tree_walk_two_hosts :
    (∃ live, ((session walkStep [.start .host 0, .start .ctrl 5, .next 0, .next 1] []).run
        twoHosts.library ()).exit = .ok live ∧
      Walked twoHosts [.start .host 0, .start .ctrl 5, .next 0, .next 1] live) ∧
    ∃ N, ∀ fuel ≥ N, (Root.walk ⟨0⟩ fuel).Returns twoHosts.library [(⟨0, 1⟩, 5, 7, blockNs)] := by
  obtain ⟨hsession, hwalk⟩ := handle_tree_walk twoHosts twoHosts.library twoHosts.library_answers
  exact ⟨hsession _ (), hwalk ⟨0⟩⟩

end LibnvmeRs
