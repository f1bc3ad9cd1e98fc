import LibnvmeRs.DiscoveryLog
import LibnvmeRs.Ledger
import LibnvmeRs.Sessions

/-!
# Ownership of what libnvme hands over

Two kinds of resources pass from libnvme to the crate: the controller object that
Connect creates, which nobody frees until it is added to the tree, and the
allocations behind strings and discovery logs. A trace of calls is read as a
ledger of acquisitions and releases; replaying it tells what is still out.
-/

namespace LibnvmeRs

open Interaction Program Ledger Sessions

/-- What a call does to the controller objects that are in no tree: one is created,
added to a tree, or freed. -/
def ctrlEntry : Event Call Answer → Option (Entry NvmeCtrl)
  | ⟨.nvmeCreateCtrl _, r⟩ => r.value.map .acquire
  | ⟨.nvmfAddCtrl _ c _, r⟩ => if r.ret = 0 then some (.release c) else none
  | ⟨.nvmeFreeCtrl c, _⟩ => some (.release c)
  | _ => none

def ctrlEntries (trace : List (Event Call Answer)) : List (Entry NvmeCtrl) :=
  trace.filterMap ctrlEntry

def addReturn? : Event Call Answer → Option I32
  | ⟨.nvmfAddCtrl .., r⟩ => some r.ret
  | _ => none

def addReturns (trace : List (Event Call Answer)) : List I32 := trace.filterMap addReturn?

def AddsOnly (c : NvmeCtrl) (trace : List (Event Call Answer)) (x : Exit Error NvmeCtrl) : Prop :=
  ∃ ret : I32, addReturns trace = [ret] ∧
    (ctrlEntries trace = if ret = 0 then [.release c] else []) ∧
    ∀ c', x = .ok c' → c' = c ∧ ret = 0

theorem AddsOnly.cons {c : NvmeCtrl} {trace : List (Event Call Answer)} {ev : Event Call Answer}
    {x : Exit Error NvmeCtrl} (hev : ctrlEntry ev = none) (hret : addReturn? ev = none)
    (h : AddsOnly c trace x) : AddsOnly c (ev :: trace) x := by
  obtain ⟨ret, hreturns, hentries, hexit⟩ := h
  refine ⟨ret, ?_, ?_, hexit⟩
  · rw [addReturns, List.filterMap_cons_none hret]
    exact hreturns
  · rw [ctrlEntries, List.filterMap_cons_none hev]
    exact hentries

theorem ctrlEntries_add (host : NvmeHost) (c : NvmeCtrl) (cfg : NvmeFabricsConfig) (r : CRet) :
    ctrlEntries [⟨.nvmfAddCtrl host c cfg, r⟩] = if r.ret = 0 then [.release c] else [] := by
  have hentry : ctrlEntry ⟨.nvmfAddCtrl host c cfg, r⟩ =
      if r.ret = 0 then some (.release c) else none := rfl
  by_cases hret : r.ret = 0
  · rw [if_pos hret] at hentry
    rw [ctrlEntries, List.filterMap_cons_some hentry, if_pos hret, List.filterMap_nil]
  · rw [if_neg hret] at hentry
    rw [ctrlEntries, List.filterMap_cons_none hentry, if_neg hret, List.filterMap_nil]

namespace Connect

theorem addCtrl_addsOnly (t : Target) (b : Connect) (args : NvmeCreateCtrl) (ctrl : NvmeCtrl) :
    (b.addCtrl t args ctrl).Ensures (AddsOnly ctrl) := by
  refine addCtrl_ensures ?_ ?_ ?_ fun cfg r x hx => ?_
  · exact fun _ _ _ => AddsOnly.cons rfl rfl
  · exact fun _ _ _ => AddsOnly.cons rfl rfl
  · exact fun _ _ _ => AddsOnly.cons rfl rfl
  · exact AddsOnly.cons rfl rfl ⟨r.ret, rfl, ctrlEntries_add _ _ _ _, hx⟩

def CreatesOne (trace : List (Event Call Answer)) (x : Exit Error NvmeCtrl) : Prop :=
  (addReturns trace = [] ∧ ctrlEntries trace = [] ∧ ∀ c, x ≠ .ok c) ∨
    ∃ c ret, addReturns trace = [ret] ∧
      (ctrlEntries trace = .acquire c :: if ret = 0 then [.release c] else []) ∧
      ∀ c', x = .ok c' → c' = c ∧ ret = 0

theorem execute_createsOne (t : Target) (b : Connect) : (b.execute t).Ensures CreatesOne := by
  have hentry : ∀ args r,
      ctrlEntry ⟨.nvmeCreateCtrl args, r⟩ = r.value.map .acquire := fun _ _ => rfl
  refine execute_ensures ?_ ?_ ?_
  · intro e _
    exact Or.inl ⟨rfl, rfl, by simp⟩
  · intro args r _ hr
    refine Or.inl ⟨rfl, ?_, by simp⟩
    rw [ctrlEntries, List.filterMap_cons_none ((hentry args r).trans (by rw [hr, Option.map_none])),
      List.filterMap_nil]
  · intro args r ctrl _ hr
    refine (b.addCtrl_addsOnly t args ctrl).mono ?_
    rintro trace x ⟨ret, hreturns, hentries, hexit⟩
    refine Or.inr ⟨ctrl, ret, hreturns, ?_, hexit⟩
    rw [ctrlEntries, List.filterMap_cons_some ((hentry args r).trans (by rw [hr, Option.map_some]))]
    exact congrArg (_ :: ·) hentries

/-- The controllers that nobody owns are the same as before, and one that is
returned has been added to the tree. -/
def Accounted (before : Finset NvmeCtrl) (trace : List (Event Call Answer))
    (x : Exit Error NvmeCtrl) : Prop :=
  replay before (ctrlEntries trace) = some before ∧
    ∀ c, x = .ok c → ctrlEntries trace = [.acquire c, .release c]

end Connect

/-- A failed Connect keeps the controller it created, unless adding it succeeded. -/
theorem connect_accounted_iff (t : Target) (b : Connect) {σ : Type} (h : Handler Call Answer σ)
    (s : σ) (before : Finset NvmeCtrl)
    (hfresh : Fresh before (ctrlEntries ((b.execute t).run h s).trace)) :
    Connect.Accounted before ((b.execute t).run h s).trace ((b.execute t).run h s).exit ↔
      ∀ ret ∈ addReturns ((b.execute t).run h s).trace, ret = 0 := by
  rw [Connect.Accounted]
  rcases (b.execute_createsOne t).run h s with
    ⟨hreturns, hentries, hexit⟩ | ⟨c, ret, hreturns, hentries, hexit⟩
  · rw [hreturns, hentries]
    exact iff_of_true ⟨rfl, fun c hc => (hexit c hc).elim⟩ (by simp)
  · rw [hentries] at hfresh ⊢
    rw [hreturns]
    have hc : c ∉ before := hfresh.1
    by_cases hret : ret = 0
    · simp only [if_pos hret]
      refine iff_of_true ⟨replay_acquire_release hc, fun c' hc' => ?_⟩ (by simpa using hret)
      rw [(hexit c' hc').1]
    · simp only [if_neg hret]
      refine iff_of_false ?_ (by simpa using hret)
      rintro ⟨hreplay, -⟩
      rw [replay, apply_acquire hc, Option.bind_some, replay, Option.some.injEq] at hreplay
      exact hc (hreplay ▸ Finset.mem_insert_self c before)

def tcpConnect : Connect where
  host := ⟨0, 1⟩
  transport := ⟨[0x74, 0x63, 0x70], rfl⟩
  subsysnqn := ⟨[0x6E], rfl⟩

def answersAdd (ret : I32) : Handler Call Answer Unit := fun c s =>
  (match c with
    | .nvmeCreateCtrl _ => ⟨some 7, 0⟩
    | .nvmfAddCtrl .. => ⟨ret, 111⟩
    | c => c.reply.zero, s)

theorem connect_accounted_reachable :
    let o := (tcpConnect.execute littleHost).run (answersAdd 0) ()
    Connect.Accounted ∅ o.trace o.exit ↔ ∀ ret ∈ addReturns o.trace, ret = 0 :=
  connect_accounted_iff littleHost tcpConnect (answersAdd 0) () ∅ (by decide)

theorem connect_unreachable_leaks :
    let o := (tcpConnect.execute littleHost).run (answersAdd (-1)) ()
    o.exit = .error (.os (.raw 111)) ∧ ctrlEntries o.trace = [.acquire 7] ∧
      ¬Connect.Accounted ∅ o.trace o.exit := by
  refine ⟨by decide, by decide, fun h => ?_⟩
  exact absurd h.1 (by decide)

/-- The bytes are copied and the original freed before they are looked at. -/
def takeOwnedCstr (ptr : OwnedText) : Ffi Str :=
  match ptr.value with
  | none => .fail (.os (.raw ptr.errno))
  | some (p, text) => do
    ask (Call.free (some p))
    utf8OrError text.bytes

def hostText (which : HostText) : Ffi Str := do
  let raw ← ask (Call.nvmfHostText which)
  takeOwnedCstr raw

def generateHostnqn : Ffi Str := hostText .nvmfHostnqnGenerate
def generateHostid : Ffi Str := hostText .nvmfHostidGenerate
def hostnqnFromFile : Ffi Str := hostText .nvmfHostnqnFromFile
def hostidFromFile : Ffi Str := hostText .nvmfHostidFromFile

def DiscoveryLog.drop (log : DiscoveryLog) : Ffi Unit := ask (Call.free (some log.inner))

inductive MemoryAction where
  | generateHostnqn
  | generateHostid
  | hostnqnFromFile
  | hostidFromFile
  | discoveryLog (c : Controller) (maxRetries : I32)
  | drop (i : ℕ)

def keeping (live : List DiscoveryLog) (p : Ffi Str) : Ffi (List DiscoveryLog) := do
  let _ ← p.attempt
  return live

def memoryStep (live : List DiscoveryLog) : MemoryAction → Ffi (List DiscoveryLog)
  | .generateHostnqn => keeping live generateHostnqn
  | .generateHostid => keeping live generateHostid
  | .hostnqnFromFile => keeping live hostnqnFromFile
  | .hostidFromFile => keeping live hostidFromFile
  | .discoveryLog c maxRetries => do
    match ← (c.discoveryLog maxRetries).attempt with
    | .ok log => return live ++ [log]
    | .error _ => return live
  | .drop i =>
    match live[i]? with
    | none => return live
    | some log => do
      log.drop
      return live.eraseIdx i

/-- An allocation changes hands as a pointer, `none` for NULL: an answer that holds one
acquires it, `free` releases what it is given. -/
def memoryEntry : Event Call Answer → Option (Entry (Option ℕ))
  | ⟨.nvmfHostText _, r⟩ => r.value.map fun p => .acquire (some p.1)
  | ⟨.nvmfGetDiscoveryLog .., r⟩ =>
    if r.cret.ret = 0 then r.logp.map fun p => .acquire (some p.1) else none
  | ⟨.free ptr, _⟩ => some (.release ptr)
  | _ => none

def memoryEntries (trace : List (Event Call Answer)) : List (Entry (Option ℕ)) :=
  trace.filterMap memoryEntry

def handles (live : List DiscoveryLog) : List (Option ℕ) := live.map fun log => some log.inner

def Balanced (live : List DiscoveryLog) (trace : List (Event Call Answer))
    (x : Exit Error (List DiscoveryLog)) : Prop :=
  ∃ live', x = .ok live' ∧
    ((handles live).Nodup → Fresh (handles live).toFinset (memoryEntries trace) →
      replay (handles live).toFinset (memoryEntries trace) = some (handles live').toFinset ∧
        (handles live').Nodup)

theorem balanced_idle {live : List DiscoveryLog} {trace : List (Event Call Answer)}
    (htrace : memoryEntries trace = []) : Balanced live trace (.ok live) := by
  refine ⟨live, rfl, fun hnodup _ => ⟨?_, hnodup⟩⟩
  rw [htrace, replay]

theorem balanced_text {live : List DiscoveryLog} {trace : List (Event Call Answer)} {p : ℕ}
    (htrace : memoryEntries trace = [.acquire (some p), .release (some p)]) :
    Balanced live trace (.ok live) := by
  refine ⟨live, rfl, fun hnodup hfresh => ⟨?_, hnodup⟩⟩
  rw [htrace] at hfresh ⊢
  exact replay_acquire_release hfresh.1

theorem balanced_log {live : List DiscoveryLog} {trace : List (Event Call Answer)}
    {log : DiscoveryLog} (htrace : memoryEntries trace = [.acquire (some log.inner)]) :
    Balanced live trace (.ok (live ++ [log])) := by
  refine ⟨_, rfl, fun hnodup hfresh => ?_⟩
  rw [htrace] at hfresh ⊢
  have hout : some log.inner ∉ handles live := fun hmem => hfresh.1 (List.mem_toFinset.mpr hmem)
  have hhandles : handles (live ++ [log]) = handles live ++ [some log.inner] := by simp [handles]
  rw [hhandles]
  refine ⟨replay_acquire_append hout, ?_⟩
  rw [← List.concat_eq_append]
  exact hnodup.concat hout

theorem balanced_drop {live : List DiscoveryLog} {trace : List (Event Call Answer)} {i : ℕ}
    {log : DiscoveryLog} (hi : live[i]? = some log)
    (htrace : memoryEntries trace = [.release (some log.inner)]) :
    Balanced live trace (.ok (live.eraseIdx i)) := by
  refine ⟨_, rfl, fun hnodup _ => ?_⟩
  obtain ⟨hlt, hget⟩ := List.getElem?_eq_some_iff.mp hi
  have hlen : i < (handles live).length := by simpa [handles] using hlt
  have hhandle : (handles live)[i] = some log.inner := by simp [handles, hget]
  have hhandles : handles (live.eraseIdx i) = (handles live).eraseIdx i :=
    (List.eraseIdx_map _ _ _).symm
  rw [htrace, hhandles, ← hhandle]
  exact ⟨replay_release_eraseIdx hnodup hlen, hnodup.sublist (List.eraseIdx_sublist _ _)⟩

theorem takeOwnedCstr_none {raw : OwnedText} (hraw : raw.value = none) :
    takeOwnedCstr raw = .fail (.os (.raw raw.errno)) := by
  rw [takeOwnedCstr, hraw]

theorem takeOwnedCstr_some {raw : OwnedText} {p : ℕ} {text : CString}
    (hraw : raw.value = some (p, text)) :
    takeOwnedCstr raw = .call (.free (some p)) fun _ => ofExcept (utf8OrError text.bytes) := by
  rw [takeOwnedCstr, hraw]
  rfl

theorem keeping_balanced (live : List DiscoveryLog) (which : HostText) :
    (keeping live (hostText which)).Ensures (Balanced live) := by
  intro raw
  change ((takeOwnedCstr raw).attempt >>= fun _ => Program.ret live).Ensures
    fun t x => Balanced live (⟨.nvmfHostText which, raw⟩ :: t) x
  have hentry : memoryEntry ⟨.nvmfHostText which, raw⟩ =
    raw.value.map fun p => .acquire (some p.1) := rfl
  cases hraw : raw.value with
  | none =>
    rw [hraw] at hentry
    rw [takeOwnedCstr_none hraw]
    exact balanced_idle (List.filterMap_cons_none hentry)
  | some p =>
    obtain ⟨p, text⟩ := p
    rw [hraw] at hentry
    rw [takeOwnedCstr_some hraw]
    intro _
    have htrace : memoryEntries [⟨.nvmfHostText which, raw⟩, ⟨.free (some p), ()⟩] =
        [.acquire (some p), .release (some p)] := List.filterMap_cons_some hentry
    cases utf8OrError text.bytes with
    | ok s => exact balanced_text htrace
    | error e => exact balanced_text htrace

def fetched (live : List DiscoveryLog) (r : LogAnswer) : List DiscoveryLog :=
  match checkRet r.cret, r.logp with
  | .ok _, some (inner, raw) => live ++ [{ inner := inner, raw := raw }]
  | _, _ => live

theorem memoryStep_discoveryLog (live : List DiscoveryLog) (c : Controller) (maxRetries : I32) :
    memoryStep live (.discoveryLog c maxRetries) =
      .call (.nvmfGetDiscoveryLog c maxRetries) fun r => .ret (fetched live r) := by
  simp only [memoryStep, Controller.discoveryLog, fetchDiscoveryLog, ask_bind, liftM_eq, attempt,
    call_bind]
  refine congrArg (Program.call _) (funext fun r => ?_)
  obtain ⟨cret, logp⟩ := r
  rw [fetched]
  cases checkRet cret with
  | error e => rfl
  | ok u => cases logp <;> rfl

theorem discoveryLog_balanced (live : List DiscoveryLog) (c : Controller) (maxRetries : I32) :
    (memoryStep live (.discoveryLog c maxRetries)).Ensures (Balanced live) := by
  rw [memoryStep_discoveryLog]
  rintro ⟨cret, logp⟩
  have hentry : memoryEntry ⟨.nvmfGetDiscoveryLog c maxRetries, ⟨cret, logp⟩⟩ =
    if cret.ret = 0 then logp.map fun p => .acquire (some p.1) else none := rfl
  change Balanced live _ (.ok (fetched live ⟨cret, logp⟩))
  rw [fetched]
  cases hcheck : checkRet cret with
  | error e =>
    have hret : cret.ret ≠ 0 := fun h => by simp [checkRet_eq_ok.mpr h] at hcheck
    rw [if_neg hret] at hentry
    exact balanced_idle (List.filterMap_cons_none hentry)
  | ok u =>
    rw [if_pos (checkRet_eq_ok.mp hcheck)] at hentry
    cases logp with
    | none => exact balanced_idle (List.filterMap_cons_none hentry)
    | some p => exact balanced_log (List.filterMap_cons_some hentry)

theorem memoryStep_balanced (live : List DiscoveryLog) (a : MemoryAction) :
    (memoryStep live a).Ensures (Balanced live) := by
  cases a with
  | generateHostnqn => exact keeping_balanced live _
  | generateHostid => exact keeping_balanced live _
  | hostnqnFromFile => exact keeping_balanced live _
  | hostidFromFile => exact keeping_balanced live _
  | discoveryLog c maxRetries => exact discoveryLog_balanced live c maxRetries
  | drop i =>
    rw [memoryStep]
    cases hi : live[i]? with
    | none => exact balanced_idle rfl
    | some log => exact fun _ => balanced_drop hi rfl

theorem memoryEntries_append (t₁ t₂ : List (Event Call Answer)) :
    memoryEntries (t₁ ++ t₂) = memoryEntries t₁ ++ memoryEntries t₂ := List.filterMap_append

/-- The invariant of a run: as long as libnvme hands out fresh allocations, what is
out is what the live logs hold. -/
def Owned (trace : List (Event Call Answer)) (live : List DiscoveryLog) : Prop :=
  Fresh ∅ (memoryEntries trace) →
    replay ∅ (memoryEntries trace) = some (handles live).toFinset ∧ (handles live).Nodup

theorem Owned.step {t₁ t₂ : List (Event Call Answer)} {live live' : List DiscoveryLog}
    (h : Owned t₁ live) (hstep : Balanced live t₂ (.ok live')) : Owned (t₁ ++ t₂) live' := by
  obtain ⟨_, heq, hbalance⟩ := hstep
  obtain rfl := Exit.ok.inj heq
  intro hfresh
  rw [memoryEntries_append] at hfresh ⊢
  obtain ⟨hfresh₁, hfresh₂⟩ := fresh_append hfresh
  obtain ⟨hreplay, hnodup⟩ := h hfresh₁
  obtain ⟨hreplay', hnodup'⟩ := hbalance hnodup (hfresh₂ _ hreplay)
  rw [replay_append, hreplay, Option.bind_some]
  exact ⟨hreplay', hnodup'⟩

/-- Whatever is called in whatever order, what is out is what the live logs hold. -/
theorem memory_freed_once {σ : Type} (h : Handler Call Answer σ) (s : σ) (l : List MemoryAction)
    (hfresh : Fresh ∅ (memoryEntries ((session memoryStep l []).run h s).trace)) :
    ∃ live, ((session memoryStep l []).run h s).exit = .ok live ∧
      replay ∅ (memoryEntries ((session memoryStep l []).run h s).trace) =
        some (handles live).toFinset ∧ (handles live).Nodup := by
  have hstep (live : List DiscoveryLog) (a : MemoryAction) (s : σ) :=
    (memoryStep_balanced live a).run h s
  obtain ⟨live, hexit, -⟩ := session_returns (I := fun _ _ => True)
    (fun _ live a s _ => by
      obtain ⟨live', hlive', -⟩ := hstep live a s
      exact ⟨live', hlive', trivial⟩) l trivial s
  have hempty : Owned [] [] := fun _ => ⟨rfl, List.nodup_nil⟩
  have howned := session_invariant (S := fun _ => True) (fun _ _ _ => trivial)
    (fun t live a s ht _ => ⟨trivial, fun live' hlive' => ht.step (hlive' ▸ hstep live a s)⟩)
    hempty (along_true l [] s)
  exact ⟨live, hexit, howned.2 live hexit hfresh⟩

def countingHeap : Handler Call Answer ℕ := fun c n =>
  match c with
  | .nvmfHostText _ => (⟨some (n, ⟨[0xFF], by decide⟩), 0⟩, n + 1)
  | .nvmfGetDiscoveryLog .. => (⟨⟨0, 0⟩, some (n, ⟨0, 0, [], rfl⟩)⟩, n + 1)
  | c => (c.reply.zero, n)

theorem memory_freed_once_two_logs :
    let o := (session memoryStep
      [.discoveryLog 7 0, .generateHostnqn, .discoveryLog 7 0, .drop 0] []).run countingHeap 0
    ∃ live, o.exit = .ok live ∧
      replay ∅ (memoryEntries o.trace) = some (handles live).toFinset ∧ (handles live).Nodup :=
  memory_freed_once countingHeap 0
    [.discoveryLog 7 0, .generateHostnqn, .discoveryLog 7 0, .drop 0] (by decide)

end LibnvmeRs
