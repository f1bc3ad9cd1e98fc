import LibnvmeRs.Management

/-!
# Sessions of namespace management

What the journal of a session tells about the namespaces, for a reader who never
asked the device which there are.
-/

namespace LibnvmeRs

open Interaction Program ByteOrder Journals

namespace NsOp

/-- What is known of one namespace after a failed command, from what was known before. -/
def doubt (op : NsOp) (n : U32) (k : Option (Option Volume)) : Option (Option Volume) :=
  match op with
  | .create _ _ => k.filter (·.isSome)
  | .delete _ nsid => if Names nsid n then none else k
  | .attach _ nsid _ | .detach _ nsid _ => if n = nsid then k.filter (·.isNone) else k

def settle (op : NsOp) (n : U32) (x : NsValue) (k : Option (Option Volume)) :
    Option (Option Volume) :=
  match op, x with
  | .create _ template, .created m => if n = m then some (some (.created template.inner)) else k
  | .create _ _, .nothing => k
  | .delete _ nsid, _ => if Names nsid n then some none else k
  | .attach _ nsid ids, _ => if n = nsid then k.map fun v => v.map (·.attach ids) else k
  | .detach _ nsid ids, _ => if n = nsid then k.map fun v => v.map (·.detach ids) else k

def tells (n : U32) (op : NsOp) (r : Except Error NsValue) (k : Option (Option Volume)) :
    Option (Option Volume) :=
  match r with
  | .ok x => op.settle n x k
  | .error (.invalidArgument _) => k
  | .error _ => op.doubt n k

variable {op : NsOp} {n : U32} {v v' : Inventory} {k : Option (Option Volume)}

theorem doubt_sound (hop : op.Risks v v') (hk : ∀ a ∈ k, v n = a) :
    ∀ a ∈ op.doubt n k, v' n = a := by
  intro a ha
  cases op with
  | create c template =>
    obtain ⟨ha, hsome⟩ := Option.mem_filter_iff.mp ha
    have hthere : ¬v n = none := by
      rw [hk a ha]
      rintro rfl
      cases hsome
    rw [hop n hthere, hk a ha]
  | delete c nsid =>
    rw [doubt] at ha
    split_ifs at ha with hn
    · cases ha
    · rw [hop n hn, hk a ha]
  | attach c nsid ids | detach c nsid ids =>
    obtain ⟨hkeeps, hexists⟩ := hop
    rw [doubt] at ha
    split_ifs at ha with hn
    · subst hn
      obtain ⟨ha, hnone⟩ := Option.mem_filter_iff.mp ha
      rw [hk a ha] at hexists
      cases a with
      | none => simpa using hexists
      | some w => cases hnone
    · rw [hkeeps n hn, hk a ha]

theorem settle_sound {x : NsValue} (hop : op.Does x v v') (hk : ∀ a ∈ k, v n = a) :
    ∀ a ∈ op.settle n x k, v' n = a := by
  intro a ha
  cases op with
  | create c template =>
    cases x with
    | nothing => exact hop.elim
    | created m =>
      obtain ⟨hkeeps, -, hnew⟩ := hop
      rw [settle] at ha
      split_ifs at ha with hn
      · subst hn
        rw [hnew]
        exact Option.some.inj ha
      · rw [hkeeps n hn, hk a ha]
  | delete c nsid =>
    obtain ⟨hkeeps, hgone⟩ := hop
    rw [settle] at ha
    split_ifs at ha with hn
    · rw [hgone n hn]
      exact Option.some.inj ha
    · rw [hkeeps n hn, hk a ha]
  | attach c nsid ids | detach c nsid ids =>
    obtain ⟨⟨hkeeps, -⟩, hmap⟩ := hop
    rw [settle] at ha
    split_ifs at ha with hn
    · subst hn
      obtain ⟨b, hb, rfl⟩ := Option.mem_map.mp ha
      rw [hmap, hk b hb]
    · rw [hkeeps n hn, hk a ha]

theorem tells_sound {r : Except Error NsValue} (hop : op.Effect r v v') (hk : ∀ a ∈ k, v n = a) :
    ∀ a ∈ tells n op r k, v' n = a := by
  cases r with
  | ok x => exact settle_sound hop hk
  | error e =>
    cases e with
    | invalidArgument m =>
      obtain rfl : v' = v := hop
      exact hk
    | os | nvme | notAvailable | utf8 => exact doubt_sound hop hk

theorem exists_kept {r : Except Error NsValue} (hop : op.Effect r v v') (hn : (v n).isSome)
    (hkept : ∀ c nsid, op = .delete c nsid → ¬Names nsid n) : (v' n).isSome := by
  have hattaches : ∀ nsid, v.Attaches nsid v' → (v' n).isSome := by
    rintro nsid ⟨hkeeps, hexists⟩
    by_cases hsame : n = nsid
    · rw [hsame, hexists, ← hsame, hn]
    · rw [hkeeps n hsame, hn]
  have hrisks : op.Risks v v' → (v' n).isSome := by
    intro hop
    cases op with
    | create c template =>
      have hthere : ¬v n = none := Option.isSome_iff_ne_none.mp hn
      rw [hop n hthere, hn]
    | delete c nsid => rw [hop n (hkept c nsid rfl), hn]
    | attach c nsid ids | detach c nsid ids => exact hattaches nsid hop
  cases r with
  | ok x =>
    cases op with
    | create c template =>
      cases x with
      | nothing => exact hop.elim
      | created m =>
        obtain ⟨hkeeps, -, hnew⟩ := hop
        by_cases hsame : n = m
        · rw [hsame, hnew]
          rfl
        · rw [hkeeps n hsame, hn]
    | delete c nsid => rw [hop.1 n (hkept c nsid rfl), hn]
    | attach c nsid ids | detach c nsid ids => exact hattaches nsid hop.1
  | error e =>
    cases e with
    | invalidArgument m =>
      obtain rfl : v' = v := hop
      exact hn
    | os | nvme | notAvailable | utf8 => exact hrisks hop

end NsOp

abbrev NsLog := Journal NsOp Error NsValue

def nsSession (ops : List NsOp) : Admin NsLog := journal NsOp.run ops

section Journal
variable {σ : Type} {D : Inventories σ} {h : Handler AdminCall AdminAnswer σ}

def NsLog.known (D : Inventories σ) (d : ℕ) (n : U32) (log : NsLog) (k : Option (Option Volume)) :
    Option (Option Volume) :=
  learned (fun op r k => if D.subsystem op.controller = d then op.tells n r k else k) log k

theorem tells_subsystem_sound (d : ℕ) (n : U32) :
    Teaches (NsOp.Step D) (fun k s => ∀ a ∈ k, D.volumes s d n = a)
      fun op r k => if D.subsystem op.controller = d then op.tells n r k else k := by
  intro op r s s' k hstep hk
  obtain ⟨heffect, hothers⟩ := hstep
  dsimp only
  split_ifs with hd
  · subst hd
    exact NsOp.tells_sound heffect hk
  · intro a ha
    rw [hothers d (Ne.symm hd)]
    exact hk a ha

theorem nsSession_follows (hD : D.Conforms .little h) {ops : List NsOp} {log : NsLog} {s : σ}
    (hexit : ((nsSession ops).run h s).exit = .ok log) :
    log.map Prod.fst = ops ∧ Follows (NsOp.Step D) log s ((nsSession ops).run h s).state :=
  journal_follows (fun op _ s _ hr => op.step_of_run hD s hr) hexit

end Journal

namespace RamSubsystem

def inventories : Inventories Inventory :=
  { volumes := fun v d => if d = 0 then v else fun _ => none
    subsystem := fun _ => 0
    target := fun _ => 0 }

def done (n : U32) : Done U32 := { cret := ⟨0, 0⟩, result := n, data := [], metadata := [] }

def failed : Done U32 := { cret := ⟨-1, 5⟩, result := 0, data := [], metadata := [] }

def put (v : Inventory) (n : U32) (x : Option Volume) : Inventory := fun m =>
  if m = n then x else v m

def freeId (v : Inventory) : Option U32 :=
  ((List.range 8).map fun i => BitVec.ofNat 32 (i + 1)).find? fun n => (v n).isNone

def create (v : Inventory) (template : NvmeIdNs) : Done U32 × Inventory :=
  match freeId v with
  | some n => (done n, put v n (some (.created template)))
  | none => (failed, v)

def delete (v : Inventory) (nsid : U32) : Done U32 × Inventory :=
  (done 0, fun n => if Names nsid n then none else v n)

def attach (v : Inventory) (args : NvmeNsAttachArgs) : CRet × Inventory :=
  if args.ctrlist.identifier.length = 2047 then
    if args.sel = nvmeNsAttachSelCtrlAttach then
      (⟨0, 0⟩, put v args.nsid ((v args.nsid).map (·.attach args.ctrlist.listed)))
    else if args.sel = nvmeNsAttachSelCtrlDeattach then
      (⟨0, 0⟩, put v args.nsid ((v args.nsid).map (·.detach args.ctrlist.listed)))
    else (⟨-1, 22⟩, v)
  else (⟨-1, 22⟩, v)

def library : Handler AdminCall AdminAnswer Inventory := fun c v =>
  match c with
  | .lib (.nvmeNsAttach args) => attach v args
  | .nvmeNsMgmt args =>
    if args.sel = nvmeNsMgmtSelCreate then (args.ns.elim (failed, v) (create v))
    else if args.sel = nvmeNsMgmtSelDelete then delete v args.nsid
    else (failed, v)
  | c => (c.reply.zero, v)

theorem moves {v v' : Inventory} {effect : Inventory → Inventory → Prop} (hv : effect v v') :
    inventories.Moves v v' 0 effect := by
  refine ⟨hv, fun other hother => ?_⟩
  simp only [inventories, if_neg hother]

theorem keeps_put (v : Inventory) (n : U32) (x : Option Volume) : v.Keeps (· = n) (put v n x) :=
  fun _ hm => if_neg hm

theorem create_creates (v : Inventory) (template : NvmeIdNs) :
    if (create v template).1.cret.ret = 0 then
      v.Creates template (create v template).1.result (create v template).2
    else v.Keeps (fun n => v n = none) (create v template).2 := by
  rw [create]
  cases hfree : freeId v with
  | none => exact v.keeps_refl _
  | some n =>
    have hnone : v n = none := by simpa using List.find?_some hfree
    exact ⟨keeps_put v n _, hnone, if_pos rfl⟩

theorem mgmt_meets (v : Inventory) (args : NvmeNsMgmtArgs) :
    inventories.MeetsMgmt v (library (.nvmeNsMgmt args) v).2 args
      (library (.nvmeNsMgmt args) v).1 := by
  refine moves ?_
  rw [library]
  by_cases hcreate : args.sel = nvmeNsMgmtSelCreate
  · simp only [if_pos hcreate]
    rintro template htemplate
    rw [Option.mem_def.mp htemplate]
    exact create_creates v template
  by_cases hdelete : args.sel = nvmeNsMgmtSelDelete
  · simp only [if_neg hcreate, if_pos hdelete]
    exact ⟨fun n hn => if_neg hn, fun n hn => if_pos hn⟩
  · simp only [if_neg hcreate, if_neg hdelete]

theorem put_attaches {v : Inventory} {n : U32} (f : Volume → Volume) :
    v.Attaches n (put v n ((v n).map f)) := by
  refine ⟨keeps_put v n _, ?_⟩
  rw [put, if_pos rfl, Option.isSome_map]

theorem attach_meets (v : Inventory) (args : NvmeNsAttachArgs) :
    inventories.MeetsAttach .little v (attach v args).2 args (attach v args).1 := by
  have hstill : v.Attaches args.nsid v := ⟨v.keeps_refl _, rfl⟩
  have hselectors : nvmeNsAttachSelCtrlAttach ≠ nvmeNsAttachSelCtrlDeattach := by decide
  have hrefused : ¬(-1 : I32) = 0 := by decide
  rw [Inventories.MeetsAttach]
  refine moves ?_
  rw [attach]
  split_ifs with hslots hattach hdetach
  · rw [NvmeCtrlList.decode_memory hslots]
    refine ⟨put_attaches _, fun _ _ => if_pos rfl, fun _ hdetach => ?_⟩
    exact (hselectors (hattach.symm.trans hdetach)).elim
  · rw [NvmeCtrlList.decode_memory hslots]
    refine ⟨put_attaches _, fun _ hattach => ?_, fun _ _ => if_pos rfl⟩
    exact (hselectors (hattach.symm.trans hdetach)).elim
  · exact ⟨hstill, fun h => (hrefused h).elim, fun h => (hrefused h).elim⟩
  · exact ⟨hstill, fun h => (hrefused h).elim, fun h => (hrefused h).elim⟩

theorem conforms : inventories.Conforms .little library := by
  intro c v
  cases c with
  | nvmeNsMgmt args => exact mgmt_meets v args
  | lib c =>
    cases c with
    | nvmeNsAttach args => exact attach_meets v args
    | nvmeCtrlGetFd c => exact ⟨rfl, fun _ _ => rfl⟩
    | _ => trivial
  | _ => trivial

def empty : Inventory := fun _ => none

def template : IdentifyNamespace := uniformPage ⟨.replicate 2 0, 9, 0⟩

def script : List NsOp :=
  [.create 7 template, .create 7 template, .attach 7 2 [4, 5], .detach 7 2 [4], .delete 7 2,
    .create 7 template, .attach 7 2 [6]]

def scriptLog : NsLog := script.zip
  [.ok (.created 1), .ok (.created 2), .ok .nothing, .ok .nothing, .ok .nothing, .ok (.created 2),
    .ok .nothing]

theorem script_exit : ((nsSession script).run library empty).exit = .ok scriptLog :=
  journal_of_results (by decide +kernel)

end RamSubsystem

section Results
variable {σ : Type} {D : Inventories σ} {h : Handler AdminCall AdminAnswer σ}

/-- What the log tells of a namespace is how the device has it. -/
theorem namespace_session_told (hD : D.Conforms .little h) {ops : List NsOp} {log : NsLog} {s : σ}
    (hexit : ((nsSession ops).run h s).exit = .ok log) :
    log.map Prod.fst = ops ∧
      ∀ d n k, (∀ a ∈ k, D.volumes s d n = a) → ∀ a ∈ log.known D d n k,
        D.volumes ((nsSession ops).run h s).state d n = a := by
  obtain ⟨hops, hfollows⟩ := nsSession_follows hD hexit
  exact ⟨hops, fun d n k hk => hfollows.learned (tells_subsystem_sound d n) hk⟩

theorem namespace_session_told_ram :
    RamSubsystem.inventories.volumes
        ((nsSession RamSubsystem.script).run RamSubsystem.library RamSubsystem.empty).state 0 2 =
      some ((Volume.created RamSubsystem.template.inner).attach [6]) :=
  (namespace_session_told RamSubsystem.conforms RamSubsystem.script_exit).2 0 2 none
    (fun _ h => by cases h) _ rfl

/-- An identifier comes back only after a deletion that names it. -/
theorem namespace_ids_not_reused (hD : D.Conforms .little h) {ops : List NsOp} {s : σ}
    {before between after : NsLog} {c₁ c₂ : Controller} {t₁ t₂ : IdentifyNamespace} {n : U32}
    (hexit : ((nsSession ops).run h s).exit = .ok (before ++ (.create c₁ t₁, .ok (.created n)) ::
      (between ++ (.create c₂ t₂, .ok (.created n)) :: after)))
    (hsame : D.subsystem c₂ = D.subsystem c₁) :
    ∃ c nsid r, (NsOp.delete c nsid, r) ∈ between ∧ D.subsystem c = D.subsystem c₁ ∧
      Names nsid n := by
  by_contra hnone
  obtain ⟨-, hfollows⟩ := nsSession_follows hD hexit
  obtain ⟨s₁, -, s₂, hfirst, hrest⟩ := follows_append.mp hfollows
  obtain ⟨s₃, hbetween, s₄, hsecond, -⟩ := follows_append.mp hrest
  have hnew : D.volumes s₂ (D.subsystem c₁) n = some (.created t₁.inner) := hfirst.1.2.2
  have hcreated : (D.volumes s₂ (D.subsystem c₁) n).isSome := by
    rw [hnew]
    rfl
  have hkept := hbetween.invariant (P := fun u => (D.volumes u (D.subsystem c₁) n).isSome) hcreated
    fun x hx u u' hstep hu => by
      by_cases hd : D.subsystem x.1.controller = D.subsystem c₁
      · have heffect := hstep.1
        rw [hd] at heffect
        refine NsOp.exists_kept heffect hu fun c nsid hop hnames => hnone ?_
        obtain ⟨op, r⟩ := x
        obtain rfl : op = .delete c nsid := hop
        exact ⟨c, nsid, r, hx, hd, hnames⟩
      · rw [hstep.2 _ (Ne.symm hd)]
        exact hu
  have hfree := hsecond.1.2.1
  change D.volumes s₃ (D.subsystem c₂) n = none at hfree
  rw [hsame] at hfree
  rw [hfree] at hkept
  cases hkept

theorem namespace_ids_not_reused_ram :
    ∃ c nsid r, (NsOp.delete c nsid, r) ∈ (RamSubsystem.scriptLog.drop 2).take 3 ∧
      RamSubsystem.inventories.subsystem c = 0 ∧ Names nsid 2 := by
  have hexit : ((nsSession RamSubsystem.script).run RamSubsystem.library RamSubsystem.empty).exit =
      .ok (RamSubsystem.scriptLog.take 1 ++
        (.create 7 RamSubsystem.template, .ok (.created 2)) ::
          ((RamSubsystem.scriptLog.drop 2).take 3 ++
            (.create 7 RamSubsystem.template, .ok (.created 2)) ::
              RamSubsystem.scriptLog.drop 6)) :=
    RamSubsystem.script_exit
  exact namespace_ids_not_reused RamSubsystem.conforms hexit rfl

end Results
end LibnvmeRs
