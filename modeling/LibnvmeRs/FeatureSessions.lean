import LibnvmeRs.FeatureStore

/-!
# Sessions on the features of controllers

What the journal of a session tells of the four views of one feature, and what a
getter in it can therefore have returned.
-/

namespace LibnvmeRs

open Interaction Program Journals

abbrev KnownViews := FeatureSelect → Option Cell

/-- What remains known of the instance `k` when `key` was written, and what is new. -/
def KnownViews.write (known : KnownViews) (k key : FeatureKey) (save : Bool) (cell : Option Cell) :
    KnownViews := fun sel =>
  if key.Meets k ∧ Writes save sel then if key = k then cell else none else known sel

namespace FeatureOp
variable {σ : Type} (D : FeatureBank σ) (k : FeatureKey)

def doubt (op : FeatureOp) (known : KnownViews) : KnownViews :=
  match op with
  | .get .. | .getHostId .. => known
  | .set _ which save => known.write k which.key save none
  | .setHostId _ exhid save _ => known.write k (hostIdKey exhid) save none
  | .reset _ => fun sel => if sel = .current then none else known sel

def settle (op : FeatureOp) (known : KnownViews) : KnownViews :=
  match op with
  | .get .. | .getHostId .. => known
  | .set _ which save => known.write k which.key save (some (D.encode which))
  | .setHostId _ exhid save hostid =>
    known.write k (hostIdKey exhid) save (some ⟨0, hostid.bytes⟩)
  | .reset _ => fun sel => if sel = .current then known .saved else known sel

def tells (op : FeatureOp) (r : Except Error FeatureValue) (known : KnownViews) : KnownViews :=
  match r with
  | .ok _ => op.settle D k known
  | .error (.os (.custom _ _)) => known
  | .error _ => op.doubt k known

end FeatureOp

def KnownViews.Of (known : KnownViews) (v : Views) (k : FeatureKey) : Prop :=
  ∀ sel, ∀ cell ∈ known sel, v k sel = cell

section Sound
variable {σ : Type} {D : FeatureBank σ} {k : FeatureKey} {v v' : Views} {known : KnownViews}

theorem of_same (hk : D.kept k) (hsame : D.Same v v') (hknown : known.Of v k) : known.Of v' k :=
  fun sel cell hcell => (hsame k sel hk).trans (hknown sel cell hcell)

theorem of_touches (hk : D.kept k) {key : FeatureKey} {save : Bool}
    (htouches : D.Touches key save v v') (hknown : known.Of v k) :
    (known.write k key save none).Of v' k := by
  intro sel cell hcell
  rw [KnownViews.write] at hcell
  split_ifs at hcell with hwritten hkey
  · cases hcell
  · cases hcell
  · exact (htouches k sel hk hwritten).trans (hknown sel cell hcell)

theorem of_stores (hk : D.kept k) {key : FeatureKey} {save : Bool} {new : Cell}
    (hstores : D.Stores key save new v v') (hknown : known.Of v k) :
    (known.write k key save (some new)).Of v' k := by
  intro sel cell hcell
  rw [KnownViews.write] at hcell
  split_ifs at hcell with hwritten hkey
  · subst hkey
    rw [hstores.2 hk sel hwritten.2]
    exact Option.some.inj hcell
  · cases hcell
  · exact (hstores.1 k sel hk hwritten).trans (hknown sel cell hcell)

theorem of_shakes (hk : D.kept k) (hshakes : D.Shakes v v') (hknown : known.Of v k) :
    KnownViews.Of (fun sel => if sel = .current then none else known sel) v' k := by
  intro sel cell hcell
  dsimp only at hcell
  split_ifs at hcell with hcurrent
  · cases hcell
  · exact (hshakes k sel hk hcurrent).trans (hknown sel cell hcell)

theorem of_resets (hk : D.kept k) (hresets : D.Resets v v') (hknown : known.Of v k) :
    KnownViews.Of (fun sel => if sel = .current then known .saved else known sel) v' k := by
  intro sel cell hcell
  dsimp only at hcell
  split_ifs at hcell with hcurrent
  · rw [hcurrent, hresets.2 k hk]
    exact hknown .saved cell hcell
  · exact (hresets.1 k sel hk hcurrent).trans (hknown sel cell hcell)

theorem FeatureOp.tells_sound (hk : D.kept k) {op : FeatureOp} {r : Except Error FeatureValue}
    (hop : op.Effect D r v v') (hknown : known.Of v k) : (op.tells D k r known).Of v' k := by
  have hdoubt : op.Risks D v v' → (op.doubt k known).Of v' k := by
    intro hrisks
    cases op with
    | get | getHostId => exact of_same hk hrisks hknown
    | set | setHostId => exact of_touches hk hrisks hknown
    | reset => exact of_shakes hk hrisks hknown
  cases r with
  | ok x =>
    cases op with
    | get | getHostId => exact of_same hk hop hknown
    | set | setHostId => exact of_stores hk hop hknown
    | reset => exact of_resets hk hop hknown
  | error e =>
    cases e with
    | os i =>
      cases i with
      | raw errno => exact hdoubt hop
      | custom kind m => exact of_same hk hop hknown
    | nvme | notAvailable | utf8 | invalidArgument => exact hdoubt hop

end Sound

abbrev FeatureLog := Journal FeatureOp Error FeatureValue

def featureSession (ops : List FeatureOp) : Admin FeatureLog := journal FeatureOp.run ops

section Journal
variable {σ : Type} {D : FeatureBank σ} {h : Handler AdminCall AdminAnswer σ}

def FeatureLog.known (D : FeatureBank σ) (u : ℕ) (k : FeatureKey) (log : FeatureLog)
    (known : KnownViews) : KnownViews :=
  learned (fun op r known => if D.unit op.controller = u then op.tells D k r known else known) log
    known

theorem tells_unit_sound (u : ℕ) {k : FeatureKey} (hk : D.kept k) :
    Teaches (FeatureOp.Step D) (fun known s => KnownViews.Of known (D.views s u) k)
      fun op r known => if D.unit op.controller = u then op.tells D k r known else known := by
  intro op r s s' known hstep hknown
  obtain ⟨⟨heffect, hothers⟩, -⟩ := hstep
  dsimp only
  split_ifs with hu
  · subst hu
    exact FeatureOp.tells_sound hk heffect hknown
  · exact of_same hk (hothers u (Ne.symm hu)) hknown

theorem featureSession_follows (hD : D.Conforms h) {ops : List FeatureOp} {log : FeatureLog} {s : σ}
    (hexit : ((featureSession ops).run h s).exit = .ok log) :
    log.map Prod.fst = ops ∧
      Follows (FeatureOp.Step D) log s ((featureSession ops).run h s).state :=
  journal_follows (fun op _ s _ hr => op.step_of_run hD s hr) hexit

end Journal

namespace RamFeatures

def encode : SetFeature → Cell
  | .volatileWc wce => ⟨if wce then 1 else 0, []⟩
  | .lbaRange _ nrRanges data => ⟨nrRanges.setWidth 32, data.bytes⟩
  | _ => ⟨0, []⟩

def bank : FeatureBank Views :=
  { views := fun v u => if u = 0 then v else fun _ _ => ⟨0, []⟩
    unit := fun _ => 0
    target := fun _ => 0
    encode := encode
    kept := fun _ => True }

def view (sel : U32) : FeatureSelect :=
  if sel = 1 then .default else if sel = 2 then .saved else if sel = 3 then .supported else .current

def done (cell : Cell) : Done U32 :=
  { cret := ⟨0, 0⟩, result := cell.dword, data := cell.data, metadata := [] }

def store (v : Views) (key : FeatureKey) (save : Bool) (cell : Cell) : Views := fun k sel =>
  if k = key ∧ Writes save sel then cell else v k sel

def restart (v : Views) : Views := fun k sel => if sel = .current then v k .saved else v k sel

def library : Handler AdminCall AdminAnswer Views := fun c v =>
  match c with
  | .nvmeGetFeatures which _ sel => (done (v which.key (view sel)), v)
  | .nvmeSetFeatures which _ save => (done ⟨0, []⟩, store v which.key save (encode which))
  | .lib (.nvmeGetFeaturesHostId _ sel exhid _ _) =>
    ({ cret := ⟨0, 0⟩
       result := ()
       data := (v (hostIdKey exhid) (view sel)).data
       metadata := [] }, v)
  | .lib (.nvmeSetFeaturesHostId _ exhid save hostid) =>
    (⟨0, 0⟩, store v (hostIdKey exhid) save ⟨0, hostid.bytes⟩)
  | .lib (.nvmeCtrlReset _) => (⟨0, 0⟩, restart v)
  | c => (c.reply.zero, v)

theorem view_asRaw (sel : FeatureSelect) : view sel.asRaw = sel := by
  cases sel <;> rfl

theorem moves {v v' : Views} {effect : Views → Views → Prop} (hv : effect v v') :
    bank.Moves v v' 0 effect := by
  refine ⟨hv, fun other hother k sel _ => ?_⟩
  simp only [bank, if_neg hother]

theorem stores_store (v : Views) (key : FeatureKey) (save : Bool) (cell : Cell) :
    bank.Stores key save cell v (store v key save cell) := by
  refine ⟨fun k sel _ hno => if_neg ?_, fun _ sel hsel => if_pos ⟨rfl, hsel⟩⟩
  rintro ⟨rfl, hsel⟩
  exact hno ⟨k.meets_refl, hsel⟩

theorem resets_restart (v : Views) : bank.Resets v (restart v) :=
  ⟨fun _ _ _ hsel => if_neg hsel, fun _ _ => if_pos rfl⟩

theorem conforms : bank.Conforms library := by
  intro c v
  cases c with
  | nvmeGetFeatures which fd sel =>
    rw [FeatureBank.Meets]
    refine moves ?_
    refine ⟨fun _ _ _ => rfl, fun _ _ sel' hsel => ?_⟩
    subst hsel
    change v which.key (view sel'.asRaw) = v which.key sel'
    rw [view_asRaw]
  | nvmeSetFeatures which fd save =>
    rw [FeatureBank.Meets]
    exact moves (stores_store v which.key save (encode which))
  | lib c =>
    cases c with
    | nvmeCtrlGetFd c => exact ⟨fun _ _ _ _ => rfl, fun _ _ => rfl⟩
    | nvmeGetFeaturesHostId fd sel exhid len hostid =>
      rw [FeatureBank.Meets]
      refine moves ?_
      refine ⟨fun _ _ _ => rfl, fun _ _ sel' hsel => ?_⟩
      subst hsel
      change (v (hostIdKey exhid) (view sel'.asRaw)).data = _
      rw [view_asRaw]
    | nvmeSetFeaturesHostId fd exhid save hostid =>
      rw [FeatureBank.Meets]
      exact moves (stores_store v (hostIdKey exhid) save ⟨0, hostid.bytes⟩)
    | nvmeCtrlReset fd =>
      rw [FeatureBank.Meets]
      exact moves (resets_restart v)
    | _ => trivial
  | _ => trivial

def blank : Views := fun _ _ => ⟨0, []⟩

def script : List FeatureOp :=
  [.set 7 (.volatileWc true) true, .set 7 (.volatileWc false) false, .get 7 .volatileWc .current,
    .reset 7, .get 7 .volatileWc .current]

def scriptLog : FeatureLog := script.zip
  [.ok (.dword 0), .ok (.dword 0), .ok (.dword 0), .ok .nothing, .ok (.dword 1)]

theorem script_exit : ((featureSession script).run library blank).exit = .ok scriptLog := rfl

end RamFeatures

section Results
variable {σ : Type} {D : FeatureBank σ} {h : Handler AdminCall AdminAnswer σ}

/-- What the log tells of the views of a feature is how the device has them. -/
theorem feature_session_told (hD : D.Conforms h) {ops : List FeatureOp} {log : FeatureLog} {s : σ}
    (hexit : ((featureSession ops).run h s).exit = .ok log) :
    log.map Prod.fst = ops ∧
      ∀ u k known, D.kept k → KnownViews.Of known (D.views s u) k →
        (log.known D u k known).Of (D.views ((featureSession ops).run h s).state u) k := by
  obtain ⟨hops, hfollows⟩ := featureSession_follows hD hexit
  exact ⟨hops, fun u k known hk hknown => hfollows.learned (tells_unit_sound u hk) hknown⟩

theorem feature_session_told_ram :
    RamFeatures.bank.views ((featureSession RamFeatures.script).run RamFeatures.library
      RamFeatures.blank).state 0 ⟨0x06, .unsaid⟩ .current = ⟨1, []⟩ :=
  (feature_session_told RamFeatures.conforms RamFeatures.script_exit).2 0 ⟨0x06, .unsaid⟩
    (fun _ => none) trivial (fun _ _ h => by cases h) .current _ rfl

/-- A getter returns what the log before it leaves in the view it looks at. -/
theorem feature_reads_back (hD : D.Conforms h) {ops : List FeatureOp} {s : σ}
    {before after : FeatureLog} {op : FeatureOp} {x : FeatureValue}
    (hexit : ((featureSession ops).run h s).exit = .ok (before ++ (op, .ok x) :: after))
    {k : FeatureKey} {sel : FeatureSelect} {shown : Cell → FeatureValue}
    (hasks : op.asks = some (k, sel, shown)) (hk : D.kept k) {known : KnownViews}
    (hknown : known.Of (D.views s (D.unit op.controller)) k) {cell : Cell}
    (hcell : before.known D (D.unit op.controller) k known sel = some cell) : x = shown cell := by
  obtain ⟨-, hfollows⟩ := featureSession_follows hD hexit
  obtain ⟨s₁, hbefore, s₂, ⟨-, hshown⟩, -⟩ := follows_append.mp hfollows
  have hthen := hbefore.learned (tells_unit_sound (D.unit op.controller) hk) hknown
  rw [hshown x k sel shown rfl hasks hk]
  exact congrArg shown (hthen sel cell hcell)

theorem feature_reads_back_ram : FeatureValue.dword 1 = GetFeature.volatileWc.value ⟨1, []⟩ := by
  have hexit : ((featureSession RamFeatures.script).run RamFeatures.library
      RamFeatures.blank).exit = .ok (RamFeatures.scriptLog.take 4 ++
        (.get 7 .volatileWc .current, .ok (.dword 1)) :: []) := RamFeatures.script_exit
  exact feature_reads_back RamFeatures.conforms hexit rfl trivial
    (fun _ _ h => nomatch (h : none = some _)) rfl

end Results
end LibnvmeRs
