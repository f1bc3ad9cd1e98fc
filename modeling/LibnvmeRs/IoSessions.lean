import LibnvmeRs.BlockDevices
import LibnvmeRs.Journals

/-!
# I/O sessions

A session runs operations one after the other and writes down what each came to. On
a controller that keeps its documentation the log alone says, block by block, what
stands on every disk afterwards, and what a later read can have returned.
-/

namespace LibnvmeRs

open Interaction Program ByteOrder BlockStore Journals

abbrev IoLog := Journal IoOp Error IoValue

def ioSession (t : Target) (ops : List IoOp) : Ffi IoLog := journal (IoOp.run t) ops

namespace IoLog
variable {σ : Type} (D : Media σ)

def changes (d : ℕ) (log : IoLog) : List (Change (List Byte)) :=
  log.flatMap fun x => if x.1.disk D = d then x.1.changes D x.2 else []

@[simp] theorem changes_nil (d : ℕ) : changes D d [] = [] := rfl

@[simp] theorem changes_cons (d : ℕ) (op : IoOp) (r : Except Error IoValue) (log : IoLog) :
    changes D d ((op, r) :: log) =
      (if op.disk D = d then op.changes D r else []) ++ changes D d log :=
  List.flatMap_cons

theorem changes_append (d : ℕ) (l₁ l₂ : IoLog) :
    changes D d (l₁ ++ l₂) = changes D d l₁ ++ changes D d l₂ := List.flatMap_append

def Follows (log : IoLog) (s s' : σ) : Prop :=
  Journals.Follows (fun op r => op.Step D r) log s s'

variable {D}

theorem step_evolves {op : IoOp} {r : Except Error IoValue} {s s' : σ} (hstep : op.Step D r s s')
    (d : ℕ) :
    Evolves (if op.disk D = d then op.changes D r else []) (D.medium s d) (D.medium s' d) := by
  obtain ⟨⟨hmoves, hothers⟩, -⟩ := hstep
  split_ifs with hdisk
  · rw [← hdisk]
    exact hmoves
  · exact hothers d fun hd => hdisk hd.symm

theorem Follows.evolves {log : IoLog} {s s' : σ} (hlog : Follows D log s s') (d : ℕ) :
    Evolves (changes D d log) (D.medium s d) (D.medium s' d) := by
  induction log generalizing s with
  | nil =>
    obtain rfl : s' = s := hlog
    rfl
  | cons x log ih =>
    obtain ⟨op, r⟩ := x
    obtain ⟨s₁, hstep, hrest⟩ := hlog
    rw [changes_cons]
    exact evolves_append.mpr ⟨_, step_evolves hstep d, ih hrest⟩

theorem Follows.answers {before after : IoLog} {op : IoOp} {v : IoValue} {s s' : σ}
    (hlog : Follows D (before ++ (op, .ok v) :: after) s s') :
    ∃ m, Evolves (changes D (op.disk D) before) (D.medium s (op.disk D)) m ∧ op.Answers D v m := by
  obtain ⟨s₁, hbefore, s₂, ⟨-, hanswers⟩, -⟩ := follows_append.mp hlog
  exact ⟨D.medium s₁ (op.disk D), Follows.evolves hbefore _, hanswers v rfl⟩

end IoLog

theorem ioSession_follows {σ : Type} {D : Media σ} {h : Handler Call Answer σ} {t : Target}
    (hD : D.Conforms t.endian h) {ops : List IoOp} (hops : ∀ op ∈ ops, op.Fits D) {log : IoLog}
    {s : σ} (hexit : ((ioSession t ops).run h s).exit = .ok log) :
    log.map Prod.fst = ops ∧ log.Follows D s ((ioSession t ops).run h s).state :=
  journal_follows (fun op hop s _ hr => IoOp.step_of_run hD t s rfl op (hops op hop) hr) hexit

namespace RamDisk

def media : Media (Medium (List Byte)) :=
  { medium := fun m d => if d = 0 then m else fun _ => none
    blockSize := fun _ => 2
    zone := fun _ first => ⟨first, 0⟩
    disk := fun _ => 0
    target := fun _ _ => 0 }

def done (data : List Byte) : Done U32 :=
  { cret := ⟨0, 0⟩, result := 0, data := data, metadata := [] }

def failed {ρ : Type} (result : ρ) : Done ρ :=
  { cret := ⟨-1, 5⟩, result := result, data := [], metadata := [] }

def store (m : Medium (List Byte)) (span : Span) (cells : List (Option (List Byte))) :
    Done U32 × Medium (List Byte) := (done [], m.put span.first cells)

def answer : Option (List (List Byte)) → Done U32
  | some blocks => if ∀ b ∈ blocks, b.length = 2 then done blocks.flatten else failed 0
  | none => failed 0

def io (m : Medium (List Byte)) (span : Span) (data : Option (List Byte)) (opcode : U8) :
    Done U32 × Medium (List Byte) :=
  let read := m.read span.first span.count
  if opcode = opcWrite then
    match data with
    | some bytes => store m span ((cut 2 span.count bytes).map some)
    | none => (failed 0, m)
  else if opcode = opcWriteZeroes then
    store m span (List.replicate span.count (some (List.replicate 2 0)))
  else if opcode = opcWriteUncor then store m span (List.replicate span.count none)
  else if opcode = opcRead then (answer read, m)
  else if opcode = opcCompare then
    (if read = data.map (cut 2 span.count) then done [] else failed 0, m)
  else (if read.isSome then done [] else failed 0, m)

def library : Handler Call Answer (Medium (List Byte)) := fun c m =>
  match c with
  | .nvmeIo args opcode => io m args.span (args.carried 2) opcode
  | .nvmeZnsAppend _ => (failed 0, m)
  | c => (c.reply.zero, m)

theorem moves {m n : Medium (List Byte)} {l : List (Change (List Byte))} (hl : Evolves l m n) :
    media.Moves m n 0 l := by
  refine ⟨hl, fun other hother => ?_⟩
  simp only [media, if_neg hother]

theorem store_moves (m : Medium (List Byte)) (span : Span) (cells : List (Option (List Byte))) :
    media.Moves m (store m span cells).2 0
      [if (store m span cells).1.cret.ret = 0 then .put span.first cells else .lose span] :=
  moves (evolves_singleton.mpr (m.takes_put span.first cells))

theorem answer_reads {m : Medium (List Byte)} {span : Span}
    (hzero : (answer (m.read span.first span.count)).cret.ret = 0) :
    media.Reads m 0 span (answer (m.read span.first span.count)).data := by
  have hfailed : ¬(failed (0 : U32)).cret.ret = 0 := by decide
  cases hread : m.read span.first span.count with
  | none =>
    rw [hread] at hzero
    exact (hfailed hzero).elim
  | some blocks =>
    rw [hread, answer] at hzero
    rw [answer]
    split_ifs at hzero ⊢ with hsize
    · exact ⟨blocks, hread, rfl, hsize⟩
    · exact (hfailed hzero).elim

theorem io_meets (m : Medium (List Byte)) (span : Span) (data : Option (List Byte)) (opcode : U8) :
    media.MeetsSpan m (io m span data opcode).2 0 span data opcode (io m span data opcode).1 := by
  have hstill : media.Moves m m 0 [] := moves rfl
  have hfailed : ¬(failed (0 : U32)).cret.ret = 0 := by decide
  by_cases hwrite : opcode = opcWrite
  · subst hwrite
    rintro bytes ⟨⟩
    exact store_moves m span _
  by_cases hzeroes : opcode = opcWriteZeroes
  · subst hzeroes
    exact store_moves m span _
  by_cases huncor : opcode = opcWriteUncor
  · subst huncor
    exact store_moves m span _
  by_cases hread : opcode = opcRead
  · subst hread
    exact fun _ _ => ⟨hstill, answer_reads⟩
  by_cases hcompare : opcode = opcCompare
  · subst hcompare
    rintro bytes ⟨⟩
    change media.Moves m m 0 [] ∧
      ((if m.read span.first span.count = some (cut 2 span.count bytes) then done []
        else failed 0).cret.ret = 0 → _)
    split_ifs with hsame
    · exact ⟨hstill, fun _ => hsame⟩
    · exact ⟨hstill, fun hzero => (hfailed hzero).elim⟩
  by_cases hverify : opcode = opcVerify
  · subst hverify
    change media.Moves m m 0 [] ∧
      ((if (m.read span.first span.count).isSome then done [] else failed 0).cret.ret = 0 → _)
    split_ifs with hsome
    · exact ⟨hstill, fun _ => hsome⟩
    · exact ⟨hstill, fun hzero => (hfailed hzero).elim⟩
  rw [Media.MeetsSpan]
  simp only [if_neg hwrite, if_neg hzeroes, if_neg huncor, if_neg hread, if_neg hcompare,
    if_neg hverify]

theorem conforms (e : Endian) : media.Conforms e library := by
  intro c m
  cases c with
  | nvmeIo args opcode => exact io_meets m args.span (args.carried 2) opcode
  | nvmeDsm args =>
    refine moves (loses_nothing fun c hc => ?_)
    split_ifs at hc
    · obtain ⟨x, -, rfl⟩ := List.mem_map.mp hc
      exact ⟨_, rfl⟩
    · cases hc
  | nvmeZnsAppend args =>
    intro _ _
    exact ⟨moves (evolves_singleton.mpr (Change.takes_lose _ m)), fun h => by cases h⟩
  | nvmeNsGetFd ns => exact ⟨rfl, fun _ _ _ => rfl⟩
  | nvmeIoPassthru args => exact fun _ => rfl
  | _ => trivial

def ns : Namespace := { blockNs with getLbaSize := 2 }

theorem fits {op : IoOp} (hns : op.ns = ns) : op.Fits media :=
  IoOp.fits_of_small hns rfl (by decide)

def blank : Medium (List Byte) := fun _ => some [0, 0]

def pattern : Slice := ⟨[1, 2], by decide⟩

def buffer : Slice := .zeros 4 (by decide)

def script : List IoOp :=
  [.write (DataIo.new ns 5 1 pattern), .writeZeroes (NodataIo.new ns 6 1),
    .writeUncorrectable (NodataIo.new ns 7 1), .flush ns, .read (DataIo.new ns 5 2 buffer)]

def scriptLog : IoLog := script.zip
  [.ok (.code 0), .ok (.code 0), .ok (.code 0), .ok .nothing, .ok (.bytes [1, 2, 0, 0])]

theorem script_fits : ∀ op ∈ script, op.Fits media := by
  simp only [script, List.forall_mem_cons]
  exact ⟨fits rfl, fits rfl, fits rfl, fits rfl, fits rfl, fun _ h => by cases h⟩

theorem script_exit : ((ioSession littleHost script).run library blank).exit = .ok scriptLog := rfl

end RamDisk

section Results
variable {σ : Type} {D : Media σ} {h : Handler Call Answer σ} {t : Target}

/-- The log accounts for every disk, and every result in it answers the disk as the log
before it left it. -/
theorem io_session_refines (hD : D.Conforms t.endian h) {ops : List IoOp}
    (hops : ∀ op ∈ ops, op.Fits D) {s : σ} {log : IoLog}
    (hexit : ((ioSession t ops).run h s).exit = .ok log) :
    log.map Prod.fst = ops ∧
      (∀ d, Evolves (IoLog.changes D d log) (D.medium s d)
        (D.medium ((ioSession t ops).run h s).state d)) ∧
      ∀ before op v after, log = before ++ (op, .ok v) :: after →
        ∃ m, Evolves (IoLog.changes D (op.disk D) before) (D.medium s (op.disk D)) m ∧
          op.Answers D v m := by
  obtain ⟨hdone, hfollows⟩ := ioSession_follows hD hops hexit
  refine ⟨hdone, hfollows.evolves, fun before op v after hlog => ?_⟩
  rw [hlog] at hfollows
  exact hfollows.answers

theorem io_session_refines_ram : RamDisk.scriptLog.map Prod.fst = RamDisk.script :=
  (io_session_refines (RamDisk.conforms littleHost.endian) RamDisk.script_fits
    RamDisk.script_exit).1

theorem IoLog.Follows.read {before after : IoLog} {b : Read} {data : List Byte} {s s' : σ}
    (hlog : Follows D (before ++ (.read b, .ok (.bytes data)) :: after) s s') {i : ℕ}
    (hi : (IoOp.spanOf b.slba b.nlb).Covers i) :
    (BlockStore.fate (IoLog.changes D (D.disk b.ns) before) i).Allows (D.medium s (D.disk b.ns) i)
      (some (field ((i - b.slba.toNat) * D.blockSize (D.disk b.ns)) (D.blockSize (D.disk b.ns))
        data)) := by
  obtain ⟨m, hm, blocks, hread, rfl, hsize⟩ := hlog.answers
  change ∀ x ∈ blocks, x.length = D.blockSize (D.disk b.ns) at hsize
  obtain ⟨hlength, hcells⟩ := Medium.read_eq_some.mp hread
  obtain ⟨hfirst, hend⟩ := hi
  change b.slba.toNat ≤ i at hfirst
  change i < b.slba.toNat + b.nlb.toNat at hend
  have hj : i - b.slba.toNat < b.nlb.toNat := by omega
  have hcell := hcells _ hj
  have hinside : i - b.slba.toNat < blocks.length := by rwa [hlength]
  have hcut := @getElem?_cut (D.blockSize (D.disk b.ns)) _ _ hinside blocks.flatten
  rw [cut_flatten hsize, ← hcell, Nat.add_sub_cancel' hfirst] at hcut
  rw [← hcut]
  exact hm.fate i

/-- The last operation that stored a block decides what it reads as. -/
theorem IoLog.Follows.read_stored {before between after : IoLog} {op : IoOp} {v : IoValue}
    {b : Read} {data : List Byte} {s s' : σ}
    (hlog : Follows D (before ++ (op, .ok v) :: (between ++ (.read b, .ok (.bytes data)) :: after))
      s s')
    (hdisk : op.disk D = D.disk b.ns) {first j : ℕ} {cells : List (Option (List Byte))}
    {cell : Option (List Byte)} (hput : op.stores D v = [.put first cells])
    (hcell : cells[j]? = some cell) (hi : (IoOp.spanOf b.slba b.nlb).Covers (first + j))
    (hbetween : ∀ c ∈ IoLog.changes D (D.disk b.ns) between, ¬c.span.Covers (first + j)) :
    cell = some (field ((first + j - b.slba.toNat) * D.blockSize (D.disk b.ns))
      (D.blockSize (D.disk b.ns)) data) := by
  rw [← List.cons_append, ← List.append_assoc] at hlog
  have hallowed := hlog.read hi
  have hchanges : IoLog.changes D (D.disk b.ns) (before ++ (op, .ok v) :: between) =
      IoLog.changes D (D.disk b.ns) before ++
        .put first cells :: IoLog.changes D (D.disk b.ns) between := by
    rw [IoLog.changes_append, IoLog.changes_cons, if_pos hdisk, IoOp.changes, hput,
      List.singleton_append]
  rw [hchanges, fate_last hbetween, Change.fate_put hcell] at hallowed
  exact Eq.symm hallowed

/-- A block reads as it was last written, as long as nothing else touched it since. -/
theorem io_session_reads_last_write (hD : D.Conforms t.endian h) {ops : List IoOp}
    (hops : ∀ op ∈ ops, op.Fits D) {s : σ} {before between after : IoLog} {w : Write} {r : Read}
    {v : IoValue} {data : List Byte}
    (hexit : ((ioSession t ops).run h s).exit = .ok (before ++ (.write w, .ok v) ::
      (between ++ (.read r, .ok (.bytes data)) :: after)))
    (hdisk : D.disk w.ns = D.disk r.ns) {i : ℕ} (hw : (IoOp.spanOf w.slba w.nlb).Covers i)
    (hr : (IoOp.spanOf r.slba r.nlb).Covers i)
    (hbetween : ∀ c ∈ IoLog.changes D (D.disk r.ns) between, ¬c.span.Covers i) :
    let size := D.blockSize (D.disk r.ns)
    field ((i - r.slba.toNat) * size) size data =
      field ((i - w.slba.toNat) * size) size w.data.bytes := by
  intro size
  obtain ⟨-, hfollows⟩ := ioSession_follows hD hops hexit
  obtain ⟨hfirst, hend⟩ := hw
  obtain ⟨j, rfl⟩ := Nat.exists_eq_add_of_le hfirst
  have hj : j < w.nlb.toNat := Nat.lt_of_add_lt_add_left hend
  have hcell : ((cut size w.nlb.toNat w.data.bytes).map some)[j]? =
      some (some (field (j * size) size w.data.bytes)) := by
    rw [List.getElem?_map, getElem?_cut hj, Option.map_some]
  have hput : (IoOp.write w).stores D v =
      [.put w.slba.toNat ((cut size w.nlb.toNat w.data.bytes).map some)] := by
    rw [IoOp.stores, IoOp.size, IoOp.disk, IoOp.ns, hdisk]
  have hstored := hfollows.read_stored hdisk hput hcell hr hbetween
  rw [show (IoOp.spanOf w.slba w.nlb).first + j - w.slba.toNat = j from Nat.add_sub_cancel_left ..]
  exact (Option.some.inj hstored).symm

theorem io_session_reads_last_write_ram :
    field 0 2 [1, 2, 0, 0] = field 0 2 RamDisk.pattern.bytes := by
  have hexit : ((ioSession littleHost RamDisk.script).run RamDisk.library RamDisk.blank).exit =
      .ok ([] ++ (.write (DataIo.new RamDisk.ns 5 1 RamDisk.pattern), .ok (.code 0)) ::
        ((RamDisk.scriptLog.drop 1).take 3 ++
          (.read (DataIo.new RamDisk.ns 5 2 RamDisk.buffer), .ok (.bytes [1, 2, 0, 0])) :: [])) :=
    RamDisk.script_exit
  have hbetween : ∀ c ∈ IoLog.changes RamDisk.media 0 ((RamDisk.scriptLog.drop 1).take 3),
      ¬c.span.Covers 5 := by decide
  exact io_session_reads_last_write (RamDisk.conforms littleHost.endian) RamDisk.script_fits
    hexit rfl (i := 5) (by decide) (by decide) hbetween

end Results

end LibnvmeRs
