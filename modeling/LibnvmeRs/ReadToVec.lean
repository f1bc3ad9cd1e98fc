import LibnvmeRs.Transfers

/-!
# Reading into a fresh buffer

`read_to_vec` allocates `nlb * lba_size` zeroed bytes and hands them to the Read,
which looks at the block count only then. As long as the allocator grants the
buffer the detour cannot be seen: the Read refuses the counts it refuses anyway,
finds the length it asks for, and sends the same command. A count out of range may
ask for more than the allocator has, and then the process is gone before the count
is looked at.
-/

namespace LibnvmeRs

open Interaction Program

theorem checkBufLen_ne_encodeNlb {len : ℕ} {nlb lbaSize : U32} {e : Error}
    (hlen : checkBufLen len nlb lbaSize = .error e) : encodeNlb nlb ≠ .error e := by
  unfold checkBufLen at hlen
  unfold encodeNlb
  dsimp only at hlen
  split_ifs at hlen
  split_ifs
  · intro hnlb
    obtain rfl := Except.error.inj hlen
    have hmessage := Error.invalidArgument.inj (Except.error.inj hnlb)
    have hfirst := congrArg (fun m : String => m.toList.head?) hmessage
    have hcount : (toString "nlb must be 1..=65536, got ").toList.head? = some 'n' := rfl
    have hbuffer : (toString "buffer length ").toList.head? = some 'b' := rfl
    simp [hcount, hbuffer] at hfirst
  · simp

theorem DataIo.new_check_error {ns : Namespace} {slba : U64} {nlb : U32} {data : Slice} {e : Error}
    (hdata : data.length = nlb.toNat * ns.lbaSize.toNat)
    (he : (DataIo.new ns slba nlb data).check = .error e) : encodeNlb nlb = .error e := by
  have hlen : checkBufLen data.length nlb ns.lbaSize = .ok () :=
    (checkBufLen_decides _ _ _).ok_iff.mpr hdata
  change (checkBufLen data.length nlb ns.lbaSize >>= fun _ =>
    (fun _ => ()) <$> encodeNlb nlb) = .error e at he
  rw [hlen] at he
  cases hnlb : encodeNlb nlb with
  | ok enc =>
    rw [hnlb] at he
    cases he
  | error e' =>
    rw [hnlb] at he
    obtain rfl := Except.error.inj he
    rfl

theorem Read.execute_refused (b : Read) (hvalid : ¬DataIo.Valid b) : Refused (Read.execute b) := by
  rw [← refused_discard]
  have hread : ¬(DeviceOp.read b).Idle := not_false
  exact DeviceOp.refused_of_decides littleHost hread b.check_decides rfl hvalid

theorem Read.execute_invalidArgument (b : Read) {σ : Type} (h : Handler Call Answer σ) (s : σ)
    {m : String} (hexit : ((Read.execute b).run h s).exit = .error (.invalidArgument m)) :
    b.check = .error (.invalidArgument m) := by
  have hensures : (b.request opcRead).program.Ensures fun _ x =>
      x = .error (.invalidArgument m) → b.check = .error (.invalidArgument m) := by
    rw [Submission.ensures_iff]
    refine ⟨fun _ he => Exit.ofExcept_eq_error.mp he, fun _ r => ⟨?_, ?_⟩⟩
    · intro e he hopen
      obtain ⟨-, rfl⟩ := openedFd_error he
      cases hopen
    · intro fd _
      refine ⟨fun hready => (hready rfl).elim, fun _ a hret => ?_⟩
      rcases checkRet_error (Exit.ofExcept_eq_error.mp hret) with ⟨-, _, hos⟩ | ⟨_, hstatus⟩
      · cases hos
      · cases hstatus
  have hrun := hensures.run h s
  rw [← Read.execute_discard, run_discard] at hrun
  exact hrun (Exit.map_eq_error.mpr hexit)

section
variable (t : Target) (ns : Namespace) (slba : U64) {nlb : U32}

theorem Namespace.readToVec_eq :
    ns.readToVec t slba nlb = ofExit (ns.readToVecRead t slba nlb) >>= fun b =>
      Read.execute b >>= fun done => .ret done.data := by
  rw [Namespace.readToVec, Namespace.readToVecRead]
  cases checkedMul nlb.toNat ns.lbaSize.toNat with
  | none => rfl
  | some len =>
    dsimp only
    cases t.alloc len <;> rfl

theorem Namespace.readToVec_granted (hlen : nlb.toNat * ns.lbaSize.toNat ≤ t.allocLimit) :
    ns.readToVec t slba nlb =
      Read.execute (DataIo.new ns slba nlb (.zeros _ (Nat.le_trans hlen t.allocLimit_le))) >>=
        fun done => .ret done.data := by
  rw [Namespace.readToVec_eq, ns.readToVecRead_ok t slba hlen, ofExit_ok, ret_bind]

theorem Namespace.readToVec_aborts (hlen : ¬nlb.toNat * ns.lbaSize.toNat ≤ t.allocLimit) :
    ns.readToVec t slba nlb = .abort := by
  rw [Namespace.readToVec_eq, ns.readToVecRead_aborted t slba hlen, ofExit_aborted, abort_bind]

end

/-- `read_to_vec` refuses the counts out of range, never for the length of its
buffer, and otherwise does what `read` does on a zeroed buffer of the right size. -/
structure ReadsLikeRead (t : Target) (ns : Namespace) (slba : U64) (nlb : U32) : Prop where
  refuses : ¬NlbValid nlb → Refused (ns.readToVec t slba nlb)
  lengthPasses : ∀ (len : ℕ) (e : Error), checkBufLen len nlb ns.lbaSize = .error e →
    ∀ (σ : Type) (h : Handler Call Answer σ) (s : σ),
      ((ns.readToVec t slba nlb).run h s).exit ≠ .error e
  reads : NlbValid nlb → ∃ buf : Slice,
    buf.bytes = List.replicate (nlb.toNat * ns.lbaSize.toNat) 0 ∧
      ∀ (σ : Type) (h : Handler Call Answer σ) (s : σ),
        let read := (Read.execute (DataIo.new ns slba nlb buf)).run h s
        (ns.readToVec t slba nlb).run h s = ⟨read.exit.map (·.data), read.state, read.trace⟩

section
variable (t : Target) (ns : Namespace) (slba : U64) (nlb : U32)

theorem readsLikeRead_of_granted (hlen : nlb.toNat * ns.lbaSize.toNat ≤ t.allocLimit) :
    ReadsLikeRead t ns slba nlb := by
  have hmax := Nat.le_trans hlen t.allocLimit_le
  have hzeros := Slice.length_zeros _ hmax
  have hvec := ns.readToVec_granted t slba hlen
  refine ⟨fun hnlb => ?_, fun len e hbuf σ h s hexit => ?_, fun _ => ⟨.zeros _ hmax, rfl, ?_⟩⟩
  · rw [← refused_discard, hvec, discard_bind_ret, refused_discard]
    exact Read.execute_refused _ fun hvalid => hnlb hvalid.2
  · obtain ⟨-, m, rfl⟩ := (checkBufLen_decides len nlb ns.lbaSize).of_error hbuf
    rw [hvec, run_bind_ret, Exit.map_eq_error] at hexit
    have hcheck := Read.execute_invalidArgument _ h s hexit
    exact checkBufLen_ne_encodeNlb hbuf (DataIo.new_check_error hzeros hcheck)
  · intro σ h s
    rw [hvec]
    exact run_bind_ret h s _ _

theorem readsLikeRead_of_valid (hlimit : 65536 * ns.lbaSize.toNat ≤ t.allocLimit)
    (hnlb : NlbValid nlb) : ReadsLikeRead t ns slba nlb :=
  readsLikeRead_of_granted t ns slba nlb
    (Nat.le_trans (Nat.mul_le_mul_right _ hnlb.2) hlimit)

variable {t ns slba nlb}

theorem ReadsLikeRead.granted (hlike : ReadsLikeRead t ns slba nlb) :
    nlb.toNat * ns.lbaSize.toNat ≤ t.allocLimit := by
  by_contra hlen
  have hvec := ns.readToVec_aborts t slba hlen
  have anyHandler : Handler Call Answer Unit := fun c s => (c.reply.zero, s)
  by_cases hnlb : NlbValid nlb
  · obtain ⟨buf, hbytes, hreads⟩ := hlike.reads hnlb
    have hbuf : buf.length = nlb.toNat * ns.lbaSize.toNat := by
      rw [Slice.length, hbytes, List.length_replicate]
    -- the Read opens the namespace, and a process that is gone opens nothing
    have hread : ¬(DeviceOp.read (DataIo.new ns slba nlb buf)).Idle := not_false
    have haccepts := (DeviceOp.accepts_of_decides t hread
      (DataIo.new_check_decides ns slba hbuf) rfl).mpr hnlb Unit anyHandler ()
    have htrace := congrArg Outcome.trace (hreads Unit anyHandler ())
    rw [hvec, run_abort] at htrace
    change ((Read.execute (DataIo.new ns slba nlb buf)).discard.run anyHandler ()).calls ≠ []
      at haccepts
    rw [run_discard, Outcome.calls, ← htrace] at haccepts
    exact haccepts rfl
  · obtain ⟨-, m, hexit⟩ := hlike.refuses hnlb Unit anyHandler ()
    rw [hvec] at hexit
    cases hexit

end

theorem reads_like_read_iff (t : Target) (ns : Namespace) (slba : U64) (nlb : U32) :
    ReadsLikeRead t ns slba nlb ↔ nlb.toNat * ns.lbaSize.toNat ≤ t.allocLimit :=
  ⟨ReadsLikeRead.granted, readsLikeRead_of_granted t ns slba nlb⟩

def gibibyteHost : Target := { littleHost with allocLimit := 2 ^ 30, allocLimit_le := by decide }

def pageNs : Namespace := { blockNs with getLbaSize := 4096 }

theorem read_to_vec_aborts :
    65536 * pageNs.lbaSize.toNat ≤ gibibyteHost.allocLimit ∧ ¬NlbValid 0xFFFFFFFF ∧
      pageNs.readToVec gibibyteHost 0 0xFFFFFFFF = .abort ∧
      (∀ buf, Refused (Read.execute (DataIo.new pageNs 0 0xFFFFFFFF buf))) ∧
      ¬ReadsLikeRead gibibyteHost pageNs 0 0xFFFFFFFF := by
  have hlen : ¬(0xFFFFFFFF : U32).toNat * pageNs.lbaSize.toNat ≤ gibibyteHost.allocLimit := by
    decide
  have hnlb : ¬NlbValid 0xFFFFFFFF := fun h => absurd h.2 (by decide)
  refine ⟨by decide, hnlb, pageNs.readToVec_aborts gibibyteHost 0 hlen, fun buf => ?_, ?_⟩
  · exact Read.execute_refused _ fun hvalid => hnlb hvalid.2
  · intro hlike
    exact hlen hlike.granted

end LibnvmeRs
