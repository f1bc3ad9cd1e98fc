import LibnvmeRs.Chunks
import LibnvmeRs.Controller

/-!
# Downloading a firmware image

`fw_download` leaves the cutting of the image to `nvme_fw_download_seq` and passes
a maximum of 0 for each partial transfer. libnvme gives 0 no special meaning, so
no transfer takes anything off the image.
-/

namespace LibnvmeRs

open Interaction Program ByteOrder Chunks

/-- How much of what is left libnvme sends with the next partial transfer. -/
structure DownloadLibrary where
  amount : NvmeFwDownloadSeq → ℕ → ℕ

def DownloadLibrary.Documented (lib : DownloadLibrary) : Prop :=
  ∀ args left, lib.amount args left = min args.xfer.toNat left

def failure? (r : CRet) : Option CRet := if r.ret = 0 then none else some r

def NvmeFwDownloadSeq.remaining (args : NvmeFwDownloadSeq) : Remaining Byte :=
  { size := args.size.toNat
    offset := args.offset.toNat
    buf := args.buf.bytes }

namespace DownloadLibrary
variable (lib : DownloadLibrary)

def nvmeFwDownloadSeq (respond : ℕ → CRet) (fuel : ℕ) (args : NvmeFwDownloadSeq) :
    Option (CRet × List (Chunk Byte)) :=
  (sendSeq (lib.amount args) (fun k => failure? (respond k)) fuel 0 args.remaining).map
    fun res => (res.1.getD ⟨0, 0⟩, res.2)

def answer (opened : CRet) (respond : ℕ → CRet) (fuel : ℕ) :
    (c : Call) → Option (Answer c × List (Chunk Byte))
  | .nvmeCtrlGetFd _ => some (opened, [])
  | .nvmeFwDownloadSeq args => lib.nvmeFwDownloadSeq respond fuel args
  | c => some (c.reply.zero, [])

def DownloadsOnce (opened : CRet) (respond : ℕ → CRet) (c : Controller) (image : Slice) : Prop :=
  (∃ fuel, ((c.fwDownload image).tryRun (lib.answer opened respond fuel)).isSome) ∧
    ∀ fuel sent, (c.fwDownload image).tryRun (lib.answer opened respond fuel) =
      some (.ok (), sent) → Tiles 0 image.bytes sent

end DownloadLibrary

section Download
variable {lib : DownloadLibrary} {opened : CRet} {respond : ℕ → CRet} {fuel : ℕ}
variable (c : Controller) (image : Slice)

theorem Controller.fwDownload_eq :
    c.fwDownload image = .call (.nvmeCtrlGetFd c) fun r => ofExcept (openedFd r) >>= fun fd =>
      .call (.nvmeFwDownloadSeq (fwDownloadArgs image fd)) fun r => ofExcept (checkRet r) := rfl

theorem fwDownload_closed (hopen : opened.ret.slt 0 = true) :
    (c.fwDownload image).tryRun (lib.answer opened respond fuel) =
      some (.error (.os opened.lastOsError), []) := by
  have hfd : openedFd opened = .error (.os opened.lastOsError) := if_pos hopen
  rw [c.fwDownload_eq, tryRun_call, DownloadLibrary.answer, Option.bind_some, hfd]
  rfl

theorem fwDownload_opened (hopen : opened.ret.slt 0 = false) :
    (c.fwDownload image).tryRun (lib.answer opened respond fuel) =
      (lib.nvmeFwDownloadSeq respond fuel (fwDownloadArgs image opened.ret)).map fun res =>
        (.ofExcept (checkRet res.1), res.2) := by
  have hfd : openedFd opened = .ok opened.ret := openedFd_ok_iff.mpr ⟨hopen, rfl⟩
  rw [c.fwDownload_eq, tryRun_call, DownloadLibrary.answer, Option.bind_some, hfd, ofExcept_ok,
    ret_bind, tryRun_call, DownloadLibrary.answer]
  cases lib.nvmeFwDownloadSeq respond fuel (fwDownloadArgs image opened.ret) with
  | none => rfl
  | some res => simp

theorem failure_eq_none {r : CRet} : failure? r = none ↔ r.ret = 0 := by
  unfold failure?
  split_ifs with hret
  · exact iff_of_true rfl hret
  · exact iff_of_false (by simp) hret

theorem exists_failure_iff :
    (∃ k e, failure? (respond k) = some e) ↔ ∃ k, (respond k).ret ≠ 0 := by
  refine exists_congr fun k => ?_
  rw [← Option.isSome_iff_exists, ← Option.ne_none_iff_isSome, ne_eq, failure_eq_none]

theorem checkRet_sent {k : ℕ} {r : Remaining Byte} {amount : ℕ → ℕ} {res : Option CRet}
    {sent : List (Chunk Byte)}
    (h : sendSeq amount (fun k => failure? (respond k)) fuel k r = some (res, sent)) :
    checkRet (res.getD ⟨0, 0⟩) = .ok () ↔ res = none := by
  rw [checkRet_eq_ok]
  cases res with
  | none => simp
  | some e =>
    obtain ⟨j, hj⟩ := exists_refused_of_sendSeq h
    obtain ⟨hret, rfl⟩ : ¬(respond j).ret = 0 ∧ respond j = e := by
      simpa [failure?] using hj
    simpa using hret

theorem fwDownload_ok_iff (hopen : opened.ret.slt 0 = false) {sent : List (Chunk Byte)} :
    (c.fwDownload image).tryRun (lib.answer opened respond fuel) = some (.ok (), sent) ↔
      sendSeq (lib.amount (fwDownloadArgs image opened.ret)) (fun k => failure? (respond k)) fuel 0
        (fwDownloadArgs image opened.ret).remaining = some (none, sent) := by
  rw [fwDownload_opened c image hopen, DownloadLibrary.nvmeFwDownloadSeq, Option.map_map]
  generalize hres : sendSeq _ _ _ _ _ = res
  cases res with
  | none => simp
  | some res =>
    have hcheck := checkRet_sent hres
    rw [← Exit.ofExcept_eq_ok] at hcheck
    simp only [Option.map_some, Option.some.injEq, Prod.ext_iff]
    exact and_congr hcheck Iff.rfl

theorem downloadsOnce_iff (hopen : opened.ret.slt 0 = false) :
    lib.DownloadsOnce opened respond c image ↔
      SendsOnce (lib.amount (fwDownloadArgs image opened.ret)) (fun k => failure? (respond k))
        (fwDownloadArgs image opened.ret).remaining := by
  refine and_congr (exists_congr fun fuel => ?_)
    (forall_congr' fun fuel => forall_congr' fun sent => ?_)
  · rw [fwDownload_opened c image hopen, DownloadLibrary.nvmeFwDownloadSeq, Option.isSome_map,
      Option.isSome_map]
  · rw [fwDownload_ok_iff c image hopen]
    rfl

end Download

/-- A download ends, with the image sent once, only by failing: no transfer of a
successful one takes anything off the image. -/
theorem fw_download_once_iff (lib : DownloadLibrary) (hlib : lib.Documented) (opened : CRet)
    (respond : ℕ → CRet) (c : Controller) (image : Slice) (hpos : 0 < image.length)
    (hlen : image.length < 2 ^ 32) :
    lib.DownloadsOnce opened respond c image ↔
      opened.ret.slt 0 = true ∨ ∃ k, (respond k).ret ≠ 0 := by
  cases hopen : opened.ret.slt 0 with
  | true =>
    refine iff_of_true ⟨⟨0, ?_⟩, fun fuel sent h => ?_⟩ (Or.inl rfl)
    · rw [fwDownload_closed c image hopen]
      rfl
    · simp [fwDownload_closed c image hopen] at h
  | false =>
    have hsize : (asU32 image.length).toNat = image.length := asU32_eq_iff.mpr hlen
    have hamount : lib.amount (fwDownloadArgs image opened.ret) = min 0 := funext fun left =>
      hlib _ left
    rw [downloadsOnce_iff c image hopen, hamount, sendsOnce_min_iff hsize, exists_failure_iff]
    have hleft : (fwDownloadArgs image opened.ret).remaining.size ≠ 0 := by
      change (asU32 image.length).toNat ≠ 0
      omega
    simp [hleft]

def documentedDownloadLibrary : DownloadLibrary :=
  { amount := fun args left => min args.xfer.toNat left }

def smallImage : Slice := ⟨[1, 2, 3, 4], by decide⟩

theorem fw_download_once_refused :
    documentedDownloadLibrary.DownloadsOnce ⟨3, 0⟩ (fun k => if k = 2 then ⟨0x10C, 0⟩ else ⟨0, 0⟩)
        7 smallImage ↔
      (3 : I32).slt 0 = true ∨ ∃ k, (if k = 2 then (⟨0x10C, 0⟩ : CRet) else ⟨0, 0⟩).ret ≠ 0 :=
  fw_download_once_iff documentedDownloadLibrary (fun _ _ => rfl) ⟨3, 0⟩ _ 7 smallImage
    (by decide) (by decide)

theorem fw_download_never_ends :
    (∀ fuel, (Controller.fwDownload 7 smallImage).tryRun
      (documentedDownloadLibrary.answer ⟨3, 0⟩ (fun _ => ⟨0, 0⟩) fuel) = none) ∧
    ¬documentedDownloadLibrary.DownloadsOnce ⟨3, 0⟩ (fun _ => ⟨0, 0⟩) 7 smallImage := by
  have hstuck (fuel : ℕ) : (Controller.fwDownload 7 smallImage).tryRun
      (documentedDownloadLibrary.answer ⟨3, 0⟩ (fun _ => ⟨0, 0⟩) fuel) = none := by
    have hsender : sendSeq (min 0) (fun _ => failure? ⟨0, 0⟩) fuel 0
        (fwDownloadArgs smallImage 3).remaining = none :=
      sendSeq_stuck (by decide) (by decide) (fun _ => rfl) fuel 0
    rw [fwDownload_opened 7 smallImage rfl, DownloadLibrary.nvmeFwDownloadSeq, Option.map_map]
    exact congrArg (Option.map _) hsender
  refine ⟨hstuck, fun ⟨⟨fuel, hends⟩, _⟩ => ?_⟩
  rw [hstuck fuel] at hends
  cases hends

end LibnvmeRs
