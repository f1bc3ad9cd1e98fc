import LibnvmeRs.Controller
import LibnvmeRs.Pages

/-!
# The Error Information log

Identify Controller gives the number of entries of the log, 0's based, and the getter
hands that number on as it is. Used as the number of entries to fetch, which is where
the documentation of `error_log` points, it asks for one entry too few.
-/

namespace LibnvmeRs

open Interaction Program ByteOrder

structure NvmeErrorLogPage where
  bytes : Vector Byte sizeofNvmeErrorLogPage
  deriving DecidableEq

namespace NvmeErrorLogPage

def image (page : NvmeErrorLogPage) : List Byte := page.bytes.toList

def entry (page : NvmeErrorLogPage) : ErrorLogEntry := ⟨page.image⟩

theorem length_image (page : NvmeErrorLogPage) : page.image.length = sizeofNvmeErrorLogPage :=
  page.bytes.size_toArray

end NvmeErrorLogPage

/-- The entries of a controller with this Identify page, newest first: ELPE and one. -/
structure ErrorInformationLog (page : IdentifyController) where
  entries : List NvmeErrorLogPage
  length_eq : entries.length = page.inner.elpe.toNat + 1

/-- libnvme opens the controller and stores as much of the log as is asked for. -/
structure ServesErrorLog {σ : Type} (h : Handler Call Answer σ) (c : Controller) (fd : I32)
    (log : List NvmeErrorLogPage) : Prop where
  opens : ∀ s, openedFd (h (.nvmeCtrlGetFd c) s).1 = .ok fd
  stores : ∀ args s, args.lid = nvmeLogLidError →
    (h (.nvmeGetLog args) s).1.cret.ret = 0 ∧
      (h (.nvmeGetLog args) s).1.data =
        (log.flatMap NvmeErrorLogPage.image).take args.len.toNat

theorem errorLogEntries_fill {log : List NvmeErrorLogPage} {maxEntries : U32}
    (hmax : maxEntries.toNat ≤ log.length) {entries : Slice}
    (hentries : entries.length = sizeofNvmeErrorLogPage * maxEntries.toNat) :
    errorLogEntries maxEntries (entries.fill
        ((log.flatMap NvmeErrorLogPage.image).take (sizeofNvmeErrorLogPage * maxEntries.toNat))) =
      (log.take maxEntries.toNat).map NvmeErrorLogPage.entry := by
  have htake : (log.flatMap NvmeErrorLogPage.image).take
      (sizeofNvmeErrorLogPage * maxEntries.toNat) =
        (log.take maxEntries.toNat).flatMap NvmeErrorLogPage.image := by
    rw [Nat.mul_comm, take_flatMap_image NvmeErrorLogPage.length_image hmax]
  have hstored : (log.take maxEntries.toNat).length = maxEntries.toNat :=
    List.length_take_of_le hmax
  have hlength : ((log.take maxEntries.toNat).flatMap NvmeErrorLogPage.image).length =
      entries.length := by
    rw [length_flatMap_image NvmeErrorLogPage.length_image, hstored, hentries, Nat.mul_comm]
  have hread := map_field_flatMap_image NvmeErrorLogPage.length_image ErrorLogEntry.mk
    (log.take maxEntries.toNat)
  rw [hstored] at hread
  rw [htake, errorLogEntries, Slice.bytes_fill hlength]
  exact hread

theorem errorLog_returns (t : Target) {c : Controller} {σ : Type} {h : Handler Call Answer σ}
    {fd : I32} {log : List NvmeErrorLogPage} (hserves : ServesErrorLog h c fd log)
    {maxEntries : U32} (hmax : maxEntries.toNat ≤ log.length)
    (hlen : sizeofNvmeErrorLogPage * maxEntries.toNat < 2 ^ 32)
    (halloc : sizeofNvmeErrorLogPage * maxEntries.toNat ≤ t.allocLimit) :
    (c.errorLog t maxEntries).Returns h
      ((log.take maxEntries.toNat).map NvmeErrorLogPage.entry) := by
  rw [Controller.errorLog]
  split_ifs with hzero
  · rw [hzero]
    exact returns_ret h []
  · have hopen : c.openFd.Returns h fd := by
      intro s
      rw [Controller.openFd, ask_bind, run_call, hserves.opens, liftM_eq, ofExcept_ok, run_ret]
    obtain ⟨entries, hbuffer, hentries⟩ := errorLogBuffer_ok t halloc
    refine hopen.bind fun s => ?_
    obtain ⟨hcret, hdata⟩ := hserves.stores (errorLogArgs maxEntries entries fd) s rfl
    -- what is announced is the size of the buffer
    have hsize : (errorLogArgs maxEntries entries fd).len.toNat =
        sizeofNvmeErrorLogPage * maxEntries.toNat := asU32_eq_iff.mpr hlen
    rw [hbuffer, ofExit_ok, ret_bind, ask_bind, run_call]
    simp only [liftM_eq, checkRet_eq_ok.mpr hcret, ofExcept_ok, ret_bind, pure_eq, run_ret]
    rw [hdata, hsize, errorLogEntries_fill hmax hentries]

theorem errorLog_length (t : Target) {c : Controller} {σ : Type} {h : Handler Call Answer σ}
    {s : σ} {maxEntries : U32} {result : List ErrorLogEntry}
    (hexit : ((c.errorLog t maxEntries).run h s).exit = .ok result) :
    result.length = maxEntries.toNat := by
  rw [Controller.errorLog] at hexit
  split_ifs at hexit with hzero
  · obtain rfl := Exit.ok.inj hexit
    rw [hzero]
    rfl
  · obtain ⟨fd, -, hopened⟩ := exists_of_run_bind h s hexit
    obtain ⟨entries, -, hready⟩ := exists_of_run_bind h _ hopened
    obtain ⟨done, -, hsent⟩ := exists_of_run_bind h _ hready
    obtain ⟨-, -, hdone⟩ := exists_of_run_bind h _ hsent
    obtain rfl := Exit.ok.inj hdone
    rw [errorLogEntries, List.length_map, List.length_range]

section Reported
variable {page : IdentifyController} (log : ErrorInformationLog page) (t : Target) (c : Controller)

theorem toNat_errorLogPageEntries (page : IdentifyController) :
    (page.errorLogPageEntries.setWidth 32 : U32).toNat = page.inner.elpe.toNat :=
  BitVec.toNat_setWidth_of_le (by decide)

theorem error_log_incomplete (σ : Type) (h : Handler Call Answer σ) (s : σ) :
    ((c.errorLog t (page.errorLogPageEntries.setWidth 32)).run h s).exit ≠
      .ok (log.entries.map NvmeErrorLogPage.entry) := by
  intro hexit
  have hlength := errorLog_length t hexit
  rw [List.length_map, log.length_eq, toNat_errorLogPageEntries] at hlength
  omega

variable {σ : Type} {h : Handler Call Answer σ} {fd : I32}

/-- What comes back is the log without its oldest entry. -/
theorem error_log_reported (hserves : ServesErrorLog h c fd log.entries)
    (halloc : sizeofNvmeErrorLogPage * page.inner.elpe.toNat ≤ t.allocLimit) :
    (c.errorLog t (page.errorLogPageEntries.setWidth 32)).Returns h
      (log.entries.dropLast.map NvmeErrorLogPage.entry) := by
  have hcount := toNat_errorLogPageEntries page
  have helpe : page.inner.elpe.toNat < 256 := page.inner.elpe.isLt
  have hmax : page.inner.elpe.toNat ≤ log.entries.length := by
    rw [log.length_eq]
    omega
  have hlen : sizeofNvmeErrorLogPage * page.inner.elpe.toNat < 2 ^ 32 := by
    rw [sizeofNvmeErrorLogPage]
    omega
  rw [← hcount] at hmax hlen halloc
  have hreturns := errorLog_returns t hserves hmax hlen halloc
  rwa [hcount, ← Nat.add_sub_cancel page.inner.elpe.toNat 1, ← log.length_eq,
    ← List.dropLast_eq_take] at hreturns

theorem error_log_one_more (hserves : ServesErrorLog h c fd log.entries)
    (halloc : sizeofNvmeErrorLogPage * (page.inner.elpe.toNat + 1) ≤ t.allocLimit) :
    (c.errorLog t (page.errorLogPageEntries.setWidth 32 + 1)).Returns h
      (log.entries.map NvmeErrorLogPage.entry) := by
  have helpe : page.inner.elpe.toNat < 256 := page.inner.elpe.isLt
  have hcount : (page.errorLogPageEntries.setWidth 32 + 1 : U32).toNat =
      log.entries.length := by
    have hone : (1 : U32).toNat = 1 := rfl
    rw [BitVec.toNat_add, toNat_errorLogPageEntries, log.length_eq, hone]
    omega
  have hlen : sizeofNvmeErrorLogPage * log.entries.length < 2 ^ 32 := by
    rw [log.length_eq, sizeofNvmeErrorLogPage]
    omega
  rw [← log.length_eq, ← hcount] at halloc
  rw [← hcount] at hlen
  have hreturns := errorLog_returns t hserves (Nat.le_of_eq hcount) hlen halloc
  rwa [hcount, List.take_length] at hreturns

end Reported

def logLibrary (log : List NvmeErrorLogPage) : Handler Call Answer Unit
  | .nvmeCtrlGetFd _, s => (⟨3, 0⟩, s)
  | .nvmeGetLog args, s =>
    ({ cret := ⟨0, 0⟩
       result := ()
       data := (log.flatMap NvmeErrorLogPage.image).take args.len.toNat
       metadata := [] }, s)
  | c, s => (c.reply.zero, s)

theorem logLibrary_serves (log : List NvmeErrorLogPage) (c : Controller) :
    ServesErrorLog (logLibrary log) c 3 log where
  opens _ := rfl
  stores _ _ _ := ⟨rfl, rfl⟩

def twoFailuresPage : IdentifyController :=
  { inner :=
      { sn := .replicate 20 0x20, mn := .replicate 40 0x20, fr := .replicate 8 0x20, elpe := 1 } }

def twoFailures : ErrorInformationLog twoFailuresPage :=
  { entries := [⟨.replicate 64 0x02⟩, ⟨.replicate 64 0x01⟩], length_eq := rfl }

theorem older_failure_missing :
    (Controller.errorLog littleHost 0 (twoFailuresPage.errorLogPageEntries.setWidth 32)).Returns
        (logLibrary twoFailures.entries) [⟨List.replicate 64 0x02⟩] ∧
      ¬(Controller.errorLog littleHost 0 (twoFailuresPage.errorLogPageEntries.setWidth 32)).Returns
        (logLibrary twoFailures.entries) [⟨List.replicate 64 0x02⟩, ⟨List.replicate 64 0x01⟩] := by
  have hserves := logLibrary_serves twoFailures.entries 0
  have hnewest := error_log_reported twoFailures littleHost 0 hserves (by decide)
  refine ⟨hnewest, fun hboth => ?_⟩
  have hsame := Exit.ok.inj ((hnewest ()).symm.trans (hboth ()))
  exact absurd (congrArg List.length hsame) (by decide)

end LibnvmeRs
