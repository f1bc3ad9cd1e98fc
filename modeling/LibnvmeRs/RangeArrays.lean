import LibnvmeRs.IoRanges
import LibnvmeRs.SetterCalls

/-!
# What the device makes of a range array

The controller reads the descriptors off the bytes of the array, knowing only
the count and the format that the command announces. This module reads them the
same way and compares the result with the ranges the caller asked for.

The `nlb` of a Dataset Management range is a plain block count, while that of a
Copy descriptor is 0's based; libnvme encodes the range count of a Copy itself.
-/

namespace LibnvmeRs

open Interaction Program ByteOrder SetterCalls

structure Extent where
  context : ℕ
  slba : ℕ
  blocks : ℕ
  deriving DecidableEq

def Extent.covered (x : Extent) : List ℕ := List.range' x.slba x.blocks

def DsmRange.extent (r : DsmRange) : Extent := ⟨r.context.toNat, r.slba.toNat, r.length.toNat⟩

def Extent.ofBytes (bytes : List Byte) : Extent :=
  ⟨leNat (field 0 4 bytes), leNat (field 8 8 bytes), leNat (field 4 4 bytes)⟩

def NvmeDsmArgs.extents (e : Endian) (args : NvmeDsmArgs) : List Extent :=
  (List.range args.nrRanges.toNat).map fun i => .ofBytes (field (i * 16) 16 (args.array e))

theorem DsmRange.ofBytes_image (e : Endian) (r : DsmRange) :
    Extent.ofBytes ((r.toRaw e).image e) = r.extent := by
  have hcontext : leNat (leBytes 4 r.context.toNat) = r.context.toNat :=
    leNat_leBytes_toNat (w := 32) rfl _
  have hlength : leNat (leBytes 4 r.length.toNat) = r.length.toNat :=
    leNat_leBytes_toNat (w := 32) rfl _
  have hslba : leNat (leBytes 8 r.slba.toNat) = r.slba.toNat :=
    leNat_leBytes_toNat (w := 64) rfl _
  calc Extent.ofBytes ((r.toRaw e).image e)
      = ⟨leNat (leBytes 4 r.context.toNat), leNat (leBytes 8 r.slba.toNat),
          leNat (leBytes 4 r.length.toNat)⟩ := by rw [DsmRange.image_toRaw]; rfl
    _ = r.extent := by rw [hcontext, hslba, hlength]; rfl

theorem Dsm.args_extents (e : Endian) (b : Dsm) {ranges : List DsmRange}
    (hmax : ranges.length ≤ 256) (fd : I32) :
    (b.args e ranges fd).extents e = ranges.map DsmRange.extent := by
  have hcount : (asU16 (ranges.map (DsmRange.toRaw e)).length).toNat =
      (ranges.map (DsmRange.toRaw e)).length := asU16_of_lt (by rw [List.length_map]; omega)
  rw [NvmeDsmArgs.extents, Dsm.args]
  dsimp only
  rw [hcount, NvmeDsmArgs.array,
    map_field_flatMap_image (NvmeDsmRange.length_image e) Extent.ofBytes, List.map_map]
  exact List.map_congr_left fun r _ => r.ofBytes_image e

structure TrimRequest where
  slba : U64
  nlb : U32
  context : U32

def TrimRequest.range (r : TrimRequest) : DsmRange :=
  (DsmRange.new r.slba r.nlb).withContext r.context

def TrimRequest.extent (r : TrimRequest) : Extent := ⟨r.context.toNat, r.slba.toNat, r.nlb.toNat⟩

def NvmeDsmArgs.CoversExactly (e : Endian) (args : NvmeDsmArgs) (reqs : List TrimRequest) : Prop :=
  args.nrRanges.toNat = reqs.length ∧
    (args.extents e).map (fun x => (x.context, x.covered)) =
      reqs.map fun r => (r.extent.context, r.extent.covered)

/-- Whatever libnvme answers, an array handed to `nvme_dsm` covers the requests. -/
def Dsm.CoversExactly (e : Endian) (b : Dsm) (reqs : List TrimRequest) : Prop :=
  (b.execute e).OnlyCalls fun c => ∀ args, c = .nvmeDsm args → args.CoversExactly e reqs

theorem Dsm.coversExactly_iff {e : Endian} {b : Dsm} {reqs : List TrimRequest} :
    b.CoversExactly e reqs ↔ (b.Valid → ∀ fd : I32, fd.slt 0 = false →
      (b.args e (b.ranges.getD []) fd).CoversExactly e reqs) := by
  rw [Dsm.CoversExactly, ← onlyCalls_discard, Dsm.execute_discard, Dsm.request, request_onlyCalls,
    Exit.ofExcept_eq_ok, b.check_decides.ok_iff]
  simp

/-- `DsmRange::new` takes one block off the count, and nothing puts it back. -/
theorem TrimRequest.range_extent (r : TrimRequest) :
    r.range.extent = { r.extent with blocks := r.nlb.toNat - 1 } := by
  rw [DsmRange.extent, TrimRequest.range, DsmRange.withContext, DsmRange.new, TrimRequest.extent,
    saturatingSub_toNat]
  rfl

theorem Dsm.extents_short (e : Endian) (b : Dsm) {reqs : List TrimRequest}
    (hmax : reqs.length ≤ 256) (fd : I32) :
    (b.args e (reqs.map TrimRequest.range) fd).extents e =
      reqs.map fun r => { r.extent with blocks := r.nlb.toNat - 1 } := by
  rw [b.args_extents e (by rwa [List.length_map]), List.map_map]
  exact List.map_congr_left fun r _ => r.range_extent

theorem dsm_never_covers (e : Endian) (b : Dsm) (reqs : List TrimRequest)
    (hb : b.ranges = some (reqs.map TrimRequest.range)) (hmin : 1 ≤ reqs.length)
    (hmax : reqs.length ≤ 256) (hnlb : ∀ r ∈ reqs, 1 ≤ r.nlb.toNat) :
    ¬b.CoversExactly e reqs := by
  have hranges : b.ranges.getD [] = reqs.map TrimRequest.range := by rw [hb, Option.getD_some]
  intro hcovers
  have hvalid : b.Valid := by
    rw [Dsm.Valid, hranges, List.length_map]
    exact ⟨hmin, hmax⟩
  have hargs := (Dsm.coversExactly_iff.mp hcovers hvalid 0 rfl).2
  rw [hranges, b.extents_short e hmax, List.map_map] at hargs
  obtain ⟨r, hr⟩ := List.exists_mem_of_length_pos hmin
  have hentry := List.map_inj_left.mp hargs r hr
  have hlen := congrArg (fun p : ℕ × List ℕ => p.2.length) hentry
  have hn := hnlb r hr
  simp [Extent.covered, TrimRequest.extent] at hlen
  omega

theorem dsm_never_covers_one_block :
    ¬Dsm.CoversExactly .little
      ((Dsm.new blockNs .deallocate).set (.ranges [TrimRequest.range ⟨0, 1, 0⟩])) [⟨0, 1, 0⟩] :=
  dsm_never_covers .little _ [⟨0, 1, 0⟩] rfl (by decide) (by decide) (by decide)

/-- `DsmRange::new(0, 1)` reaches the controller as a range of no blocks at all. -/
theorem dsm_single_block_not_trimmed :
    (((Dsm.new blockNs .deallocate).args .little [DsmRange.new 0 1] 3).extents .little =
      [⟨0, 0, 0⟩]) ∧
    ¬Dsm.CoversExactly .little
      ((Dsm.new blockNs .deallocate).set (.ranges [DsmRange.new 0 1])) [⟨0, 1, 0⟩] := by
  refine ⟨by decide, fun hcovers => ?_⟩
  have hargs := (Dsm.coversExactly_iff.mp hcovers ⟨by decide, by decide⟩ 3 rfl).2
  revert hargs
  decide

/-- The two places where libnvme uses `nr`: how many descriptors it transfers, and
the 8-bit field of the command dword, which the controller reads as 0's based. -/
structure CopyLibrary where
  transferred : NvmeCopyArgs → ℕ
  nrField : NvmeCopyArgs → U8

/-- `nr` is a plain count, and libnvme does the 0's based encoding itself. -/
structure CopyLibrary.Documented (lib : CopyLibrary) : Prop where
  transferred_eq : ∀ args, lib.transferred args = args.nr.toNat
  nrField_eq : ∀ args, lib.nrField args = (args.nr - 1).setWidth 8

def CopyLibrary.told (lib : CopyLibrary) (args : NvmeCopyArgs) : ℕ := (lib.nrField args).toNat + 1

def Copy.AnnouncesAll (lib : CopyLibrary) (e : Endian) (b : Copy) : Prop :=
  (b.execute e).OnlyCalls fun c => ∀ args, c = .nvmeCopy args →
    lib.told args = b.ranges.length ∧ lib.transferred args = b.ranges.length

theorem Copy.onlyCopies_iff {e : Endian} {b : Copy} {P : NvmeCopyArgs → Prop} :
    ((b.execute e).OnlyCalls fun c => ∀ args, c = .nvmeCopy args → P args) ↔
      (b.Valid → ∀ fd : I32, fd.slt 0 = false → P (b.args e fd)) := by
  rw [← onlyCalls_discard, Copy.execute_discard, Copy.request, request_onlyCalls,
    Exit.ofExcept_eq_ok, b.check_decides.ok_iff]
  simp

theorem Copy.args_nr (e : Endian) (b : Copy) (hb : b.Valid) (fd : I32) :
    (b.args e fd).nr.toNat = b.ranges.length - 1 := by
  rw [Copy.args]
  dsimp only
  rw [List.length_map]
  exact asU16_of_lt (by have := hb.2; omega)

theorem CopyLibrary.told_args {lib : CopyLibrary} (hlib : lib.Documented) (e : Endian) (b : Copy)
    (hb : b.Valid) (fd : I32) :
    lib.told (b.args e fd) = if b.ranges.length = 1 then 256 else b.ranges.length - 1 := by
  obtain ⟨hmin, hmax⟩ := hb
  have hnr := b.args_nr e ⟨hmin, hmax⟩ fd
  rw [CopyLibrary.told, hlib.nrField_eq, BitVec.toNat_setWidth, BitVec.toNat_sub, hnr]
  split_ifs with hone
  -- `nr` is 0 already, and libnvme subtracts once more
  · rw [hone]
    rfl
  · have hsub : (2 ^ 16 - (1 : U16).toNat + (b.ranges.length - 1)) % 2 ^ 16 =
        b.ranges.length - 2 := by
      change (65536 - 1 + (b.ranges.length - 1)) % 65536 = b.ranges.length - 2
      omega
    rw [hsub]
    omega

theorem Copy.sets_ranges (b : Copy) (calls : List CopySetter) :
    (b.sets calls).ranges = b.ranges :=
  foldl_fixed Copy.ranges (fun _ s => by cases s <;> rfl) calls b

theorem Copy.sets_valid (ns : Namespace) (sdlba : U64) {ranges : List CopyRange}
    (hmin : 1 ≤ ranges.length) (hmax : ranges.length ≤ 128) (calls : List CopySetter) :
    ((Copy.new ns sdlba ranges).sets calls).Valid := by
  rw [Copy.Valid, Copy.sets_ranges]
  exact ⟨hmin, hmax⟩

theorem copy_never_announces_all (lib : CopyLibrary) (hlib : lib.Documented) (e : Endian)
    (ns : Namespace) (sdlba : U64) (ranges : List CopyRange) (calls : List CopySetter)
    (hmin : 1 ≤ ranges.length) (hmax : ranges.length ≤ 128) :
    ¬((Copy.new ns sdlba ranges).sets calls).AnnouncesAll lib e := by
  intro hall
  have hvalid := Copy.sets_valid ns sdlba hmin hmax calls
  have hsent := (Copy.onlyCopies_iff.mp hall hvalid 0 rfl).2
  rw [hlib.transferred_eq, Copy.args_nr e _ hvalid, Copy.sets_ranges] at hsent
  change ranges.length - 1 = ranges.length at hsent
  omega

def documentedCopyLibrary : CopyLibrary :=
  { transferred := fun args => args.nr.toNat
    nrField := fun args => (args.nr - 1).setWidth 8 }

theorem copy_never_announces_all_two_ranges :
    ¬((Copy.new blockNs 0 [.new 0 8, .new 64 8]).sets []).AnnouncesAll
      documentedCopyLibrary .little :=
  copy_never_announces_all documentedCopyLibrary ⟨fun _ => rfl, fun _ => rfl⟩ .little blockNs 0
    [.new 0 8, .new 64 8] [] (by decide) (by decide)

theorem copy_single_range_not_sent :
    documentedCopyLibrary.transferred ((Copy.new blockNs 0 [.new 64 8]).args .little 3) = 0 ∧
    documentedCopyLibrary.told ((Copy.new blockNs 0 [.new 64 8]).args .little 3) = 256 ∧
    ¬(Copy.new blockNs 0 [.new 64 8]).AnnouncesAll documentedCopyLibrary .little := by
  refine ⟨by decide, by decide, fun hall => ?_⟩
  have hsent := (Copy.onlyCopies_iff.mp hall ⟨by decide, by decide⟩ 3 rfl).2
  revert hsent
  decide

/-- Size and field offsets of a descriptor format; the fields up to `nlb` are common. -/
structure DescriptorLayout where
  size : ℕ
  refTagAt : ℕ
  refTagLen : ℕ
  elbatAt : ℕ
  elbatmAt : ℕ

def descriptorLayout (format : U8) : Option DescriptorLayout :=
  if format = 0 ∨ format = 2 then some ⟨32, 24, 4, 28, 30⟩
  else if format = 1 ∨ format = 3 then some ⟨40, 26, 10, 36, 38⟩
  else none

structure CopySource where
  slba : ℕ
  nlb : ℕ
  refTag : ℕ
  elbat : ℕ
  elbatm : ℕ
  deriving DecidableEq

def CopyRange.source (r : CopyRange) : CopySource :=
  ⟨r.slba.toNat, r.nlb.toNat, r.eilbrt.toNat, r.elbat.toNat, r.elbatm.toNat⟩

def DescriptorLayout.read (L : DescriptorLayout) (bytes : List Byte) : CopySource :=
  { slba := leNat (field 8 8 bytes)
    nlb := leNat (field 16 2 bytes) + 1
    refTag := leNat (field L.refTagAt L.refTagLen bytes)
    elbat := leNat (field L.elbatAt 2 bytes)
    elbatm := leNat (field L.elbatmAt 2 bytes) }

/-- The only layout the builder writes is that of `nvme_copy_range`. -/
def builtFormat : U8 := 0

/-- Read with the size of the announced format, the descriptors lie inside the
array and say what the caller's ranges say. -/
def NvmeCopyArgs.MatchesFormat (e : Endian) (args : NvmeCopyArgs) (ranges : List CopyRange) :
    Prop :=
  args.format = builtFormat ∧ ∃ L, descriptorLayout args.format = some L ∧
    ranges.length * L.size ≤ (args.array e).length ∧
    ((List.range ranges.length).map fun i =>
      L.read (field (i * L.size) L.size (args.array e))) = ranges.map CopyRange.source

def Copy.MatchesFormat (e : Endian) (b : Copy) : Prop :=
  (b.execute e).OnlyCalls fun c => ∀ args, c = .nvmeCopy args → args.MatchesFormat e b.ranges

def CopySetter.format? : CopySetter → Option U8
  | .descriptorFormat format => some format
  | _ => none

theorem Copy.sets_format (b : Copy) (calls : List CopySetter) :
    (b.sets calls).format = (lastSome CopySetter.format? calls).getD b.format :=
  foldl_register Copy.format (fun _ s => by cases s <;> rfl) calls b

theorem CopyRange.read_image (e : Endian) (r : CopyRange) :
    DescriptorLayout.read ⟨32, 24, 4, 28, 30⟩ ((r.toRaw e).image e) =
      { r.source with nlb := r.nlb.toNat - 1 + 1 } := by
  have hslba : leNat (leBytes 8 r.slba.toNat) = r.slba.toNat :=
    leNat_leBytes_toNat (w := 64) rfl _
  have hnlb : leNat (leBytes 2 (r.nlb.toNat - 1)) = r.nlb.toNat - 1 := by
    have hlt := r.nlb.isLt
    rw [leNat_leBytes]
    exact Nat.mod_eq_of_lt (by omega)
  have heilbrt : leNat (leBytes 4 r.eilbrt.toNat) = r.eilbrt.toNat :=
    leNat_leBytes_toNat (w := 32) rfl _
  have helbat : leNat (leBytes 2 r.elbat.toNat) = r.elbat.toNat :=
    leNat_leBytes_toNat (w := 16) rfl _
  have helbatm : leNat (leBytes 2 r.elbatm.toNat) = r.elbatm.toNat :=
    leNat_leBytes_toNat (w := 16) rfl _
  calc DescriptorLayout.read ⟨32, 24, 4, 28, 30⟩ ((r.toRaw e).image e)
      = ⟨leNat (leBytes 8 r.slba.toNat), leNat (leBytes 2 (r.nlb.toNat - 1)) + 1,
          leNat (leBytes 4 r.eilbrt.toNat), leNat (leBytes 2 r.elbat.toNat),
          leNat (leBytes 2 r.elbatm.toNat)⟩ := by rw [CopyRange.image_toRaw]; rfl
    _ = { r.source with nlb := r.nlb.toNat - 1 + 1 } := by
      rw [hslba, hnlb, heilbrt, helbat, helbatm]
      rfl

/-- Read with the layout of `nvme_copy_range`, the array says what the ranges say, except
that a range of no blocks has become one of one block. -/
theorem Copy.args_read (e : Endian) (b : Copy) (fd : I32) :
    ((List.range b.ranges.length).map fun i =>
      DescriptorLayout.read ⟨32, 24, 4, 28, 30⟩ (field (i * 32) 32 ((b.args e fd).array e))) =
        b.ranges.map fun r => { r.source with nlb := r.nlb.toNat - 1 + 1 } := by
  have hcount : b.ranges.length = (b.ranges.map (CopyRange.toRaw e)).length := by
    rw [List.length_map]
  rw [NvmeCopyArgs.array, Copy.args]
  dsimp only
  rw [hcount, map_field_flatMap_image (NvmeCopyRange.length_image e), List.map_map]
  exact List.map_congr_left fun r _ => r.read_image e

theorem Copy.args_matchesFormat_iff (e : Endian) (b : Copy) (fd : I32) :
    (b.args e fd).MatchesFormat e b.ranges ↔
      b.format = 0 ∧ ∀ r ∈ b.ranges, 1 ≤ r.nlb.toNat := by
  have hlength : ((b.args e fd).array e).length = b.ranges.length * 32 := by
    rw [NvmeCopyArgs.array, length_flatMap_image (NvmeCopyRange.length_image e), Copy.args]
    dsimp only
    rw [List.length_map]
  constructor
  · rintro ⟨hformat, L, hL, -, hsources⟩
    have hzero : descriptorLayout builtFormat = some ⟨32, 24, 4, 28, 30⟩ := rfl
    rw [hformat, hzero] at hL
    obtain rfl := Option.some.inj hL
    rw [b.args_read] at hsources
    refine ⟨hformat, fun r hr => ?_⟩
    have hnlb := congrArg CopySource.nlb (List.map_inj_left.mp hsources r hr)
    change r.nlb.toNat - 1 + 1 = r.nlb.toNat at hnlb
    omega
  · rintro ⟨hformat, hnlb⟩
    refine ⟨hformat, ⟨32, 24, 4, 28, 30⟩, ?_, Nat.le_of_eq hlength.symm, ?_⟩
    · change descriptorLayout b.format = _
      rw [hformat]
      rfl
    · rw [b.args_read]
      refine List.map_congr_left fun r hr => ?_
      rw [Nat.sub_add_cancel (hnlb r hr)]
      rfl

theorem copy_matches_format_iff (e : Endian) (ns : Namespace) (sdlba : U64)
    (ranges : List CopyRange) (calls : List CopySetter) (hmin : 1 ≤ ranges.length)
    (hmax : ranges.length ≤ 128) :
    ((Copy.new ns sdlba ranges).sets calls).MatchesFormat e ↔
      (lastSome CopySetter.format? calls).getD 0 = 0 ∧ ∀ r ∈ ranges, 1 ≤ r.nlb.toNat := by
  have hvalid := Copy.sets_valid ns sdlba hmin hmax calls
  have hargs : ∀ fd, (((Copy.new ns sdlba ranges).sets calls).args e fd).MatchesFormat e
      ((Copy.new ns sdlba ranges).sets calls).ranges ↔
        (lastSome CopySetter.format? calls).getD 0 = 0 ∧ ∀ r ∈ ranges, 1 ≤ r.nlb.toNat := by
    intro fd
    rw [Copy.args_matchesFormat_iff, Copy.sets_format, Copy.sets_ranges]
    rfl
  rw [Copy.MatchesFormat, Copy.onlyCopies_iff]
  constructor
  · intro hmatches
    exact (hargs 0).mp (hmatches hvalid 0 rfl)
  · intro hcond _ fd _
    exact (hargs fd).mpr hcond

theorem copy_matches_format_two_ranges :
    ((Copy.new blockNs 0 [.new 0 8, .new 64 8]).sets [.fua]).MatchesFormat .little ↔
      (lastSome CopySetter.format? [.fua]).getD 0 = 0 ∧
        ∀ r ∈ [CopyRange.new 0 8, .new 64 8], 1 ≤ r.nlb.toNat :=
  copy_matches_format_iff .little blockNs 0 [.new 0 8, .new 64 8] [.fua] (by decide) (by decide)

theorem copy_format_one_overreads :
    let b := (Copy.new blockNs 0 [.new 64 8]).sets [.descriptorFormat 1]
    descriptorLayout (b.args .little 3).format = some ⟨40, 26, 10, 36, 38⟩ ∧
      ((b.args .little 3).array .little).length = 32 ∧ ¬b.MatchesFormat .little := by
  refine ⟨rfl, by decide, fun hmatches => ?_⟩
  have hargs := (Copy.onlyCopies_iff.mp hmatches ⟨by decide, by decide⟩ 3 rfl).1
  revert hargs
  decide

end LibnvmeRs
