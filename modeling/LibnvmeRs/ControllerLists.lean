import LibnvmeRs.Controller

/-!
# Controller lists

The controllers to attach are copied into the start of a fixed array of 2047 slots,
and their number into a field of 16 bits. The device reads the number, little-endian,
and that many slots. The longest list the code lets through fills the array, so the
number is exact and the copy stays inside the array.
-/

namespace LibnvmeRs

open Interaction Program ByteOrder

/-- `dst[..stop].copy_from_slice(src)`. It panics on a range that ends past the end of
`dst`, and on a source that is not as long as the range. -/
def copyFromSlice {α : Type} (dst : List α) (stop : ℕ) (src : List α) : Exit Error (List α) :=
  if stop ≤ dst.length ∧ src.length = stop then .ok (src ++ dst.drop stop) else .aborted

def filledList (controllerIds : List U16) : Exit Error NvmeCtrlList :=
  (copyFromSlice (List.replicate 2047 0) controllerIds.length controllerIds).map fun identifier =>
    { num := asU16 controllerIds.length, identifier := identifier }

theorem filledList_eq {controllerIds : List U16} (hlength : controllerIds.length ≤ 2047) :
    filledList controllerIds = .ok (ctrlList controllerIds) := by
  have hinside : controllerIds.length ≤ (List.replicate 2047 (0 : U16)).length := by
    rwa [List.length_replicate]
  rw [filledList, copyFromSlice, if_pos ⟨hinside, rfl⟩, List.drop_replicate]
  rfl

theorem filledList_aborted {controllerIds : List U16} (hlength : 2047 < controllerIds.length) :
    filledList controllerIds = .aborted := by
  have houtside : ¬controllerIds.length ≤ (List.replicate 2047 (0 : U16)).length := by
    rw [List.length_replicate]
    omega
  rw [filledList, copyFromSlice, if_neg fun h => houtside h.1]
  rfl

namespace Controller
variable (c : Controller) (nsid : U32) (controllerIds : List U16) (sel : U32)

def nsAttachOpCopying : Ffi Unit :=
  if 2047 < controllerIds.length then
    .fail (.invalidArgument "controller_ids exceeds the NVMe spec max of 2047 entries")
  else do
    let fd ← c.openFd
    let list ← ofExit (filledList controllerIds)
    let r ← ask (Call.nvmeNsAttach { nsAttachArgs nsid controllerIds sel fd with ctrlist := list })
    checkRet r

theorem nsAttachOp_eq_copying :
    c.nsAttachOp nsid controllerIds sel = c.nsAttachOpCopying nsid controllerIds sel := by
  rw [nsAttachOp, nsAttachOpCopying]
  split_ifs with hlength
  · rfl
  · rw [filledList_eq (Nat.le_of_not_lt hlength)]
    rfl

end Controller

namespace NvmeCtrlList

def memory (e : Endian) (list : NvmeCtrlList) : List Byte :=
  e.store list.num ++ list.identifier.flatMap e.store

/-- What a device reads: little-endian numbers, the identifiers from the third byte on. -/
def decode (bytes : List Byte) : NvmeCtrlList :=
  { num := BitVec.ofNat 16 (leNat (field 0 2 bytes))
    identifier := (List.range 2047).map fun i =>
      BitVec.ofNat 16 (leNat (field (2 + i * 2) 2 bytes)) }

def listed (list : NvmeCtrlList) : List U16 := list.identifier.take list.num.toNat

def unlisted (list : NvmeCtrlList) : List U16 := list.identifier.drop list.num.toNat

theorem length_memory (e : Endian) {list : NvmeCtrlList} (hslots : list.identifier.length = 2047) :
    (list.memory e).length = 4096 := by
  have himage : ∀ x : U16, (e.store x).length = 2 := length_store e
  rw [memory, List.length_append, himage, length_flatMap_image himage, hslots]

theorem decode_memory {list : NvmeCtrlList} (hslots : list.identifier.length = 2047) :
    decode (list.memory .little) = list := by
  have himage : ∀ x : U16, (Endian.little.store x).length = 2 := length_store .little
  have hread : ∀ x : U16, BitVec.ofNat 16 (leNat (Endian.little.store x)) = x := ofNat_store rfl
  have hnum : field 0 2 (list.memory .little) = Endian.little.store list.num := by
    rw [memory, ← himage list.num, field_append_left]
  have hidentifier : ∀ i, field (2 + i * 2) 2 (list.memory .little) =
      field (i * 2) 2 (list.identifier.flatMap Endian.little.store) := by
    intro i
    rw [memory, ← himage list.num, field_append_right]
  rw [decode, hnum, hread]
  simp only [hidentifier]
  rw [← hslots, map_field_flatMap_image himage fun bytes => BitVec.ofNat 16 (leNat bytes)]
  simp only [hread, List.map_id']

/-- The device reads the controllers `ids` in their order, and zeros behind them. -/
structure Carries (list : NvmeCtrlList) (ids : List U16) : Prop where
  slots : list.identifier.length = 2047
  size : ∀ e, (list.memory e).length = 4096
  num : (decode (list.memory .little)).num.toNat = ids.length
  listed : (decode (list.memory .little)).listed = ids
  unlisted : ∀ x ∈ (decode (list.memory .little)).unlisted, x = 0

theorem ctrlList_carries {controllerIds : List U16} (hlength : controllerIds.length ≤ 2047) :
    (ctrlList controllerIds).Carries controllerIds := by
  have hslots : (ctrlList controllerIds).identifier.length = 2047 := by
    rw [ctrlList, List.length_append, List.length_replicate]
    omega
  have hnum : (ctrlList controllerIds).num.toNat = controllerIds.length := by
    rw [ctrlList, asU16, BitVec.toNat_ofNat]
    omega
  refine ⟨hslots, fun e => length_memory e hslots, ?_, ?_, ?_⟩
  · rw [decode_memory hslots, hnum]
  · rw [decode_memory hslots, listed, hnum, ctrlList, List.take_left]
  · intro x hx
    rw [decode_memory hslots, unlisted, hnum, ctrlList, List.drop_left] at hx
    exact List.eq_of_mem_replicate hx

end NvmeCtrlList

namespace Controller
variable (c : Controller) (nsid : U32) {controllerIds : List U16} (sel : U32)

theorem nsAttachOp_calls (hlength : controllerIds.length ≤ 2047) {σ : Type}
    (h : Handler Call Answer σ) (s : σ) :
    ((c.nsAttachOp nsid controllerIds sel).run h s).calls =
      (Device.ctrl c).openThen
        (fun fd => .nvmeNsAttach (nsAttachArgs nsid controllerIds sel fd)) h s := by
  have hcheck : nsAttachCheck controllerIds = .ok () := if_neg (Nat.not_lt_of_le hlength)
  rw [← discard_unit (c.nsAttachOp nsid controllerIds sel), nsAttachOp_discard, nsAttachRequest,
    hcheck, Exit.ofExcept_ok, request_calls]

theorem nsAttachOp_refused_iff :
    Refused (c.nsAttachOp nsid controllerIds sel) ↔ 2047 < controllerIds.length := by
  constructor
  · intro hrefused
    by_contra hlength
    -- a run that was not refused has at least opened the device
    obtain ⟨h, hnone⟩ := hrefused.exists_stopped
    rw [c.nsAttachOp_calls nsid sel (Nat.le_of_not_lt hlength), Device.openThen] at hnone
    split at hnone <;> cases hnone
  · intro hlength σ h s
    rw [nsAttachOp, if_pos hlength]
    exact ⟨rfl, _, rfl⟩

end Controller

theorem controller_lists_intact (c : Controller) (nsid : U32) (controllerIds : List U16) :
    (Refused (c.attachNamespace nsid controllerIds) ↔ 2047 < controllerIds.length) ∧
    (Refused (c.detachNamespace nsid controllerIds) ↔ 2047 < controllerIds.length) ∧
    (controllerIds.length ≤ 2047 →
      filledList controllerIds = .ok (ctrlList controllerIds) ∧
      (ctrlList controllerIds).Carries controllerIds ∧
      ∀ (σ : Type) (h : Handler Call Answer σ) (s : σ),
        ((c.attachNamespace nsid controllerIds).run h s).calls =
          (Device.ctrl c).openThen (fun fd => .nvmeNsAttach
            (nsAttachArgs nsid controllerIds nvmeNsAttachSelCtrlAttach fd)) h s ∧
        ((c.detachNamespace nsid controllerIds).run h s).calls =
          (Device.ctrl c).openThen (fun fd => .nvmeNsAttach
            { nsAttachArgs nsid controllerIds nvmeNsAttachSelCtrlAttach fd with
              sel := nvmeNsAttachSelCtrlDeattach }) h s) := by
  refine ⟨c.nsAttachOp_refused_iff nsid _, c.nsAttachOp_refused_iff nsid _, fun hlength => ?_⟩
  refine ⟨filledList_eq hlength, NvmeCtrlList.ctrlList_carries hlength, fun σ h s => ⟨?_, ?_⟩⟩
  · exact c.nsAttachOp_calls nsid nvmeNsAttachSelCtrlAttach hlength h s
  · exact c.nsAttachOp_calls nsid nvmeNsAttachSelCtrlDeattach hlength h s

end LibnvmeRs
