import LibnvmeRs.Controller
import LibnvmeRs.NamespaceCommands
import LibnvmeRs.SetterCalls
import Mathlib.Data.Vector.Basic

/-!
# Decoding device pages

The accessors of the Identify structures, the SMART log and the Firmware Slot log.
A page is what the device sent: single bytes, and pairs of bytes where the structure
has a two-byte member, which the host reads in its own order.

Shifts and subtractions follow the build: one with overflow checks stops the
process, one without keeps the low bits.
-/

namespace LibnvmeRs

open Interaction Program ByteOrder SetterCalls

inductive Build where
  | debug
  | release
  deriving DecidableEq, Repr

namespace Build

def overflow {α : Type} (b : Build) (wrapped : α) : Exit Error α :=
  match b with
  | .debug => .aborted
  | .release => .ok wrapped

/-- `x << n`; an unchecked shift takes its count modulo the width. -/
def shlU32 (b : Build) (x : U32) (n : ℕ) : Exit Error U32 :=
  if n < 32 then .ok (x <<< n) else b.overflow (x <<< (n % 32))

def subU8 (b : Build) (x y : U8) : Exit Error U8 :=
  if y ≤ x then .ok (x - y) else b.overflow (x - y)

end Build

def indexed {α : Type} {n : ℕ} (v : Vector α n) (i : ℕ) : Exit Error α :=
  if h : i < n then .ok v[i] else .aborted

def loadU16 (e : Endian) (bytes : Vector Byte 2) : U16 := BitVec.ofNat 16 (e.load bytes.toList)

structure NvmeLbaf where
  ms : Vector Byte 2
  ds : U8
  rp : U8
  deriving DecidableEq

/-- The 4096 bytes of the page. `sizes` are `nsze` to `nsfeat`, `attributes` are `mc` to
`eui64`. -/
structure NvmeIdNs where
  sizes : Vector Byte 25
  nlbaf : U8
  flbas : U8
  attributes : Vector Byte 101
  lbaf : Vector NvmeLbaf 64
  vs : Vector Byte 3712

structure LbaFormat where
  metadataSize : U16
  dataSizeBytes : U32
  relativePerformance : U8
  deriving DecidableEq, Repr

def LbaFormat.fromRaw (b : Build) (e : Endian) (raw : NvmeLbaf) : Exit Error LbaFormat := do
  let dataSizeBytes ← if raw.ds = 0 then pure 0 else b.shlU32 1 raw.ds.toNat
  return {
    metadataSize := loadU16 e raw.ms
    dataSizeBytes := dataSizeBytes
    relativePerformance := raw.rp &&& 0x3 }

structure IdentifyNamespace where
  inner : NvmeIdNs

namespace IdentifyNamespace

def numLbaFormats (page : IdentifyNamespace) : U8 := page.inner.nlbaf

def formattedLbaSize (page : IdentifyNamespace) : U8 := page.inner.flbas

def lbaFormat (b : Build) (e : Endian) (page : IdentifyNamespace) (index : U8) :
    Exit Error (Option LbaFormat) :=
  match page.inner.lbaf[index.toNat]? with
  | none => pure none
  | some raw => do
    let format ← LbaFormat.fromRaw b e raw
    return if format.dataSizeBytes = 0 then none else some format

def currentLbaFormat (b : Build) (e : Endian) (page : IdentifyNamespace) :
    Exit Error (Option LbaFormat) :=
  page.lbaFormat b e (page.formattedLbaSize &&& 0x0F)

end IdentifyNamespace

structure NvmeIdCtrl where
  sn : Vector Byte 20
  mn : Vector Byte 40
  fr : Vector Byte 8
  elpe : U8

structure IdentifyController where
  inner : NvmeIdCtrl

namespace IdentifyController

def serialNumber (page : IdentifyController) : Except Error Str :=
  fixedAsciiToStr page.inner.sn.toList

def modelNumber (page : IdentifyController) : Except Error Str :=
  fixedAsciiToStr page.inner.mn.toList

def firmwareRevision (page : IdentifyController) : Except Error Str :=
  fixedAsciiToStr page.inner.fr.toList

def errorLogPageEntries (page : IdentifyController) : U8 := page.inner.elpe

end IdentifyController

structure NvmeSmartLog where
  temperature : Vector Byte 2
  tempSensor : Vector (Vector Byte 2) 8

structure SmartLog where
  inner : NvmeSmartLog

namespace SmartLog

def temperatureKelvin (log : SmartLog) : U16 := loadU16 .little log.inner.temperature

/-- The difference is taken in 32 bits, where it cannot overflow, and cut to 16. -/
def temperatureCelsius (log : SmartLog) : BitVec 16 :=
  (log.temperatureKelvin.setWidth 32 - 273 : I32).setWidth 16

def temperatureSensorKelvin (b : Build) (e : Endian) (log : SmartLog) (index : U8) :
    Exit Error (Option U16) :=
  if ¬(1 ≤ index ∧ index ≤ 8) then pure none
  else do
    let i ← b.subU8 index 1
    let sensor ← indexed log.inner.tempSensor i.toNat
    let value := loadU16 e sensor
    return if value = 0 then none else some value

end SmartLog

namespace FirmwareSlotLog

def activeSlot (log : FirmwareSlotLog) : U8 := log.inner.afi &&& 0x07

def nextSlotToActivate (log : FirmwareSlotLog) : Option U8 :=
  let next := (log.inner.afi >>> 4) &&& 0x07
  if next = 0 then none else some next

end FirmwareSlotLog

/-- A result with its numbers as numbers. A format is its metadata size, data size
and relative performance. -/
inductive Reading where
  | format (f : Option (ℕ × ℕ × ℕ))
  | celsius (t : ℤ)
  | kelvin (t : Option ℕ)
  | slot (s : ℕ)
  | nextSlot (s : Option ℕ)
  | revision (r : Except Error Str)
  deriving DecidableEq

inductive Access where
  | lbaFormat (page : IdentifyNamespace) (index : U8)
  | currentLbaFormat (page : IdentifyNamespace)
  | temperatureCelsius (log : SmartLog)
  | temperatureSensorKelvin (log : SmartLog) (index : U8)
  | activeSlot (log : FirmwareSlotLog)
  | nextSlotToActivate (log : FirmwareSlotLog)
  | slotFirmware (log : FirmwareSlotLog) (slot : U8)

def LbaFormat.numbers (f : LbaFormat) : ℕ × ℕ × ℕ :=
  (f.metadataSize.toNat, f.dataSizeBytes.toNat, f.relativePerformance.toNat)

def Access.run (b : Build) (e : Endian) : Access → Exit Error Reading
  | .lbaFormat page index =>
    (page.lbaFormat b e index).map fun f => .format (f.map LbaFormat.numbers)
  | .currentLbaFormat page =>
    (page.currentLbaFormat b e).map fun f => .format (f.map LbaFormat.numbers)
  | .temperatureCelsius log => .ok (.celsius log.temperatureCelsius.toInt)
  | .temperatureSensorKelvin log index =>
    (log.temperatureSensorKelvin b e index).map fun t => .kelvin (t.map BitVec.toNat)
  | .activeSlot log => .ok (.slot log.activeSlot.toNat)
  | .nextSlotToActivate log => .ok (.nextSlot (log.nextSlotToActivate.map BitVec.toNat))
  | .slotFirmware log slot => .ok (.revision (log.slotFirmware slot))

def NvmeLbaf.exact (raw : NvmeLbaf) : Option (ℕ × ℕ × ℕ) :=
  if raw.ds.toNat = 0 ∨ 2 ^ 32 ≤ 2 ^ raw.ds.toNat then none
  else some (leNat raw.ms.toList, 2 ^ raw.ds.toNat, raw.rp.toNat % 4)

def nonzero (n : ℕ) : Option ℕ := if n = 0 then none else some n

def oneBased {α : Type} {n : ℕ} (v : Vector α n) (i : ℕ) : Option α :=
  if i = 0 then none else v[i - 1]?

def Access.exact : Access → Reading
  | .lbaFormat page index => .format (page.inner.lbaf[index.toNat]?.bind NvmeLbaf.exact)
  | .currentLbaFormat page =>
    .format (page.inner.lbaf[page.inner.flbas.toNat % 16]?.bind NvmeLbaf.exact)
  | .temperatureCelsius log => .celsius (leNat log.inner.temperature.toList - 273)
  | .temperatureSensorKelvin log index =>
    .kelvin ((oneBased log.inner.tempSensor index.toNat).bind fun s => nonzero (leNat s.toList))
  | .activeSlot log => .slot (log.inner.afi.toNat % 8)
  | .nextSlotToActivate log => .nextSlot (nonzero (log.inner.afi.toNat / 16 % 8))
  | .slotFirmware log slot =>
    .revision ((oneBased log.inner.frs slot.toNat).elim (.error .notAvailable)
      fun f => fixedAsciiToStr f.toList)

def ReadsAlike (e : Endian) (bytes : Vector Byte 2) : Prop := e = .little ∨ bytes[0] = bytes[1]

def NvmeLbaf.InRange (e : Endian) (raw : NvmeLbaf) : Prop :=
  raw.ds.toNat < 32 ∧ (raw.ds.toNat ≠ 0 → ReadsAlike e raw.ms)

def Access.InRange (e : Endian) : Access → Prop
  | .lbaFormat page index => ∀ raw ∈ page.inner.lbaf[index.toNat]?, raw.InRange e
  | .currentLbaFormat page => ∀ raw ∈ page.inner.lbaf[page.inner.flbas.toNat % 16]?, raw.InRange e
  | .temperatureCelsius log => leNat log.inner.temperature.toList < 2 ^ 15 + 273
  | .temperatureSensorKelvin log index =>
    ∀ s ∈ oneBased log.inner.tempSensor index.toNat, ReadsAlike e s
  | .activeSlot _ | .nextSlotToActivate _ | .slotFirmware .. => True

theorem toList_pair (v : Vector Byte 2) : v.toList = [v[0], v[1]] := by
  apply List.ext_getElem
  · simp
  · intro i hi hi'
    obtain rfl | rfl : i = 0 ∨ i = 1 := by
      have hlt : i < 2 := by simpa using hi
      omega
    · rfl
    · rfl

theorem loadU16_toNat (e : Endian) (v : Vector Byte 2) :
    (loadU16 e v).toNat = e.load v.toList := by
  have hlt := load_lt e v.toList
  rw [Vector.length_toList] at hlt
  rw [loadU16, BitVec.toNat_ofNat]
  exact Nat.mod_eq_of_lt hlt

theorem loadU16_exact (e : Endian) (v : Vector Byte 2) :
    (loadU16 e v).toNat = leNat v.toList ↔ ReadsAlike e v := by
  rw [loadU16_toNat, toList_pair, load_pair_iff, ReadsAlike]

namespace Build

def shiftCount (b : Build) (n : ℕ) : Option ℕ :=
  match b with
  | .debug => if n < 32 then some n else none
  | .release => some (n % 32)

theorem shiftCount_of_lt (b : Build) {n : ℕ} (hn : n < 32) : b.shiftCount n = some n := by
  cases b with
  | debug => exact if_pos hn
  | release => exact congrArg some (Nat.mod_eq_of_lt hn)

theorem shiftCount_lt {b : Build} {n k : ℕ} (hk : b.shiftCount n = some k) : k < 32 := by
  cases b with
  | debug =>
    simp only [shiftCount, Option.ite_none_right_eq_some, Option.some.injEq] at hk
    omega
  | release =>
    simp only [shiftCount, Option.some.injEq] at hk
    omega

theorem shlU32_eq (b : Build) (x : U32) (n : ℕ) :
    b.shlU32 x n = (b.shiftCount n).elim .aborted fun k => .ok (x <<< k) := by
  by_cases hn : n < 32
  · rw [shlU32, if_pos hn, b.shiftCount_of_lt hn, Option.elim_some]
  · cases b with
    | debug => rw [shlU32, if_neg hn, shiftCount, if_neg hn, overflow, Option.elim_none]
    | release => rw [shlU32, if_neg hn, shiftCount, overflow, Option.elim_some]

end Build

theorem one_shl_toNat {k : ℕ} (hk : k < 32) : ((1 : U32) <<< k).toNat = 2 ^ k := by
  have hone : (1 : U32).toNat = 1 := rfl
  have hpow : 2 ^ k < 2 ^ 32 := Nat.pow_lt_pow_right (by omega) hk
  rw [BitVec.toNat_shiftLeft, hone, Nat.one_shiftLeft, Nat.mod_eq_of_lt hpow]

theorem one_shl_ne_zero {k : ℕ} (hk : k < 32) : (1 : U32) <<< k ≠ 0 := by
  intro h
  have hvalue : 2 ^ k = 0 := by
    rw [← one_shl_toNat hk, h]
    rfl
  have hpos : 0 < 2 ^ k := Nat.two_pow_pos k
  omega

def decodeSlot (b : Build) (e : Endian) (raw : NvmeLbaf) : Exit Error (Option LbaFormat) := do
  let format ← LbaFormat.fromRaw b e raw
  return if format.dataSizeBytes = 0 then none else some format

section Slot
variable (b : Build) (e : Endian) {page : IdentifyNamespace} {index : U8} {raw : NvmeLbaf}

theorem lbaFormat_none (hslot : page.inner.lbaf[index.toNat]? = none) :
    page.lbaFormat b e index = .ok none := by
  rw [IdentifyNamespace.lbaFormat, hslot, Exit.pure_eq]

theorem lbaFormat_some (hslot : page.inner.lbaf[index.toNat]? = some raw) :
    page.lbaFormat b e index = decodeSlot b e raw := by
  rw [IdentifyNamespace.lbaFormat, hslot, decodeSlot]

theorem decodeSlot_zero (hds : raw.ds = 0) : decodeSlot b e raw = .ok none := by
  rw [decodeSlot, LbaFormat.fromRaw, if_pos hds]
  rfl

theorem decodeSlot_none (hds : raw.ds ≠ 0) (hcount : b.shiftCount raw.ds.toNat = none) :
    decodeSlot b e raw = .aborted := by
  rw [decodeSlot, LbaFormat.fromRaw, if_neg hds, b.shlU32_eq, hcount]
  rfl

theorem decodeSlot_some (hds : raw.ds ≠ 0) {k : ℕ} (hcount : b.shiftCount raw.ds.toNat = some k) :
    decodeSlot b e raw = .ok (some ⟨loadU16 e raw.ms, (1 : U32) <<< k, raw.rp &&& 0x3⟩) := by
  have hne := one_shl_ne_zero (Build.shiftCount_lt hcount)
  simp only [decodeSlot, LbaFormat.fromRaw, if_neg hds, b.shlU32_eq, hcount, Option.elim_some,
    Exit.ok_bind, Exit.pure_eq, if_neg hne]

end Slot

theorem and_low_toNat {x m : U8} (k : ℕ) (hm : m.toNat = 2 ^ k - 1) :
    (x &&& m).toNat = x.toNat % 2 ^ k := by
  rw [BitVec.toNat_and, hm, Nat.and_two_pow_sub_one_eq_mod]

theorem and_three_toNat (x : U8) : (x &&& 0x3).toNat = x.toNat % 4 := and_low_toNat 2 rfl

theorem decodeSlot_exact (b : Build) (e : Endian) (raw : NvmeLbaf) :
    (decodeSlot b e raw).map (Option.map LbaFormat.numbers) = .ok raw.exact ↔ raw.InRange e := by
  by_cases hds : raw.ds = 0
  · have hzero : raw.ds.toNat = 0 := by simp [hds]
    simp [decodeSlot_zero b e hds, NvmeLbaf.exact, NvmeLbaf.InRange, hzero]
  have hzero : raw.ds.toNat ≠ 0 := by simpa [← BitVec.toNat_inj] using hds
  by_cases hlt : raw.ds.toNat < 32
  · have hfits : ¬2 ^ 32 ≤ 2 ^ raw.ds.toNat :=
      Nat.not_le.mpr (Nat.pow_lt_pow_right (by omega) hlt)
    have hexact : raw.exact = some (leNat raw.ms.toList, 2 ^ raw.ds.toNat, raw.rp.toNat % 4) :=
      if_neg (not_or.mpr ⟨hzero, hfits⟩)
    rw [decodeSlot_some b e hds (b.shiftCount_of_lt hlt), hexact, NvmeLbaf.InRange,
      ← loadU16_exact]
    simp only [Exit.map_ok, Option.map_some, LbaFormat.numbers, one_shl_toNat hlt,
      and_three_toNat, Exit.ok.injEq, Option.some.injEq, Prod.mk.injEq, and_true, hlt, true_and,
      ne_eq, hzero, not_false_eq_true, true_imp_iff]
  · have hexact : raw.exact = none := by
      rw [NvmeLbaf.exact, if_pos (Or.inr (Nat.pow_le_pow_right (by omega) (by omega)))]
    have hrange : ¬raw.InRange e := fun h => hlt h.1
    rw [hexact, iff_false_right hrange]
    cases hcount : b.shiftCount raw.ds.toNat with
    | none => simp [decodeSlot_none b e hds hcount]
    | some k => simp [decodeSlot_some b e hds hcount]

theorem lbaFormat_exact (b : Build) (e : Endian) (page : IdentifyNamespace) (index : U8) :
    (page.lbaFormat b e index).map (Option.map LbaFormat.numbers) =
        .ok (page.inner.lbaf[index.toNat]?.bind NvmeLbaf.exact) ↔
      ∀ raw ∈ page.inner.lbaf[index.toNat]?, raw.InRange e := by
  cases hslot : page.inner.lbaf[index.toNat]? with
  | none => simp [lbaFormat_none b e hslot]
  | some raw => simp [lbaFormat_some b e hslot, decodeSlot_exact]

theorem format_reading (x : Exit Error (Option LbaFormat)) (f : Option (ℕ × ℕ × ℕ)) :
    (x.map fun f => Reading.format (f.map LbaFormat.numbers)) = .ok (.format f) ↔
      x.map (Option.map LbaFormat.numbers) = .ok f := by
  cases x <;> simp [Exit.map]

theorem and_fifteen_toNat (x : U8) : (x &&& 0x0F).toNat = x.toNat % 16 := and_low_toNat 4 rfl

theorem and_seven_toNat (x : U8) : (x &&& 0x07).toNat = x.toNat % 8 := and_low_toNat 3 rfl

theorem temperatureCelsius_exact (log : SmartLog) :
    log.temperatureCelsius.toInt = leNat log.inner.temperature.toList - 273 ↔
      leNat log.inner.temperature.toList < 2 ^ 15 + 273 := by
  have hkelvin : log.temperatureKelvin.toNat = leNat log.inner.temperature.toList :=
    loadU16_toNat .little log.inner.temperature
  have hlt : log.temperatureKelvin.toNat < 2 ^ 16 := log.temperatureKelvin.isLt
  have hconst : (273 : I32).toNat = 273 := rfl
  have hdiff : log.temperatureCelsius.toNat =
      (log.temperatureKelvin.toNat + (2 ^ 16 - 273)) % 2 ^ 16 := by
    simp only [SmartLog.temperatureCelsius, BitVec.toNat_setWidth, BitVec.toNat_sub, hconst]
    omega
  rw [← hkelvin, BitVec.toInt_eq_toNat_cond, hdiff]
  split_ifs <;> omega

theorem nonzero_map {w : ℕ} (x : BitVec w) :
    (if x = 0 then none else some x).map BitVec.toNat = nonzero x.toNat := by
  by_cases hx : x = 0
  · simp [hx, nonzero]
  · have hne : x.toNat ≠ 0 := by simpa [← BitVec.toNat_inj] using hx
    rw [if_neg hx, Option.map_some, nonzero, if_neg hne]

theorem nextSlotToActivate_exact (log : FirmwareSlotLog) :
    log.nextSlotToActivate.map BitVec.toNat = nonzero (log.inner.afi.toNat / 16 % 8) := by
  have hshift : (log.inner.afi >>> 4).toNat = log.inner.afi.toNat / 16 := by
    rw [BitVec.toNat_ushiftRight, Nat.shiftRight_eq_div_pow]
  rw [FirmwareSlotLog.nextSlotToActivate, nonzero_map, and_seven_toNat, hshift]

theorem oneBased_eq_some {α : Type} {n : ℕ} {v : Vector α n} {i : ℕ} (hi : 1 ≤ i ∧ i ≤ n) :
    ∃ h : i - 1 < n, oneBased v i = some v[i - 1] := by
  have hlt : i - 1 < n := by omega
  refine ⟨hlt, ?_⟩
  rw [oneBased, if_neg (by omega), Vector.getElem?_eq_getElem hlt]

theorem oneBased_eq_none {α : Type} {n : ℕ} {v : Vector α n} {i : ℕ} (hi : ¬(1 ≤ i ∧ i ≤ n)) :
    oneBased v i = none := by
  by_cases hzero : i = 0
  · rw [oneBased, if_pos hzero]
  · have hge : ¬i - 1 < n := by omega
    rw [oneBased, if_neg hzero, Vector.getElem?_eq_none (by omega)]

theorem temperatureSensorKelvin_inside (b : Build) (e : Endian) (log : SmartLog) {index : U8}
    (hindex : 1 ≤ index.toNat ∧ index.toNat ≤ 8) :
    ∃ h : index.toNat - 1 < 8, log.temperatureSensorKelvin b e index =
      .ok (let value := loadU16 e log.inner.tempSensor[index.toNat - 1]
        if value = 0 then none else some value) := by
  have hlt : index.toNat - 1 < 8 := by omega
  have hrange : 1 ≤ index ∧ index ≤ 8 := by
    rw [BitVec.le_def, BitVec.le_def]
    exact hindex
  have hsub : (index - 1).toNat = index.toNat - 1 := by
    have hone : (1 : U8).toNat = 1 := rfl
    rw [BitVec.toNat_sub, hone]
    omega
  refine ⟨hlt, ?_⟩
  rw [SmartLog.temperatureSensorKelvin, if_neg (not_not_intro hrange), Build.subU8,
    if_pos hrange.1, Exit.ok_bind, hsub, indexed, dif_pos hlt, Exit.ok_bind, Exit.pure_eq]

theorem temperatureSensorKelvin_outside (b : Build) (e : Endian) (log : SmartLog) {index : U8}
    (hindex : ¬(1 ≤ index.toNat ∧ index.toNat ≤ 8)) :
    log.temperatureSensorKelvin b e index = .ok none := by
  have hrange : ¬(1 ≤ index ∧ index ≤ 8) := by
    rw [BitVec.le_def, BitVec.le_def]
    exact hindex
  rw [SmartLog.temperatureSensorKelvin, if_pos hrange, Exit.pure_eq]

theorem nonzero_inj {m n : ℕ} : nonzero m = nonzero n ↔ m = n := by
  unfold nonzero
  split_ifs <;> simp <;> omega

theorem temperatureSensorKelvin_exact (b : Build) (e : Endian) (log : SmartLog) (index : U8) :
    (log.temperatureSensorKelvin b e index).map (fun t => Reading.kelvin (t.map BitVec.toNat)) =
        .ok (.kelvin ((oneBased log.inner.tempSensor index.toNat).bind
          fun s => nonzero (leNat s.toList))) ↔
      ∀ s ∈ oneBased log.inner.tempSensor index.toNat, ReadsAlike e s := by
  by_cases hindex : 1 ≤ index.toNat ∧ index.toNat ≤ 8
  · obtain ⟨hlt, hread⟩ := temperatureSensorKelvin_inside b e log hindex
    obtain ⟨_, hsensor⟩ := oneBased_eq_some (v := log.inner.tempSensor) hindex
    rw [hread, hsensor]
    simp only [Exit.map_ok, nonzero_map, Option.bind_some, Exit.ok.injEq, Reading.kelvin.injEq,
      nonzero_inj, loadU16_exact, Option.mem_some_iff, forall_eq']
  · rw [temperatureSensorKelvin_outside b e log hindex, oneBased_eq_none hindex]
    simp

theorem slotFirmware_exact (log : FirmwareSlotLog) (slot : U8) :
    log.slotFirmware slot = (oneBased log.inner.frs slot.toNat).elim (.error .notAvailable)
      fun f => fixedAsciiToStr f.toList := by
  by_cases hslot : 1 ≤ slot.toNat ∧ slot.toNat ≤ 7
  · obtain ⟨hlt, hframe⟩ := oneBased_eq_some (v := log.inner.frs) hslot
    rw [FirmwareSlotLog.slotFirmware, dif_pos hslot, hframe]
    rfl
  · rw [FirmwareSlotLog.slotFirmware, dif_neg hslot, oneBased_eq_none hslot]
    rfl

/-- Which readings of a device page come out as the page says, in either build. -/
theorem access_exact_iff (b : Build) (e : Endian) (a : Access) :
    a.run b e = .ok a.exact ↔ a.InRange e := by
  cases a with
  | lbaFormat page index =>
    rw [Access.run, Access.exact, format_reading]
    exact lbaFormat_exact b e page index
  | currentLbaFormat page =>
    have hexact := lbaFormat_exact b e page (page.inner.flbas &&& 0x0F)
    rw [and_fifteen_toNat] at hexact
    rw [Access.run, Access.exact, format_reading]
    exact hexact
  | temperatureCelsius log =>
    rw [Access.run, Access.exact, Exit.ok.injEq, Reading.celsius.injEq]
    exact temperatureCelsius_exact log
  | temperatureSensorKelvin log index => exact temperatureSensorKelvin_exact b e log index
  | activeSlot log =>
    rw [Access.run, Access.exact, FirmwareSlotLog.activeSlot, and_seven_toNat]
    exact iff_of_true rfl trivial
  | nextSlotToActivate log =>
    rw [Access.run, Access.exact, nextSlotToActivate_exact]
    exact iff_of_true rfl trivial
  | slotFirmware log slot =>
    rw [Access.run, Access.exact, slotFirmware_exact]
    exact iff_of_true rfl trivial

def uniformPage (raw : NvmeLbaf) : IdentifyNamespace where
  inner :=
    { sizes := .replicate 25 0
      nlbaf := 0
      flbas := 0
      attributes := .replicate 101 0
      lbaf := .replicate 64 raw
      vs := .replicate 3712 0 }

theorem lba_format_shift_out_of_range :
    let wide := Access.lbaFormat (uniformPage ⟨.replicate 2 0, 32, 0⟩) 0
    let hot := Access.temperatureCelsius ⟨.replicate 2 0xFF, .replicate 8 (.replicate 2 0)⟩
    wide.run .debug .little = .aborted ∧
      wide.run .release .little = .ok (.format (some (0, 1, 0))) ∧ wide.exact = .format none ∧
      hot.run .debug .little = .ok (.celsius (-274)) ∧ hot.exact = .celsius 65262 := by
  decide +kernel

def nvmeGet (value shift mask : ℕ) : ℕ := (value >>> shift) &&& mask

def nvmeFlbasLower (flbas : U8) : ℕ := nvmeGet flbas.toNat 0 0xf

def nvmeFlbasHigher (flbas : U8) : ℕ := nvmeGet flbas.toNat 5 0x3

def nvmeIdNsFlbasToLbafInuse (flbas : U8) : U8 :=
  BitVec.ofNat 8 ((nvmeFlbasHigher flbas <<< 4) ||| nvmeFlbasLower flbas)

theorem nvmeGet_eq (value shift k : ℕ) :
    nvmeGet value shift (2 ^ k - 1) = value / 2 ^ shift % 2 ^ k := by
  rw [nvmeGet, Nat.and_two_pow_sub_one_eq_mod, Nat.shiftRight_eq_div_pow]

theorem lbafInuse_toNat (flbas : U8) :
    (nvmeIdNsFlbasToLbafInuse flbas).toNat = flbas.toNat / 32 % 4 * 16 + flbas.toNat % 16 := by
  have hlower : nvmeFlbasLower flbas = flbas.toNat % 16 := by
    have h := nvmeGet_eq flbas.toNat 0 4
    rwa [Nat.pow_zero, Nat.div_one] at h
  have hhigher : nvmeFlbasHigher flbas = flbas.toNat / 32 % 4 := nvmeGet_eq flbas.toNat 5 2
  have hlt : flbas.toNat % 16 < 2 ^ 4 := Nat.mod_lt _ (by omega)
  rw [nvmeIdNsFlbasToLbafInuse, hlower, hhigher, ← Nat.shiftLeft_add_eq_or_of_lt hlt,
    Nat.shiftLeft_eq, BitVec.toNat_ofNat]
  omega

def NvmeLbaf.SameFormat (b : Build) (raw raw' : NvmeLbaf) : Prop :=
  (raw.ds = 0 ∧ raw'.ds = 0) ∨
    (raw.ds ≠ 0 ∧ raw'.ds ≠ 0 ∧ b.shiftCount raw.ds.toNat = b.shiftCount raw'.ds.toNat ∧
      (b.shiftCount raw.ds.toNat = none ∨
        (raw.ms = raw'.ms ∧ raw.rp.toNat % 4 = raw'.rp.toNat % 4)))

theorem loadU16_inj (e : Endian) (v v' : Vector Byte 2) : loadU16 e v = loadU16 e v' ↔ v = v' := by
  have hlength : v.toList.length = v'.toList.length := by simp
  rw [← BitVec.toNat_inj, loadU16_toNat, loadU16_toNat, load_inj e hlength, Vector.toList_inj]

theorem one_shl_inj {k k' : ℕ} (hk : k < 32) (hk' : k' < 32) :
    (1 : U32) <<< k = (1 : U32) <<< k' ↔ k = k' := by
  rw [← BitVec.toNat_inj, one_shl_toNat hk, one_shl_toNat hk']
  exact Nat.pow_right_inj (by omega)

theorem sameFormat_of_ne {b : Build} {raw raw' : NvmeLbaf} (hds : raw.ds ≠ 0)
    (hds' : raw'.ds ≠ 0) :
    raw.SameFormat b raw' ↔ b.shiftCount raw.ds.toNat = b.shiftCount raw'.ds.toNat ∧
      (b.shiftCount raw.ds.toNat = none ∨
        (raw.ms = raw'.ms ∧ raw.rp.toNat % 4 = raw'.rp.toNat % 4)) := by
  simp only [NvmeLbaf.SameFormat, hds, hds', false_and, false_or, ne_eq, not_false_eq_true,
    true_and]

theorem decodeSlot_ne_none (b : Build) (e : Endian) {raw : NvmeLbaf} (hds : raw.ds ≠ 0) :
    decodeSlot b e raw ≠ .ok none := by
  cases hcount : b.shiftCount raw.ds.toNat with
  | none => simp [decodeSlot_none b e hds hcount]
  | some k => simp [decodeSlot_some b e hds hcount]

theorem decodeSlot_inj_of_ne (b : Build) (e : Endian) {raw raw' : NvmeLbaf} (hds : raw.ds ≠ 0)
    (hds' : raw'.ds ≠ 0) :
    decodeSlot b e raw = decodeSlot b e raw' ↔ raw.SameFormat b raw' := by
  rw [sameFormat_of_ne hds hds']
  cases hcount : b.shiftCount raw.ds.toNat with
  | none =>
    cases hcount' : b.shiftCount raw'.ds.toNat with
    | none => simp [decodeSlot_none b e hds hcount, decodeSlot_none b e hds' hcount']
    | some k' => simp [decodeSlot_none b e hds hcount, decodeSlot_some b e hds' hcount']
  | some k =>
    cases hcount' : b.shiftCount raw'.ds.toNat with
    | none => simp [decodeSlot_some b e hds hcount, decodeSlot_none b e hds' hcount']
    | some k' =>
      have hshl := one_shl_inj (Build.shiftCount_lt hcount) (Build.shiftCount_lt hcount')
      have hrp : raw.rp &&& 0x3 = raw'.rp &&& 0x3 ↔ raw.rp.toNat % 4 = raw'.rp.toNat % 4 := by
        rw [← BitVec.toNat_inj, and_three_toNat, and_three_toNat]
      rw [decodeSlot_some b e hds hcount, decodeSlot_some b e hds' hcount', Exit.ok.injEq,
        Option.some.injEq, LbaFormat.mk.injEq, loadU16_inj, hshl, hrp, Option.some.injEq]
      simp only [reduceCtorEq, false_or]
      exact and_left_comm

theorem decodeSlot_inj (b : Build) (e : Endian) (raw raw' : NvmeLbaf) :
    decodeSlot b e raw = decodeSlot b e raw' ↔ raw.SameFormat b raw' := by
  by_cases hds : raw.ds = 0
  · by_cases hds' : raw'.ds = 0
    · rw [decodeSlot_zero b e hds, decodeSlot_zero b e hds']
      exact iff_of_true rfl (Or.inl ⟨hds, hds'⟩)
    · rw [decodeSlot_zero b e hds]
      refine iff_of_false (decodeSlot_ne_none b e hds').symm ?_
      rintro (⟨-, h⟩ | ⟨h, -⟩)
      · exact hds' h
      · exact h hds
  · by_cases hds' : raw'.ds = 0
    · rw [decodeSlot_zero b e hds']
      refine iff_of_false (decodeSlot_ne_none b e hds) ?_
      rintro (⟨h, -⟩ | ⟨-, h, -⟩)
      · exact hds h
      · exact h hds'
    · exact decodeSlot_inj_of_ne b e hds hds'

def IdentifyNamespace.lowSlot (page : IdentifyNamespace) : Option NvmeLbaf :=
  page.inner.lbaf[page.inner.flbas.toNat % 16]?

def IdentifyNamespace.slotInUse (page : IdentifyNamespace) : Option NvmeLbaf :=
  page.inner.lbaf[page.inner.flbas.toNat / 32 % 4 * 16 + page.inner.flbas.toNat % 16]?

theorem current_eq_decodeSlot (b : Build) (e : Endian) {page : IdentifyNamespace}
    {raw : NvmeLbaf} (hraw : page.lowSlot = some raw) :
    page.currentLbaFormat b e = decodeSlot b e raw := by
  apply lbaFormat_some b e
  rw [and_fifteen_toNat]
  exact hraw

theorem inUse_eq_decodeSlot (b : Build) (e : Endian) {page : IdentifyNamespace} {raw : NvmeLbaf}
    (hraw : page.slotInUse = some raw) :
    page.lbaFormat b e (nvmeIdNsFlbasToLbafInuse page.formattedLbaSize) = decodeSlot b e raw := by
  apply lbaFormat_some b e
  rw [lbafInuse_toNat]
  exact hraw

theorem current_eq_inUse_iff (b : Build) (e : Endian) (page : IdentifyNamespace) :
    page.currentLbaFormat b e =
        page.lbaFormat b e (nvmeIdNsFlbasToLbafInuse page.formattedLbaSize) ↔
      page.inner.flbas.toNat / 32 % 4 = 0 ∨
        ∀ raw ∈ page.lowSlot, ∀ raw' ∈ page.slotInUse, raw.SameFormat b raw' := by
  have hlow : page.inner.flbas.toNat % 16 < 64 := by omega
  have hinUse : page.inner.flbas.toNat / 32 % 4 * 16 + page.inner.flbas.toNat % 16 < 64 := by omega
  obtain ⟨raw, hraw⟩ : ∃ raw, page.lowSlot = some raw :=
    ⟨_, Vector.getElem?_eq_getElem hlow⟩
  obtain ⟨raw', hraw'⟩ : ∃ raw', page.slotInUse = some raw' :=
    ⟨_, Vector.getElem?_eq_getElem hinUse⟩
  rw [current_eq_decodeSlot b e hraw, inUse_eq_decodeSlot b e hraw', decodeSlot_inj, hraw, hraw']
  simp only [Option.mem_some_iff, forall_eq']
  refine ⟨Or.inr, ?_⟩
  rintro (hbits | hsame)
  · have hslot : page.slotInUse = page.lowSlot := by
      rw [IdentifyNamespace.slotInUse, hbits, Nat.zero_mul, Nat.zero_add]
      rfl
    rw [hraw, hraw', Option.some.injEq] at hslot
    rw [hslot, ← decodeSlot_inj b e]
  · exact hsame

theorem current_lba_format_low_bits (b : Build) (e : Endian) (page : IdentifyNamespace) :
    (∀ index : U8, index.toNat = page.formattedLbaSize.toNat % 16 →
        page.currentLbaFormat b e = page.lbaFormat b e index) ∧
      (page.currentLbaFormat b e =
          page.lbaFormat b e (nvmeIdNsFlbasToLbafInuse page.formattedLbaSize) ↔
        page.inner.flbas.toNat / 32 % 4 = 0 ∨
          ∀ raw ∈ page.lowSlot, ∀ raw' ∈ page.slotInUse, raw.SameFormat b raw') := by
  refine ⟨fun index hindex => ?_, current_eq_inUse_iff b e page⟩
  have hlow : page.formattedLbaSize &&& 0x0F = index := by
    rw [← BitVec.toNat_inj, and_fifteen_toNat, hindex]
  rw [IdentifyNamespace.currentLbaFormat, hlow]

def wideTable : IdentifyNamespace where
  inner :=
    { sizes := .replicate 25 0
      nlbaf := 16
      flbas := 0x20
      attributes := .replicate 101 0
      lbaf := (Vector.replicate 64 ⟨.replicate 2 0, 9, 0⟩).set 16 ⟨.replicate 2 0, 12, 0⟩
      vs := .replicate 3712 0 }

theorem current_lba_format_misses_upper_bits :
    wideTable.numLbaFormats = 16 ∧ nvmeIdNsFlbasToLbafInuse wideTable.formattedLbaSize = 16 ∧
      wideTable.currentLbaFormat .debug .little = .ok (some ⟨0, 512, 0⟩) ∧
      wideTable.lbaFormat .debug .little 16 = .ok (some ⟨0, 4096, 0⟩) ∧
      wideTable.currentLbaFormat .debug .little ≠ wideTable.lbaFormat .debug .little
        (nvmeIdNsFlbasToLbafInuse wideTable.formattedLbaSize) := by
  decide +kernel

end LibnvmeRs
