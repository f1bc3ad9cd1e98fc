import LibnvmeRs.Controller
import LibnvmeRs.Fabrics

/-!
# The discovery log

A discovery controller hands over a log in an allocation of its own: a header
and one record of 1024 bytes for each entry. The entries handed out are pointers
into that allocation, and a string of an entry is read as a C string from the
first byte of its field on.

The records come from a remote peer, so nothing says that a field ends in a zero.
`ownFieldOnly_iff` is the exact condition under which what follows the field
cannot be seen.
-/

namespace LibnvmeRs

open Interaction Program ByteOrder

structure DiscoveryLog where
  inner : ℕ
  raw : NvmfDiscoveryLog

namespace DiscoveryLog

def fromRaw (logp : Option (ℕ × NvmfDiscoveryLog)) (errno : I32) : Except Error DiscoveryLog :=
  match logp with
  | none => .error (.os (.raw errno))
  | some (inner, raw) => .ok { inner := inner, raw := raw }

def generationCounter (log : DiscoveryLog) : U64 := log.raw.genctr

def numRecords (log : DiscoveryLog) : U64 := log.raw.numrec

end DiscoveryLog

def fetchDiscoveryLog (ctrl : NvmeCtrl) (maxRetries : I32) : Ffi DiscoveryLog := do
  let r ← ask (Call.nvmfGetDiscoveryLog ctrl maxRetries)
  checkRet r.cret
  DiscoveryLog.fromRaw r.logp r.cret.errno

def Controller.discoveryLog (c : Controller) (maxRetries : I32) : Ffi DiscoveryLog :=
  fetchDiscoveryLog c maxRetries

def cstrToStr (memory : List Byte) (ptr : Option ℕ) : Option (Except Error Str) :=
  match ptr with
  | none => some (.error .notAvailable)
  | some p => (cstrFromPtr memory p).map fun cstr => utf8OrError (trimTrailingPadding cstr)

def NvmfDiscLogEntry.image (e : NvmfDiscLogEntry) : List Byte :=
  e.head.toList ++ e.trsvcid.toList ++ e.rsvd64.toList ++ e.subnqn.toList ++ e.traddr.toList ++
    e.tsas.toList

def sizeofNvmfDiscLogEntry : ℕ := 1024

theorem length_image (e : NvmfDiscLogEntry) : e.image.length = sizeofNvmfDiscLogEntry := by
  simp [NvmfDiscLogEntry.image, sizeofNvmfDiscLogEntry]

def DiscoveryLog.memory (log : DiscoveryLog) : List Byte :=
  log.raw.entries.flatMap NvmfDiscLogEntry.image

structure DiscoveryLogEntry where
  memory : List Byte
  raw : ℕ

def DiscoveryLog.entries (log : DiscoveryLog) : List DiscoveryLogEntry :=
  (List.range log.numRecords.toNat).map fun i =>
    { memory := log.memory, raw := i * sizeofNvmfDiscLogEntry }

namespace DiscoveryLogEntry

def transportServiceId (e : DiscoveryLogEntry) : Option (Except Error Str) :=
  cstrToStr e.memory (some (e.raw + 32))

def subnqn (e : DiscoveryLogEntry) : Option (Except Error Str) :=
  cstrToStr e.memory (some (e.raw + 256))

def traddr (e : DiscoveryLogEntry) : Option (Except Error Str) :=
  cstrToStr e.memory (some (e.raw + 512))

end DiscoveryLogEntry

inductive StringField where
  | trsvcid
  | subnqn
  | traddr
  deriving DecidableEq, Repr

namespace StringField

@[reducible] def size : StringField → ℕ
  | .trsvcid => 32
  | .subnqn | .traddr => 256

def offset : StringField → ℕ
  | .trsvcid => 32
  | .subnqn => 256
  | .traddr => 512

def read : (f : StringField) → DiscoveryLogEntry → Option (Except Error Str)
  | .trsvcid => DiscoveryLogEntry.transportServiceId
  | .subnqn => DiscoveryLogEntry.subnqn
  | .traddr => DiscoveryLogEntry.traddr

def bytes : (f : StringField) → NvmfDiscLogEntry → Vector Byte f.size
  | .trsvcid, e => e.trsvcid
  | .subnqn, e => e.subnqn
  | .traddr, e => e.traddr

theorem read_eq (f : StringField) (e : DiscoveryLogEntry) :
    f.read e = cstrToStr e.memory (some (e.raw + f.offset)) := by
  cases f <;> rfl

theorem drop_image (f : StringField) (e : NvmfDiscLogEntry) :
    ∃ after, e.image.drop f.offset = (f.bytes e).toList ++ after := by
  cases f with
  | trsvcid =>
    have hlength : e.head.toList.length = 32 := by simp
    refine ⟨e.rsvd64.toList ++ e.subnqn.toList ++ e.traddr.toList ++ e.tsas.toList, ?_⟩
    simp only [NvmfDiscLogEntry.image, offset, bytes, List.append_assoc]
    exact List.drop_left' hlength
  | subnqn =>
    have hlength : (e.head.toList ++ e.trsvcid.toList ++ e.rsvd64.toList).length = 256 := by simp
    refine ⟨e.traddr.toList ++ e.tsas.toList, ?_⟩
    rw [NvmfDiscLogEntry.image, offset, List.append_assoc, List.append_assoc,
      List.drop_left' hlength, bytes]
  | traddr =>
    have hlength : (e.head.toList ++ e.trsvcid.toList ++ e.rsvd64.toList ++
        e.subnqn.toList).length = 512 := by simp
    refine ⟨e.tsas.toList, ?_⟩
    rw [NvmfDiscLogEntry.image, offset, List.append_assoc, List.drop_left' hlength, bytes]

end StringField

/-- What the bytes of a field stand for: cut at the first zero or at the end, and
trimmed. -/
def decodeField (F : List Byte) : Except Error Str :=
  utf8OrError (trimTrailingPadding (F.takeWhile (· ≠ 0)))

/-- Wherever a record with these bytes in the field stands, its string is theirs. -/
def OwnFieldOnly (f : StringField) (F : Vector Byte f.size) : Prop :=
  ∀ (log : DiscoveryLog) (i : ℕ) (hi : i < log.raw.entries.length),
    f.bytes log.raw.entries[i] = F →
      log.entries[i]?.map f.read = some (some (decodeField F.toList))

namespace DiscoveryLog

theorem entries_getElem (log : DiscoveryLog) {i : ℕ} (hi : i < log.raw.entries.length) :
    log.entries[i]? = some ⟨log.memory, i * sizeofNvmfDiscLogEntry⟩ := by
  have hcount : i < log.numRecords.toNat := by
    rw [numRecords, log.raw.numrec_eq]
    exact hi
  rw [entries, List.getElem?_map, List.getElem?_range hcount, Option.map_some]

theorem drop_memory (log : DiscoveryLog) {i : ℕ} (hi : i < log.raw.entries.length)
    (f : StringField) :
    ∃ rest, log.memory.drop (i * sizeofNvmfDiscLogEntry + f.offset) =
      (f.bytes log.raw.entries[i]).toList ++ rest := by
  obtain ⟨after, hafter⟩ := f.drop_image log.raw.entries[i]
  have hoffset : f.offset ≤ log.raw.entries[i].image.length := by
    rw [length_image]
    cases f <;> decide
  refine ⟨after ++ (log.raw.entries.drop (i + 1)).flatMap NvmfDiscLogEntry.image, ?_⟩
  rw [← List.drop_drop, memory, drop_flatMap_getElem length_image hi,
    List.drop_append_of_le_length hoffset, hafter, List.append_assoc]

end DiscoveryLog

namespace StringField

def surround : (f : StringField) → Vector Byte f.size → NvmfDiscLogEntry :=
  let filled := NvmfDiscLogEntry.mk (.replicate 32 0x41) (.replicate 32 0x41)
    (.replicate 192 0x41) (.replicate 256 0x41) (.replicate 256 0x41) (.replicate 256 0x41)
  fun
    | .trsvcid, F => { filled with trsvcid := F }
    | .subnqn, F => { filled with subnqn := F }
    | .traddr, F => { filled with traddr := F }

theorem bytes_surround (f : StringField) (F : Vector Byte f.size) :
    f.bytes (f.surround F) = F := by
  cases f <;> rfl

theorem zero_mem_surround {f : StringField} {F : Vector Byte f.size}
    (h : 0 ∈ (f.surround F).image) : 0 ∈ F.toList := by
  have hne : (0 : Byte) ≠ 0x41 := by decide
  cases f <;>
    simpa only [surround, NvmfDiscLogEntry.image, List.mem_append, Vector.mem_toList_iff,
      Vector.mem_replicate, hne, and_false, or_false, false_or] using h

end StringField

def singleLog (e : NvmfDiscLogEntry) : DiscoveryLog where
  inner := 0
  raw := { genctr := 0, numrec := 1, entries := [e], numrec_eq := rfl }

theorem ownFieldOnly_of_mem {f : StringField} {F : Vector Byte f.size} (hF : 0 ∈ F.toList) :
    OwnFieldOnly f F := by
  intro log i hi hbytes
  obtain ⟨rest, hrest⟩ := log.drop_memory hi f
  rw [hbytes] at hrest
  rw [DiscoveryLog.entries_getElem log hi, Option.map_some, f.read_eq, cstrToStr,
    cstrFromPtr_of_mem hF hrest, Option.map_some, decodeField]

theorem mem_of_ownFieldOnly {f : StringField} {F : Vector Byte f.size} (hown : OwnFieldOnly f F) :
    0 ∈ F.toList := by
  have hi : 0 < (singleLog (f.surround F)).raw.entries.length := by simp [singleLog]
  have hread := hown (singleLog (f.surround F)) 0 hi (f.bytes_surround F)
  rw [DiscoveryLog.entries_getElem _ hi, Option.map_some, f.read_eq, cstrToStr,
    Option.some_inj, Option.map_eq_some_iff] at hread
  obtain ⟨cstr, hcstr, -⟩ := hread
  rw [cstrFromPtr] at hcstr
  split at hcstr
  · rename_i hmem
    have himage : 0 ∈ (f.surround F).image := by
      simpa [DiscoveryLog.memory, singleLog] using List.mem_of_mem_drop hmem
    exact StringField.zero_mem_surround himage
  · cases hcstr

theorem ownFieldOnly_iff (f : StringField) (F : Vector Byte f.size) :
    OwnFieldOnly f F ↔ 0 ∈ F.toList :=
  ⟨mem_of_ownFieldOnly, ownFieldOnly_of_mem⟩

def overlongRecord : NvmfDiscLogEntry where
  head := .replicate 32 0
  trsvcid := .replicate 32 0x34
  rsvd64 := (Vector.replicate 192 0).set 0 0x32
  subnqn := .replicate 256 0
  traddr := .replicate 256 0
  tsas := .replicate 256 0

theorem transportServiceId_reads_reserved :
    (singleLog overlongRecord).entries[0]?.map DiscoveryLogEntry.transportServiceId =
        some (some (utf8OrError (List.replicate 32 0x34 ++ [0x32]))) ∧
      decodeField overlongRecord.trsvcid.toList = utf8OrError (List.replicate 32 0x34) ∧
      utf8OrError (List.replicate 32 0x34 ++ [0x32]) ≠ utf8OrError (List.replicate 32 0x34) ∧
      ¬OwnFieldOnly .trsvcid overlongRecord.trsvcid := by
  have hread : (singleLog overlongRecord).entries[0]?.map DiscoveryLogEntry.transportServiceId =
      some (some (utf8OrError (List.replicate 32 0x34 ++ [0x32]))) := by decide +kernel
  have hown : decodeField overlongRecord.trsvcid.toList =
      utf8OrError (List.replicate 32 0x34) := by decide +kernel
  have hne : utf8OrError (List.replicate 32 0x34 ++ [0x32]) ≠
      utf8OrError (List.replicate 32 0x34) := by decide +kernel
  refine ⟨hread, hown, hne, fun h => hne ?_⟩
  have hfield := h (singleLog overlongRecord) 0 (by decide) rfl
  rw [StringField.read, hread, hown] at hfield
  exact Option.some.inj (Option.some.inj hfield)

end LibnvmeRs
