import LibnvmeRs.Strings
import Mathlib.Data.List.Nodup

/-!
# The symbol probes of the build script

The build script reads the installed headers as text and emits a flag for every
probed symbol that the text contains. Under a flag the crate imports functions of
libnvme: the probed one, and for four flags a sibling that has no probe of its own.
Which functions the headers declare is up to the C front end.
-/

namespace LibnvmeRs

open ByteOrder

def utf8 (s : String) : List Byte := s.toUTF8.data.toList.map UInt8.toBitVec

inductive Cfg where
  | hasSubsystemSerial
  | hasSubsystemModel
  | hasSubsystemFwRev
  | hasSubsystemIopolicy
  | hasSubsystemApplication
  | hasPathNumaNodes
  | hasPathQueueDepth
  | hasDhchapHostKey
  | hasTlsKey
  | hasTlsKeyIdentity
  | hasKeyring
  | hasUniqueDiscoveryCtrl
  | hasHostidGenerate
  | hasHostidFromFile
  | hasTempThresh2
  | hasErrRecovery2
  | hasLbaRange2
  | hasHostMemBuf2
  | hasResvMask2
  | hasResvPersist2
  | hasWriteProtect2
  | hasSanitizeEmvs
  deriving DecidableEq, Repr

def probes : List (Cfg × String) := [
  (.hasSubsystemSerial, "nvme_subsystem_get_serial"),
  (.hasSubsystemModel, "nvme_subsystem_get_model"),
  (.hasSubsystemFwRev, "nvme_subsystem_get_fw_rev"),
  (.hasSubsystemIopolicy, "nvme_subsystem_get_iopolicy"),
  (.hasSubsystemApplication, "nvme_subsystem_get_application"),
  (.hasPathNumaNodes, "nvme_path_get_numa_nodes"),
  (.hasPathQueueDepth, "nvme_path_get_queue_depth"),
  (.hasDhchapHostKey, "nvme_ctrl_set_dhchap_host_key"),
  (.hasTlsKey, "nvme_ctrl_set_tls_key"),
  (.hasTlsKeyIdentity, "nvme_ctrl_set_tls_key_identity"),
  (.hasKeyring, "nvme_ctrl_set_keyring"),
  (.hasUniqueDiscoveryCtrl, "nvme_ctrl_set_unique_discovery_ctrl"),
  (.hasHostidGenerate, "nvmf_hostid_generate"),
  (.hasHostidFromFile, "nvmf_hostid_from_file"),
  (.hasTempThresh2, "nvme_set_features_temp_thresh2"),
  (.hasErrRecovery2, "nvme_get_features_err_recovery2"),
  (.hasLbaRange2, "nvme_get_features_lba_range2"),
  (.hasHostMemBuf2, "nvme_get_features_host_mem_buf2"),
  (.hasResvMask2, "nvme_set_features_resv_mask2"),
  (.hasResvPersist2, "nvme_set_features_resv_persist2"),
  (.hasWriteProtect2, "nvme_set_features_write_protect2"),
  (.hasSanitizeEmvs, "bool emvs")]

def gatedImports : List (Cfg × String) := [
  -- controller.rs
  (.hasUniqueDiscoveryCtrl, "nvme_ctrl_is_unique_discovery_ctrl"),
  (.hasDhchapHostKey, "nvme_ctrl_set_dhchap_host_key"),
  (.hasKeyring, "nvme_ctrl_set_keyring"),
  (.hasTlsKey, "nvme_ctrl_set_tls_key"),
  (.hasTlsKeyIdentity, "nvme_ctrl_set_tls_key_identity"),
  -- fabrics.rs
  (.hasUniqueDiscoveryCtrl, "nvme_ctrl_set_unique_discovery_ctrl"),
  -- features/get.rs
  (.hasErrRecovery2, "nvme_get_features_err_recovery2"),
  (.hasHostMemBuf2, "nvme_get_features_host_mem_buf2"),
  (.hasLbaRange2, "nvme_get_features_lba_range2"),
  (.hasResvMask2, "nvme_get_features_resv_mask2"),
  (.hasResvPersist2, "nvme_get_features_resv_persist2"),
  (.hasTempThresh2, "nvme_get_features_temp_thresh2"),
  -- features/set.rs
  (.hasResvMask2, "nvme_set_features_resv_mask2"),
  (.hasResvPersist2, "nvme_set_features_resv_persist2"),
  (.hasTempThresh2, "nvme_set_features_temp_thresh2"),
  (.hasWriteProtect2, "nvme_set_features_write_protect2"),
  -- path.rs
  (.hasPathNumaNodes, "nvme_path_get_numa_nodes"),
  (.hasPathQueueDepth, "nvme_path_get_queue_depth"),
  -- root.rs
  (.hasHostidFromFile, "nvmf_hostid_from_file"),
  (.hasHostidGenerate, "nvmf_hostid_generate"),
  -- subsystem.rs
  (.hasSubsystemApplication, "nvme_subsystem_get_application"),
  (.hasSubsystemFwRev, "nvme_subsystem_get_fw_rev"),
  (.hasSubsystemIopolicy, "nvme_subsystem_get_iopolicy"),
  (.hasSubsystemModel, "nvme_subsystem_get_model"),
  (.hasSubsystemSerial, "nvme_subsystem_get_serial")]

def siblings : List (String × String) := [
  ("nvme_ctrl_set_unique_discovery_ctrl", "nvme_ctrl_is_unique_discovery_ctrl"),
  ("nvme_set_features_temp_thresh2", "nvme_get_features_temp_thresh2"),
  ("nvme_set_features_resv_mask2", "nvme_get_features_resv_mask2"),
  ("nvme_set_features_resv_persist2", "nvme_get_features_resv_persist2")]

/-- An entry of the `nvme` directory; `none` for contents that cannot be read. -/
structure DirEntry where
  name : List Byte
  contents : Option (List Byte)

/-- What stands under an include path: `libnvme.h`, and the entries of `nvme` in the
order of the listing. -/
structure IncludeDir where
  libnvmeH : Option (List Byte)
  nvme : Option (List DirEntry)

def splitLastDot : List Byte → Option (List Byte × List Byte)
  | [] => none
  | b :: l =>
    match splitLastDot l with
    | some (before, after) => some (b :: before, after)
    | none => if b = 0x2E then some ([], l) else none

/-- `Path::extension`: a name that starts with its only dot has none. -/
def extension (name : List Byte) : Option (List Byte) :=
  if name = [0x2E, 0x2E] then none
  else
    match splitLastDot name with
    | none => none
    | some (before, after) => if before = [] then none else some after

/-- A file that is missing or is not UTF-8 adds nothing. -/
def appendIfExists (buf : List Byte) (contents : Option (List Byte)) : List Byte :=
  match contents with
  | none => buf
  | some bytes =>
    match fromUtf8 bytes with
    | .ok s => buf ++ s.bytes
    | .error _ => buf

def appendHeader (text : List Byte) (entry : DirEntry) : List Byte :=
  if extension entry.name = some (utf8 "h") then appendIfExists text entry.contents else text

def appendDir (text : List Byte) (dir : IncludeDir) : List Byte :=
  (dir.nvme.getD []).foldl appendHeader (appendIfExists text dir.libnvmeH)

def collectHeaderText (includePaths : List IncludeDir) : List Byte :=
  includePaths.foldl appendDir []

def contains (headers : List Byte) (symbol : String) : Prop := utf8 symbol <:+: headers

instance (headers : List Byte) (symbol : String) : Decidable (contains headers symbol) :=
  inferInstanceAs (Decidable (_ <:+: _))

def emitted (includePaths : List IncludeDir) : List Cfg :=
  (probes.filter fun row => contains (collectHeaderText includePaths) row.2).map Prod.fst

def ImportsResolve (declares : List IncludeDir → String → Prop) (includePaths : List IncludeDir) :
    Prop :=
  ∀ i ∈ gatedImports, i.1 ∈ emitted includePaths → declares includePaths i.2

theorem probes_gated : ∀ row ∈ probes, row.1 = .hasSanitizeEmvs ∨ row ∈ gatedImports := by
  decide +kernel

theorem siblings_gated : ∀ pair ∈ siblings, ∃ row ∈ probes,
    row.2 = pair.1 ∧ (row.1, pair.2) ∈ gatedImports := by
  decide +kernel

theorem gated_probed : ∀ i ∈ gatedImports, ∃ row ∈ probes,
    row.1 = i.1 ∧ row.1 ≠ .hasSanitizeEmvs ∧ (row.2 = i.2 ∨ (row.2, i.2) ∈ siblings) := by
  decide +kernel

theorem probes_nodup : (probes.map Prod.fst).Nodup := by decide +kernel

theorem mem_emitted {includePaths : List IncludeDir} {row : Cfg × String} (hrow : row ∈ probes) :
    row.1 ∈ emitted includePaths ↔ contains (collectHeaderText includePaths) row.2 := by
  constructor
  · intro hmem
    obtain ⟨row', hrow', hflag⟩ := List.mem_map.mp hmem
    obtain ⟨hprobe, hfound⟩ := List.mem_filter.mp hrow'
    obtain rfl : row' = row := List.inj_on_of_nodup_map probes_nodup hprobe hrow hflag
    simpa using hfound
  · intro hfound
    exact List.mem_map_of_mem (List.mem_filter.mpr ⟨hrow, by simpa using hfound⟩)

def isIdentifierByte (b : Byte) : Bool :=
  (0x30 ≤ b && b ≤ 0x39) || (0x41 ≤ b && b ≤ 0x5A) || (0x61 ≤ b && b ≤ 0x7A) || b == 0x5F

/-- The identifiers that stand before an opening parenthesis; `word` is the one being read. -/
def calledNames (word : List Byte) : List Byte → List (List Byte)
  | [] => []
  | b :: l =>
    if isIdentifierByte b then calledNames (word ++ [b]) l
    else if b = 0x28 then word :: calledNames [] l
    else calledNames [] l

def declaresPrototype (includePaths : List IncludeDir) (f : String) : Prop :=
  utf8 f ∈ calledNames [] (collectHeaderText includePaths)

def identityOnly : List IncludeDir := [
  { libnvmeH := some (utf8 "#include <nvme/tree.h>\n")
    nvme := some [
      { name := utf8 "tree.h"
        contents := some (utf8
          "void nvme_ctrl_set_tls_key_identity(nvme_ctrl_t c, const char *identity);\n") }] }]

theorem tls_key_unresolved :
    emitted identityOnly = [.hasTlsKey, .hasTlsKeyIdentity] ∧
      declaresPrototype identityOnly "nvme_ctrl_set_tls_key_identity" ∧
      ¬ImportsResolve declaresPrototype identityOnly := by
  have hemitted : emitted identityOnly = [.hasTlsKey, .hasTlsKeyIdentity] := by decide +kernel
  refine ⟨hemitted, ?_, fun hresolve => ?_⟩
  · unfold declaresPrototype
    decide +kernel
  · have htls := hresolve (.hasTlsKey, "nvme_ctrl_set_tls_key") (by decide +kernel)
      (by rw [hemitted]; decide)
    revert htls
    unfold declaresPrototype
    decide +kernel

end LibnvmeRs
