import LibnvmeRs.Commands

/-!
# The methods of handles

A scan builds a tree and hands out its root; dropping the root frees the tree. The
handles are pointers into the tree, and every method hands libnvme the pointer of its
own handle. The calls of this interface are those of the commands, the scanning and
freeing of trees, and the getters of hosts, subsystems, paths and namespaces.
-/

namespace LibnvmeRs

open Interaction Program ByteOrder

inductive HostGetter where
  | hostnqn
  | hostid
  deriving DecidableEq, Repr

inductive SubsystemGetter where
  | name
  | nqn
  | type
  | serial
  | model
  | fwRev
  | iopolicy
  | application
  deriving DecidableEq, Repr

inductive PathGetter where
  | name
  | anaState
  | numaNodes
  deriving DecidableEq, Repr

inductive NsGetter where
  | name
  | genericName
  | model
  | serial
  | firmware
  deriving DecidableEq, Repr

inductive NsInt where
  | nsid
  | lbaSize
  | metaSize
  | csi
  deriving DecidableEq, Repr

inductive NsLong where
  | lbaCount
  | lbaUtil
  deriving DecidableEq, Repr

inductive NsBytes where
  | nguid
  | eui64
  deriving DecidableEq, Repr

inductive TreeCall where
  | admin (c : AdminCall)
  | nvmeScan
  | nvmeDefaultHost (r : NvmeRoot)
  | nvmeFreeTree (r : NvmeRoot)
  | nvmeHostGet (which : HostGetter) (h : NvmeHost)
  | nvmeSubsystemGet (which : SubsystemGetter) (s : NvmeSubsystem)
  | nvmePathGet (which : PathGetter) (p : NvmePath)
  | nvmePathGetQueueDepth (p : NvmePath)
  | nvmeNsGet (which : NsGetter) (n : NvmeNs)
  | nvmeNsGetInt (which : NsInt) (n : NvmeNs)
  | nvmeNsGetLong (which : NsLong) (n : NvmeNs)
  | nvmeNsGetBytes (which : NsBytes) (n : NvmeNs)
  | nvmeNsGetUuid (n : NvmeNs)
  | nvmeNsIdentify (n : NvmeNs)

@[match_pattern] abbrev TreeCall.lib (c : Call) : TreeCall := .admin (.lib c)

@[reducible] def TreeAnswer : TreeCall → Type
  | .admin c => AdminAnswer c
  | .nvmeScan | .nvmeDefaultHost _ => Pointer
  | .nvmeFreeTree _ => Unit
  | .nvmeHostGet .. | .nvmeSubsystemGet .. | .nvmePathGet .. | .nvmeNsGet .. => Option CString
  | .nvmePathGetQueueDepth _ | .nvmeNsGetInt .. => I32
  | .nvmeNsGetLong .. => U64
  | .nvmeNsGetBytes .. => Option (List Byte)
  | .nvmeNsGetUuid _ | .nvmeNsIdentify _ => Done Unit

def TreeCall.zero : (c : TreeCall) → TreeAnswer c
  | .admin c => c.reply.zero
  | .nvmeScan | .nvmeDefaultHost _ => default
  | .nvmeFreeTree _ => ()
  | .nvmeHostGet .. | .nvmeSubsystemGet .. | .nvmePathGet .. | .nvmeNsGet .. => none
  | .nvmePathGetQueueDepth _ | .nvmeNsGetInt .. => 0
  | .nvmeNsGetLong .. => 0
  | .nvmeNsGetBytes .. => none
  | .nvmeNsGetUuid _ | .nvmeNsIdentify _ => default

instance (c : TreeCall) : Nonempty (TreeAnswer c) := ⟨c.zero⟩

abbrev TreeFfi (α : Type) := Program Error TreeCall TreeAnswer α

def Ffi.tree {α : Type} (p : Ffi α) : TreeFfi α := p.via TreeCall.lib fun _ r => r

def Admin.tree {α : Type} (p : Admin α) : TreeFfi α := p.via TreeCall.admin fun _ r => r

def borrowedText : Option CString → Except Error Str
  | none => .error .notAvailable
  | some cstr => utf8OrError (trimTrailingPadding cstr.bytes)

namespace Root

def scan : TreeFfi Root := do
  let raw ← ask TreeCall.nvmeScan
  match raw.value with
  | none => .fail (.os (.raw raw.errno))
  | some inner => return { inner := inner }

def defaultHost (r : Root) : TreeFfi Host := do
  let raw ← ask (TreeCall.nvmeDefaultHost r.inner)
  match raw.value with
  | none => .fail (.os (.raw raw.errno))
  | some ptr => return { root := r.inner, ptr := ptr }

def drop (r : Root) : TreeFfi Unit := ask (TreeCall.nvmeFreeTree r.inner)

end Root

def NvmeHost.text (h : NvmeHost) (which : HostGetter) : TreeFfi Str := do
  let ptr ← ask (TreeCall.nvmeHostGet which h)
  borrowedText ptr

namespace Host
variable (h : Host)

def hostnqn : TreeFfi Str := NvmeHost.text h.ptr .hostnqn
def hostid : TreeFfi Str := NvmeHost.text h.ptr .hostid

end Host

namespace Subsystem
variable (s : Subsystem)

def text (which : SubsystemGetter) : TreeFfi Str := do
  let ptr ← ask (TreeCall.nvmeSubsystemGet which s)
  borrowedText ptr

def name : TreeFfi Str := Subsystem.text s .name
def nqn : TreeFfi Str := Subsystem.text s .nqn
def subsystemType : TreeFfi Str := Subsystem.text s .type
def serial : TreeFfi Str := Subsystem.text s .serial
def model : TreeFfi Str := Subsystem.text s .model
def firmware : TreeFfi Str := Subsystem.text s .fwRev
def iopolicy : TreeFfi Str := Subsystem.text s .iopolicy
def application : TreeFfi Str := Subsystem.text s .application

end Subsystem

namespace NvmePath
variable (p : NvmePath)

def text (which : PathGetter) : TreeFfi Str := do
  let ptr ← ask (TreeCall.nvmePathGet which p)
  borrowedText ptr

def name : TreeFfi Str := NvmePath.text p .name
def anaState : TreeFfi Str := NvmePath.text p .anaState
def numaNodes : TreeFfi Str := NvmePath.text p .numaNodes
def queueDepth : TreeFfi I32 := ask (TreeCall.nvmePathGetQueueDepth p)

end NvmePath

def sizeofNvmeIdNs : ℕ := 4096

def saturatingMul (count : U64) (size : U32) : U64 :=
  let bytes := count.toNat * size.toNat
  if bytes < 2 ^ 64 then BitVec.ofNat 64 bytes else BitVec.allOnes 64

namespace Namespace
variable (n : Namespace)

def text (which : NsGetter) : TreeFfi Str := do
  let ptr ← ask (TreeCall.nvmeNsGet which n)
  borrowedText ptr

def name : TreeFfi Str := Namespace.text n .name
def genericName : TreeFfi Str := Namespace.text n .genericName
def model : TreeFfi Str := Namespace.text n .model
def serial : TreeFfi Str := Namespace.text n .serial
def firmware : TreeFfi Str := Namespace.text n .firmware

/-- `nsid`, `lba_size` and `meta_size` as methods of their own; the commands read them off
the handle. -/
def int (which : NsInt) : TreeFfi U32 := ask (TreeCall.nvmeNsGetInt which n)

def csi : TreeFfi U8 := do
  let csi ← Namespace.int n .csi
  return csi.setWidth 8

def long (which : NsLong) : TreeFfi U64 := ask (TreeCall.nvmeNsGetLong which n)

def lbaCount : TreeFfi U64 := Namespace.long n .lbaCount
def lbaUtilization : TreeFfi U64 := Namespace.long n .lbaUtil

def sizeBytes : TreeFfi U64 := do
  let count ← Namespace.lbaCount n
  let size ← Namespace.int n .lbaSize
  return saturatingMul count size

def bytes (which : NsBytes) (len : ℕ) : TreeFfi (List Byte) := do
  let ptr ← ask (TreeCall.nvmeNsGetBytes which n)
  return (ptr.map (·.take len)).getD (List.replicate len 0)

def nguid : TreeFfi (List Byte) := Namespace.bytes n .nguid 16
def eui64 : TreeFfi (List Byte) := Namespace.bytes n .eui64 8

def uuid : TreeFfi Slice := do
  let done ← ask (TreeCall.nvmeNsGetUuid n)
  return (Slice.zeros 16 (by decide)).fill done.data

def identify (t : Target) : TreeFfi Slice := do
  let id ← ofExit (t.alloc sizeofNvmeIdNs)
  let done ← ask (TreeCall.nvmeNsIdentify n)
  checkRet done.cret
  return id.fill done.data

end Namespace
end LibnvmeRs
