import LibnvmeRs.Columns
import LibnvmeRs.Probes
import LibnvmeRs.TreeLifetime
import LibnvmeRs.Utf8

/-!
# The listing of namespaces

`list_nvme` walks a fresh tree, notes a row for every namespace and one for every
controller without any, prints them as a table and drops the tree. The floating-point
numbers of `format_bytes` are a parameter, and so is the width above which the standard
library does not format.
-/

namespace LibnvmeRs

open Interaction Program ByteOrder Cursors Columns Lifetimes

/-- `chars().count()`: one for each byte that starts a character. -/
def charCount (bytes : List Byte) : ℕ := bytes.countP fun b => !isContinuation b

theorem charCount_append (s t : List Byte) : charCount (s ++ t) = charCount s + charCount t :=
  List.countP_append

theorem charCount_le (bytes : List Byte) : charCount bytes ≤ bytes.length :=
  List.countP_le_length

theorem charCount_charSeq {seq : List Byte} (hseq : IsCharSeq seq) : charCount seq = 1 := by
  have hhead {b : Byte} {n : ℕ} (hwidth : utf8CharWidth b = n + 1) : isContinuation b = false := by
    rw [Bool.eq_false_iff, ne_eq, isContinuation_iff]
    rw [utf8CharWidth_eq] at hwidth
    split_ifs at hwidth <;> omega
  have hthree {b₀ b₁ : Byte} (h : isSecondOfThree b₀ b₁ = true) : isContinuation b₁ = true := by
    rw [isSecondOfThree_iff] at h
    rw [isContinuation_iff]
    omega
  have hfour {b₀ b₁ : Byte} (h : isSecondOfFour b₀ b₁ = true) : isContinuation b₁ = true := by
    rw [isSecondOfFour_iff] at h
    rw [isContinuation_iff]
    omega
  match seq, hseq with
  | [b₀], hwidth => simp [charCount, hhead hwidth]
  | [b₀, b₁], ⟨hwidth, h₁⟩ => simp [charCount, hhead hwidth, h₁]
  | [b₀, b₁, b₂], ⟨hwidth, h₁, h₂⟩ => simp [charCount, hhead hwidth, hthree h₁, h₂]
  | [b₀, b₁, b₂, b₃], ⟨hwidth, h₁, h₂, h₃⟩ => simp [charCount, hhead hwidth, hfour h₁, h₂, h₃]

theorem charCount_encode (cs : List Char) : charCount (encode cs) = cs.length := by
  induction cs with
  | nil => rfl
  | cons c cs ih =>
    rw [encode, List.flatMap_cons, charCount_append, charCount_charSeq (isCharSeq_encodeChar c),
      List.length_cons, Nat.add_comm]
    exact congrArg (· + 1) ih

namespace ListNvme

structure Row where
  node : List Byte
  model : List Byte
  serial : List Byte
  firmware : List Byte
  transport : List Byte
  address : List Byte
  nsid : List Byte
  size : List Byte
  deriving DecidableEq

/-- The numbers `format_bytes` computes with. -/
structure Floats where
  F64 : Type
  ofU64 : U64 → F64
  geThousand : F64 → Bool
  divThousand : F64 → F64
  twoDecimals : F64 → List Byte

def units : List String := ["B", "KB", "MB", "GB", "TB", "PB"]

/-- The loop, which takes at most one turn for each unit. -/
def Floats.scale (f : Floats) : ℕ → f.F64 → ℕ → f.F64 × ℕ
  | 0, value, unitIdx => (value, unitIdx)
  | turns + 1, value, unitIdx =>
    if f.geThousand value && unitIdx + 1 < units.length then
      f.scale turns (f.divThousand value) (unitIdx + 1)
    else (value, unitIdx)

def formatBytes (f : Floats) (bytes : U64) : List Byte :=
  let (value, unitIdx) := f.scale units.length (f.ofU64 bytes) 0
  if unitIdx = 0 then utf8 s!"{bytes.toNat} B"
  else f.twoDecimals value ++ utf8 " " ++ utf8 (units.getD unitIdx "")

variable (f : Floats)

def devNode (name : Str) : List Byte := utf8 "/dev/" ++ name.bytes

def textOf (r : Except Error Str) : List Byte := (r.toOption.map Str.bytes).getD []

def ctrlText (p : Ffi Str) : TreeFfi (Except Error Str) := p.tree.attempt

def Row.nsName (ns : Option Namespace) : TreeFfi (Option Str) :=
  match ns with
  | none => pure none
  | some n => do
    let name ← (Namespace.name n).attempt
    return name.toOption

def Row.nodeOf (ctrl : Controller) (ns : Option Namespace) : TreeFfi (List Byte) := do
  match ← Row.nsName ns with
  | some name => return devNode name
  | none => do
    let name ← ctrlText (Controller.name ctrl)
    return (name.toOption.map devNode).getD []

def Row.nsidOf (ns : Option Namespace) : TreeFfi (List Byte) :=
  match ns with
  | none => pure []
  | some n => do
    let nsid ← Namespace.int n .nsid
    return utf8 (toString nsid.toNat)

def Row.sizeOf (ns : Option Namespace) : TreeFfi (List Byte) :=
  match ns with
  | none => pure []
  | some n => do
    let bytes ← Namespace.sizeBytes n
    return formatBytes f bytes

def Row.of (ctrl : Controller) (ns : Option Namespace) : TreeFfi Row := do
  let node ← Row.nodeOf ctrl ns
  let model ← ctrlText (Controller.model ctrl)
  let serial ← ctrlText (Controller.serial ctrl)
  let firmware ← ctrlText (Controller.firmware ctrl)
  let transport ← ctrlText (Controller.transport ctrl)
  let address ← ctrlText (Controller.address ctrl)
  let nsid ← Row.nsidOf ns
  let size ← Row.sizeOf f ns
  return {
    node := node
    model := textOf model
    serial := textOf serial
    firmware := textOf firmware
    transport := textOf transport
    address := textOf address
    nsid := nsid
    size := size }

def controller (fuel : ℕ) (ctrl : Controller) (rows : List Row) : TreeFfi (List Row) := do
  let namespaces ← (Controller.namespaces ctrl).tree
  let (rows, hadNamespace) ← forEach (fun it => (Namespaces.next it).tree) (fun ns acc => do
    let row ← Row.of f ctrl (some ns)
    return (acc.1 ++ [row], true)) fuel namespaces (rows, false)
  if hadNamespace then return rows
  else do
    let row ← Row.of f ctrl none
    return rows ++ [row]

def walk (root : Root) (fuel : ℕ) : TreeFfi (List Row) := do
  let hosts ← root.hosts.tree
  forEach (fun it => (Hosts.next it).tree) (fun host rows => do
    let subsystems ← host.subsystems.tree
    forEach (fun it => (Subsystems.next it).tree) (fun subsys rows => do
      let controllers ← (Subsystem.controllers subsys).tree
      forEach (fun it => (Controllers.next it).tree) (controller f fuel) fuel controllers rows)
        fuel subsystems rows) fuel hosts []

def headers : List String :=
  ["Node", "NSID", "Model", "Serial", "FW", "Size", "Transport", "Address"]

def Row.field (row : Row) : ℕ → List Byte
  | 0 => row.node
  | 1 => row.nsid
  | 2 => row.model
  | 3 => row.serial
  | 4 => row.firmware
  | 5 => row.size
  | 6 => row.transport
  | 7 => row.address
  | _ => []

def columnWidth (rows : List Row) (i : ℕ) : ℕ :=
  max (utf8 (headers.getD i "")).length ((rows.map fun r => (r.field i).length).max?.getD 0)

def widths (rows : List Row) : List ℕ := (List.range headers.length).map (columnWidth rows)

/-- `{:<width$}` fills up with blanks by the number of characters. -/
def chars : Measure Byte where
  width := charCount
  blank := 0x20
  width_nil := rfl
  width_append := charCount_append
  width_blank := rfl

def gap : List Byte := [0x20, 0x20]

def newline : List Byte := [0x0A]

/-- Whether a width can be formatted: the standard library may have a `limit`, above which
`print!` panics (65535 from Rust 1.87 on, none before). -/
def Formats (limit : Option ℕ) (w : ℕ) : Prop := ∀ m ∈ limit, w ≤ m

instance (limit : Option ℕ) (w : ℕ) : Decidable (Formats limit w) :=
  inferInstanceAs (Decidable (∀ m ∈ limit, w ≤ m))

def printCell (limit : Option ℕ) (w : ℕ) (cell : List Byte) : Option (List Byte) :=
  if Formats limit w then some (chars.pad w cell ++ gap) else none

def printDashes (limit : Option ℕ) (w : ℕ) : Option (List Byte) :=
  if Formats limit w then some (List.replicate w 0x2D ++ gap) else none

def printTable (limit : Option ℕ) (rows : List Row) : Output Byte :=
  let ws := widths rows
  .of (ws.zipWith (printCell limit) (headers.map utf8) ++ [some newline] ++
    (ws.map (printDashes limit) ++ [some newline]) ++
    rows.flatMap fun row =>
      ws.zipWith (printCell limit) ((List.range ws.length).map row.field) ++ [some newline])

def report (limit : Option ℕ) (rows : List Row) : Output Byte :=
  if rows.isEmpty then ⟨utf8 "(no NVMe devices found)" ++ newline, true⟩ else printTable limit rows

/-- A panic while printing unwinds, which drops the root like the return does. -/
def main (limit : Option ℕ) (fuel : ℕ) : TreeFfi (Output Byte) := do
  let root ← Root.scan
  let rows ← walk f root fuel
  root.drop
  return report limit rows

def cells (rows : List Row) : List (List (List Byte)) :=
  [headers.map utf8, (widths rows).map fun w => List.replicate w 0x2D] ++
    rows.map fun row => (List.range headers.length).map row.field

section Alignment
variable (rows : List Row)

theorem length_widths : (widths rows).length = headers.length := by
  rw [widths, List.length_map, List.length_range]

theorem charCount_dashes (w : ℕ) : charCount (List.replicate w 0x2D) = w := by
  have hdash : isContinuation 0x2D = false := by decide
  rw [charCount, List.countP_replicate, hdash]
  rfl

theorem printDashes_eq (limit : Option ℕ) (w : ℕ) :
    printDashes limit w = printCell limit w (List.replicate w 0x2D) := by
  have hpad : chars.pad w (List.replicate w 0x2D) = List.replicate w 0x2D := by
    change List.replicate w 0x2D ++ List.replicate (w - charCount (List.replicate w 0x2D)) _ = _
    rw [charCount_dashes, Nat.sub_self, List.replicate_zero, List.append_nil]
  rw [printDashes, printCell, hpad]

def linePrints (limit : Option ℕ) (ws : List ℕ) (cs : List (List Byte)) :
    List (Option (List Byte)) := ws.zipWith (printCell limit) cs ++ [some newline]

theorem printTable_eq (limit : Option ℕ) :
    printTable limit rows = .of ((cells rows).flatMap (linePrints limit (widths rows))) := by
  have hdashes : (widths rows).map (printDashes limit) = (widths rows).zipWith (printCell limit)
      ((widths rows).map fun w => List.replicate w 0x2D) := by
    rw [List.zipWith_map_right, List.zipWith_self]
    exact List.map_congr_left fun w _ => printDashes_eq limit w
  rw [printTable, cells, List.flatMap_append, List.flatMap_map, hdashes, length_widths]
  simp only [List.flatMap_cons, List.flatMap_nil, List.append_nil, linePrints]

theorem printCells_eq {limit : Option ℕ} {ws : List ℕ} (hws : ∀ w ∈ ws, Formats limit w)
    (cs : List (List Byte)) : ws.zipWith (printCell limit) cs =
      (ws.zipWith (fun w cell => chars.pad w cell ++ gap) cs).map some := by
  induction ws generalizing cs with
  | nil => rfl
  | cons w ws ih =>
    cases cs with
    | nil => rfl
    | cons cell cs =>
      rw [List.zipWith_cons_cons, ih (fun w' hw' => hws w' (List.mem_cons_of_mem w hw')), printCell,
        if_pos (hws w List.mem_cons_self)]
      rfl

theorem printTable_finished {limit : Option ℕ} (hwidths : ∀ w ∈ widths rows, Formats limit w) :
    printTable limit rows =
      ⟨((cells rows).map fun cs => chars.line gap (widths rows) cs ++ newline).flatten, true⟩ := by
  have hline (cs : List (List Byte)) : linePrints limit (widths rows) cs =
      ((widths rows).zipWith (fun w cell => chars.pad w cell ++ gap) cs ++ [newline]).map some := by
    rw [linePrints, printCells_eq hwidths, List.map_append, List.map_singleton]
  have hprints : (cells rows).flatMap (linePrints limit (widths rows)) =
      ((cells rows).flatMap fun cs => (widths rows).zipWith
        (fun w cell => chars.pad w cell ++ gap) cs ++ [newline]).map some := by
    rw [List.map_flatMap]
    exact congrArg (List.flatMap · (cells rows)) (funext hline)
  rw [printTable_eq, hprints, Output.of_some, List.flatMap_def, List.flatten_flatten, List.map_map]
  simp only [Function.comp_def, List.flatten_append, List.flatten_singleton, Measure.line]

theorem fits_of_le (cell : ℕ → List Byte) (hcell : ∀ i, (cell i).length ≤ columnWidth rows i) :
    chars.Fits (widths rows) ((List.range headers.length).map cell) := by
  rw [widths, Measure.Fits, List.forall₂_map_left_iff, List.forall₂_map_right_iff,
    List.forall₂_same]
  exact fun i _ => (charCount_le (cell i)).trans (hcell i)

theorem cells_fit {cs : List (List Byte)} (hcs : cs ∈ cells rows) :
    chars.Fits (widths rows) cs := by
  rcases List.mem_append.mp hcs with hcs | hcs
  · simp only [List.mem_cons, List.not_mem_nil, or_false] at hcs
    rcases hcs with rfl | rfl
    · exact fits_of_le rows (fun i => utf8 (headers.getD i "")) fun i => Nat.le_max_left ..
    · rw [widths, List.map_map]
      exact fits_of_le rows _ fun i => (List.length_replicate ..).le
  · obtain ⟨row, hrow, rfl⟩ := List.mem_map.mp hcs
    refine fits_of_le rows row.field fun i => Nat.le_trans ?_ (Nat.le_max_right ..)
    exact List.le_max?_getD_of_mem (List.mem_map.mpr ⟨row, hrow, rfl⟩)

/-- A column that is too wide stops the header line where its cell would begin. -/
theorem printTable_panics {limit : Option ℕ} {i w : ℕ} (hw : (widths rows)[i]? = some w)
    (hwide : ¬Formats limit w) (hbefore : ∀ w' ∈ (widths rows).take i, Formats limit w') :
    printTable limit rows =
      ⟨chars.line gap ((widths rows).take i) ((headers.map utf8).take i), false⟩ := by
  obtain ⟨hi, -⟩ := List.getElem?_eq_some_iff.mp hw
  obtain ⟨title, htitle⟩ : ∃ title, (headers.map utf8)[i]? = some title :=
    ⟨_, List.getElem?_eq_getElem (by rwa [List.length_map, ← length_widths rows])⟩
  let prints := (widths rows).zipWith (printCell limit) (headers.map utf8)
  have hat : prints[i]? = some none := by
    rw [List.getElem?_zipWith, hw, htitle]
    exact congrArg some (if_neg hwide)
  have hhead : prints.take i =
      (((widths rows).take i).zipWith (fun w cell => chars.pad w cell ++ gap)
        ((headers.map utf8).take i)).map some := by
    rw [List.take_zipWith, printCells_eq hbefore]
  obtain ⟨hlt, hnone⟩ := List.getElem?_eq_some_iff.mp hat
  have hprints : prints = prints.take i ++ none :: prints.drop (i + 1) := by
    rw [← hnone, ← List.drop_eq_getElem_cons hlt, List.take_append_drop]
  rw [printTable_eq, cells, List.cons_append, List.flatMap_cons, linePrints]
  change Output.of (prints ++ [some newline] ++ _) = _
  rw [hprints, hhead, List.append_assoc, List.append_assoc, List.cons_append, Output.of_append]
  exact congrArg (Output.mk · false) (List.append_nil _)

theorem newline_notMem_cells (hrows : ∀ row ∈ rows, ∀ i, 0x0A ∉ row.field i) :
    ∀ cs ∈ cells rows, ∀ cell ∈ cs, (0x0A : Byte) ∉ cell := by
  intro cs hcs cell hcell
  have hheaders : ∀ title ∈ headers.map utf8, (0x0A : Byte) ∉ title := by decide +kernel
  rcases List.mem_append.mp hcs with hcs | hcs
  · simp only [List.mem_cons, List.not_mem_nil, or_false] at hcs
    rcases hcs with rfl | rfl
    · exact hheaders cell hcell
    · obtain ⟨w, -, rfl⟩ := List.mem_map.mp hcell
      intro hmem
      have hdash : (0x0A : Byte) = 0x2D := List.eq_of_mem_replicate hmem
      revert hdash
      decide
  · obtain ⟨row, hrow, rfl⟩ := List.mem_map.mp hcs
    obtain ⟨i, -, rfl⟩ := List.mem_map.mp hcell
    exact hrows row hrow i

theorem newline_notMem_line {ws : List ℕ} {cs : List (List Byte)}
    (hcs : ∀ cell ∈ cs, (0x0A : Byte) ∉ cell) : (0x0A : Byte) ∉ chars.line gap ws cs := by
  intro hmem
  obtain ⟨part, hpart, hin⟩ := List.mem_flatten.mp hmem
  obtain ⟨i, hi, rfl⟩ := List.getElem_of_mem hpart
  rw [List.getElem_zipWith, Measure.pad, List.mem_append, List.mem_append] at hin
  rcases hin with (hcell | hblank) | hgap
  · exact hcs _ (List.getElem_mem _) hcell
  · have hblank' : (0x0A : Byte) = 0x20 := List.eq_of_mem_replicate hblank
    revert hblank'
    decide
  · revert hgap
    decide

/-- The line has as many characters as its columns and gaps, and every cell stands whole at
the start of its column. -/
def Aligned (ws : List ℕ) (cs : List (List Byte)) (line : List Byte) : Prop :=
  charCount line = chars.start gap ws headers.length ∧
    ∀ i < headers.length, ∃ before blanks after,
      line = before ++ (cs.getD i [] ++ List.replicate blanks 0x20) ++ gap ++ after ∧
      charCount before = chars.start gap ws i ∧
      charCount (cs.getD i []) + blanks = ws.getD i 0

theorem line_aligned {cs : List (List Byte)} (hcs : cs ∈ cells rows) :
    Aligned (widths rows) cs (chars.line gap (widths rows) cs) := by
  have hfits := cells_fit rows hcs
  have hlength := hfits.length_eq
  rw [length_widths] at hlength
  refine ⟨?_, fun i hi => ?_⟩
  · rw [← length_widths rows]
    exact hfits.width_line
  · obtain ⟨w, hw⟩ : ∃ w, (widths rows)[i]? = some w :=
      ⟨_, List.getElem?_eq_getElem (by rwa [length_widths])⟩
    obtain ⟨cell, hcell⟩ : ∃ cell, cs[i]? = some cell :=
      ⟨_, List.getElem?_eq_getElem (by rwa [← hlength])⟩
    obtain ⟨before, after, hline, hbefore, hfit⟩ := hfits.line_at gap hw hcell
    simp only [List.getD_eq_getElem?_getD, hw, hcell, Option.getD_some]
    refine ⟨before, w - charCount cell, after, ?_, hbefore, Nat.add_sub_cancel' hfit⟩
    change _ = before ++ chars.pad w cell ++ gap ++ after
    rw [hline]
    simp only [List.append_assoc]

/-- With every column narrow enough to format, the output read line by line is the cells in
aligned columns, unless a cell has a line feed of its own; a column too wide stops it in
the header line. -/
theorem print_table_aligned (limit : Option ℕ) (rows : List Row) :
    ((∀ w ∈ widths rows, Formats limit w) → (printTable limit rows).finished = true ∧
      ((∀ row ∈ rows, ∀ i, 0x0A ∉ row.field i) →
        ∃ lines, (printTable limit rows).text.splitOn 0x0A = lines ++ [[]] ∧
          List.Forall₂ (Aligned (widths rows)) (cells rows) lines)) ∧
    ∀ i w, (widths rows)[i]? = some w → ¬Formats limit w →
      (∀ w' ∈ (widths rows).take i, Formats limit w') →
        printTable limit rows =
          ⟨chars.line gap ((widths rows).take i) ((headers.map utf8).take i), false⟩ := by
  refine ⟨fun hwidths => ?_, fun i w => printTable_panics rows⟩
  rw [printTable_finished rows hwidths]
  refine ⟨rfl, fun hrows => ⟨(cells rows).map (chars.line gap (widths rows)), ?_, ?_⟩⟩
  · have hclean : ∀ line ∈ (cells rows).map (chars.line gap (widths rows)),
        (0x0A : Byte) ∉ line := by
      intro line hline
      obtain ⟨cs, hcs, rfl⟩ := List.mem_map.mp hline
      exact newline_notMem_line (newline_notMem_cells rows hrows cs hcs)
    rw [← splitOn_lines hclean, List.map_map]
    rfl
  · rw [List.forall₂_map_right_iff, List.forall₂_same]
    exact fun cs hcs => line_aligned rows hcs

end Alignment

def diskRow : Row where
  node := utf8 "/dev/nvme0n1"
  model := utf8 "Disk"
  serial := utf8 "é"
  firmware := []
  transport := utf8 "pcie"
  address := utf8 "0000:01:00.0"
  nsid := utf8 "1"
  size := utf8 "512 B"

theorem print_table_aligned_disk :
    ∃ lines, (printTable (some 65535) [diskRow]).text.splitOn 0x0A = lines ++ [[]] ∧
      List.Forall₂ (Aligned (widths [diskRow])) (cells [diskRow]) lines := by
  have hfields : ∀ i < 8, 0x0A ∉ diskRow.field i := by decide +kernel
  refine ((print_table_aligned (some 65535) [diskRow]).1 (by decide +kernel)).2 fun row hrow i => ?_
  obtain rfl := List.mem_singleton.mp hrow
  by_cases hi : i < 8
  · exact hfields i hi
  · obtain ⟨j, rfl⟩ := Nat.exists_eq_add_of_le' (Nat.le_of_not_lt hi)
    exact List.not_mem_nil

-- a limit of 8 characters stops the header line before the column of nine
example : printTable (some 8) [] = ⟨utf8 "Node  NSID  Model  Serial  FW  Size  ", false⟩ := by
  decide +kernel

structure System where
  tree : Tree
  string : CtrlGetter → NvmeCtrl → Option CString
  nsText : NsGetter → NvmeNs → Option CString
  nsInt : NsInt → NvmeNs → I32
  nsLong : NsLong → NvmeNs → U64

namespace System
variable (M : System)

def Answers : Event TreeCall TreeAnswer → Prop
  | ⟨.lib (.nvmeCtrlGetString which c), r⟩ => r = M.string which c
  | ⟨.lib c, r⟩ => M.tree.Answers ⟨c, r⟩
  | ⟨.nvmeNsGet which n, r⟩ => r = M.nsText which n
  | ⟨.nvmeNsGetInt which n, r⟩ => r = M.nsInt which n
  | ⟨.nvmeNsGetLong which n, r⟩ => r = M.nsLong which n
  | _ => True

def text (which : CtrlGetter) (c : Controller) : Except Error Str :=
  borrowedText (M.string which c)

def name (ns : Option Namespace) : Option Str :=
  ns.bind fun n => (borrowedText (M.nsText .name n)).toOption

def sizeBytes (n : Namespace) : U64 := saturatingMul (M.nsLong .lbaCount n) (M.nsInt .lbaSize n)

def row (ctrl : Controller) (ns : Option Namespace) : Row :=
  { node := ((M.name ns).map devNode).getD (((M.text .name ctrl).toOption.map devNode).getD [])
    model := textOf (M.text .model ctrl)
    serial := textOf (M.text .serial ctrl)
    firmware := textOf (M.text .firmware ctrl)
    transport := textOf (M.text .transport ctrl)
    address := textOf (M.text .address ctrl)
    nsid := (ns.map fun n => utf8 (toString (M.nsInt .nsid n).toNat)).getD []
    size := (ns.map fun n => formatBytes f (M.sizeBytes n)).getD [] }

def ctrlRows (ctrl : Controller) : List Row :=
  match M.tree.items .ns ctrl with
  | [] => [M.row f ctrl none]
  | namespaces => namespaces.map fun ns => M.row f ctrl (some ns)

def rows (root : Root) : List Row :=
  (M.tree.items .host root.inner).flatMap fun host : Host =>
    (M.tree.items .subsystem host.ptr).flatMap fun subsys =>
      (M.tree.items .ctrl subsys).flatMap fun ctrl => M.ctrlRows f ctrl

end System

theorem foldl_rows (g : Namespace → Row) (l : List Namespace) (acc : List Row × Bool) :
    l.foldl (fun acc ns => (acc.1 ++ [g ns], true)) acc =
      (acc.1 ++ l.map g, acc.2 || !l.isEmpty) := by
  induction l generalizing acc with
  | nil => simp
  | cons ns l ih =>
    rw [List.foldl_cons, ih]
    simp

section Library
variable {M : System} {σ : Type} {h : Handler TreeCall TreeAnswer σ}
variable (hM : ∀ c s, M.Answers ⟨c, (h c s).1⟩)

abbrev plain (h : Handler TreeCall TreeAnswer σ) : Handler Call Answer σ :=
  viaHandler TreeCall.lib (fun _ r => r) h

theorem tree_returns {α : Type} {p : Ffi α} {a : α} (hp : p.Returns (plain h) a) :
    p.tree.Returns h a := fun s => (run_via TreeCall.lib (fun _ r => r) h s p).1.trans (hp s)

theorem attempt_returns {α : Type} {p : TreeFfi α} {x : Except Error α}
    (hp : ∀ s, (p.run h s).exit = .ofExcept x) : p.attempt.Returns h x :=
  fun s => ((run_attempt h s p).2.2 x).mpr (hp s)

include hM

theorem tree_answers (c : Call) (s : σ) : M.tree.Answers ⟨c, (plain h c s).1⟩ := by
  have hanswer := hM (.lib c) s
  cases c with
  | nvmeCtrlGetString => trivial
  | _ => exact hanswer

theorem text_returns (which : CtrlGetter) (c : Controller) :
    (ctrlText (Controller.string c which)).Returns h (M.text which c) := by
  refine attempt_returns fun s => ?_
  have hanswer : (h (.lib (.nvmeCtrlGetString which c)) s).1 = M.string which c :=
    hM (.lib (.nvmeCtrlGetString which c)) s
  rw [Ffi.tree, (run_via TreeCall.lib (fun _ r => r) h s _).1, Controller.string, ask_bind,
    run_call]
  dsimp only [viaHandler]
  rw [hanswer, System.text]
  cases M.string which c with
  | none => rfl
  | some cstr =>
    dsimp only [borrowedText]
    cases utf8OrError (trimTrailingPadding cstr.bytes) <;> rfl

theorem name_returns (ns : Option Namespace) : (Row.nsName ns).Returns h (M.name ns) := by
  cases ns with
  | none => exact returns_ret h none
  | some n =>
    have hname : (Namespace.name n).attempt.Returns h (borrowedText (M.nsText .name n)) := by
      refine attempt_returns fun s => ?_
      have hanswer : (h (.nvmeNsGet .name n) s).1 = M.nsText .name n := hM (.nvmeNsGet .name n) s
      rw [Namespace.name, Namespace.text, ask_bind, run_call]
      dsimp only
      rw [hanswer]
      cases borrowedText (M.nsText .name n) <;> rfl
    exact hname.bind (returns_ret h _)

theorem node_returns (ctrl : Controller) (ns : Option Namespace) :
    (Row.nodeOf ctrl ns).Returns h (M.row f ctrl ns).node := by
  refine (name_returns hM ns).bind ?_
  rw [System.row]
  cases M.name ns with
  | some name => exact returns_ret h _
  | none => exact (text_returns hM .name ctrl).bind (returns_ret h _)

theorem nsid_returns (ns : Option Namespace) : (Row.nsidOf ns).Returns h
    ((ns.map fun n => utf8 (toString (M.nsInt .nsid n).toNat)).getD []) := by
  cases ns with
  | none => exact returns_ret h []
  | some n =>
    intro s
    have hanswer : (h (.nvmeNsGetInt .nsid n) s).1 = M.nsInt .nsid n := hM (.nvmeNsGetInt .nsid n) s
    rw [Row.nsidOf, Namespace.int, ask_bind, run_call, hanswer]
    rfl

theorem size_returns (ns : Option Namespace) : (Row.sizeOf f ns).Returns h
    ((ns.map fun n => formatBytes f (M.sizeBytes n)).getD []) := by
  cases ns with
  | none => exact returns_ret h []
  | some n =>
    intro s
    have hcount : (h (.nvmeNsGetLong .lbaCount n) s).1 = M.nsLong .lbaCount n :=
      hM (.nvmeNsGetLong .lbaCount n) s
    have hsize : (h (.nvmeNsGetInt .lbaSize n) (h (.nvmeNsGetLong .lbaCount n) s).2).1 =
        M.nsInt .lbaSize n := hM (.nvmeNsGetInt .lbaSize n) _
    rw [Row.sizeOf, Namespace.sizeBytes, Namespace.lbaCount, Namespace.long, Namespace.int]
    simp only [ask_bind, call_bind, run_call, hcount, hsize]
    rfl

theorem row_returns (ctrl : Controller) (ns : Option Namespace) :
    (Row.of f ctrl ns).Returns h (M.row f ctrl ns) := by
  refine (node_returns f hM ctrl ns).bind ((text_returns hM .model ctrl).bind ?_)
  refine (text_returns hM .serial ctrl).bind ((text_returns hM .firmware ctrl).bind ?_)
  refine (text_returns hM .transport ctrl).bind ((text_returns hM .address ctrl).bind ?_)
  exact (nsid_returns hM ns).bind ((size_returns f hM ns).bind (returns_ret h _))

theorem next_returns {k : Link} {parent : k.Parent} {it : Cursor k} {n : ℕ}
    (hit : it.StandsAt M.tree parent n) :
    ∃ rest, (Cursor.next it).tree.Returns h ((M.tree.items k parent)[n]?, rest) ∧
      rest.StandsAt M.tree parent (n + 1) := by
  obtain ⟨rest, hnext, hrest⟩ := Cursor.next_returns (tree_answers hM) hit
  exact ⟨rest, tree_returns hnext, hrest⟩

theorem new_returns {k : Link} (parent : k.Parent) :
    (Cursor.new k parent).tree.Returns h ⟨parent, (M.tree.children k parent)[0]?⟩ :=
  tree_returns (Cursor.new_returns (tree_answers hM) parent)

theorem forEach_rows (k : Link) (parent : k.Parent)
    {body : ℕ → k.Item → List Row → TreeFfi (List Row)} {g : k.Item → List Row}
    (hbody : ∀ a ∈ M.tree.items k parent, ∃ N, ∀ fuel ≥ N, ∀ seen,
      (body fuel a seen).Returns h (seen ++ g a)) :
    ∃ N, ∀ fuel ≥ N, ∀ seen, ((Cursor.new k parent).tree >>= fun it =>
      forEach (fun it => (Cursor.next it).tree) (body fuel) fuel it seen).Returns h
        (seen ++ (M.tree.items k parent).flatMap g) := by
  obtain ⟨N, hN⟩ := forEach_settles (fun it n hit => next_returns hM hit) hbody
    (Cursor.standsAt_first parent)
  refine ⟨N, fun fuel hfuel seen => (new_returns hM parent).bind ?_⟩
  have hloop := hN fuel hfuel seen
  rwa [List.foldl_append_eq_append, ← List.flatMap_def] at hloop

theorem controller_returns (ctrl : Controller) :
    ∃ N, ∀ fuel ≥ N, ∀ seen,
      (controller f fuel ctrl seen).Returns h (seen ++ M.ctrlRows f ctrl) := by
  have hbody : ∀ ns ∈ M.tree.items .ns ctrl, ∃ N, ∀ fuel ≥ N, ∀ acc : List Row × Bool,
      (Row.of f ctrl (some ns) >>= fun row => .ret (acc.1 ++ [row], true)).Returns h
        (acc.1 ++ [M.row f ctrl (some ns)], true) := fun ns _ =>
    ⟨0, fun _ _ acc => (row_returns f hM ctrl (some ns)).bind (returns_ret h _)⟩
  obtain ⟨N, hN⟩ := forEach_settles (P := fun (it : Namespaces) n => it.StandsAt M.tree ctrl n)
    (g := fun acc ns => (acc.1 ++ [M.row f ctrl (some ns)], true))
    (fun it n hit => next_returns hM hit) hbody (Cursor.standsAt_first (k := .ns) ctrl)
  refine ⟨N, fun fuel hfuel seen => ?_⟩
  refine (new_returns hM (k := .ns) ctrl).bind ?_
  refine (hN fuel hfuel (seen, false)).bind ?_
  rw [foldl_rows, System.ctrlRows]
  cases M.tree.items .ns ctrl with
  | nil =>
    rw [List.map_nil, List.append_nil]
    exact (row_returns f hM ctrl none).bind (returns_ret h _)
  | cons ns rest => exact returns_ret h _

theorem walk_returns (root : Root) :
    ∃ N, ∀ fuel ≥ N, (walk f root fuel).Returns h (M.rows f root) := by
  obtain ⟨N, hN⟩ := forEach_rows hM .host root.inner fun host _ =>
    forEach_rows hM .subsystem host.ptr fun subsys _ =>
      forEach_rows hM .ctrl subsys fun ctrl _ => controller_returns f hM ctrl
  exact ⟨N, fun fuel hfuel => hN fuel hfuel []⟩

end Library

section Quiet

abbrev Quiet {α : Type} (p : TreeFfi α) : Prop := p.OnlyCalls fun c => c.quiet = true

theorem quiet_tree {α : Type} (p : Ffi α) : Quiet p.tree :=
  OnlyCalls.via (P := fun _ => True) (fun _ _ _ _ _ => trivial) fun _ _ => rfl

theorem quiet_ask {c : TreeCall} (hc : c.quiet = true) : Quiet (ask c) := onlyCalls_ask hc

theorem quiet_text (p : Ffi Str) : Quiet (ctrlText p) := (quiet_tree p).attempt

theorem quiet_node (ctrl : Controller) (ns : Option Namespace) : Quiet (Row.nodeOf ctrl ns) := by
  have hname : Quiet (Row.nsName ns) := by
    cases ns with
    | none => exact onlyCalls_ret none
    | some n =>
      have hget : Quiet (Namespace.name n) := (quiet_ask (c := .nvmeNsGet .name n) rfl).bind
        fun ptr => onlyCalls_ofExcept (borrowedText ptr)
      exact hget.attempt.bind fun name => onlyCalls_ret _
  refine hname.bind fun name => ?_
  cases name with
  | none => exact (quiet_text _).bind fun name => onlyCalls_ret _
  | some name => exact onlyCalls_ret _

theorem quiet_nsid (ns : Option Namespace) : Quiet (Row.nsidOf ns) := by
  cases ns with
  | none => exact onlyCalls_ret []
  | some n =>
    exact (quiet_ask (c := .nvmeNsGetInt .nsid n) rfl).bind fun nsid => onlyCalls_ret _

theorem quiet_size (ns : Option Namespace) : Quiet (Row.sizeOf f ns) := by
  cases ns with
  | none => exact onlyCalls_ret []
  | some n =>
    have hbytes : Quiet (Namespace.sizeBytes n) :=
      (quiet_ask (c := .nvmeNsGetLong .lbaCount n) rfl).bind fun count =>
        (quiet_ask (c := .nvmeNsGetInt .lbaSize n) rfl).bind fun size => onlyCalls_ret _
    exact hbytes.bind fun bytes => onlyCalls_ret _

theorem quiet_row (ctrl : Controller) (ns : Option Namespace) : Quiet (Row.of f ctrl ns) := by
  refine (quiet_node ctrl ns).bind fun node => (quiet_text _).bind fun model => ?_
  refine (quiet_text _).bind fun serial => (quiet_text _).bind fun firmware => ?_
  refine (quiet_text _).bind fun transport => (quiet_text _).bind fun address => ?_
  exact (quiet_nsid ns).bind fun nsid => (quiet_size f ns).bind fun size => onlyCalls_ret _

theorem quiet_forEach {τ : Type} (k : Link) (parent : k.Parent) {body : k.Item → τ → TreeFfi τ}
    (hbody : ∀ item x, Quiet (body item x)) (fuel : ℕ) (x : τ) :
    Quiet ((Cursor.new k parent).tree >>= fun it =>
      forEach (fun it => (Cursor.next it).tree) body fuel it x) :=
  (quiet_tree _).bind fun it => onlyCalls_forEach (fun _ => quiet_tree _) hbody fuel it x

theorem quiet_controller (fuel : ℕ) (ctrl : Controller) (rows : List Row) :
    Quiet (controller f fuel ctrl rows) := by
  have hloop : Quiet ((Cursor.new .ns ctrl).tree >>= fun it =>
      forEach (fun it => (Cursor.next it).tree) (fun ns (acc : List Row × Bool) =>
        Row.of f ctrl (some ns) >>= fun row => .ret (acc.1 ++ [row], true)) fuel it
          (rows, false)) :=
    quiet_forEach .ns ctrl (fun ns acc => (quiet_row f ctrl (some ns)).bind
      fun _ => onlyCalls_ret _) fuel _
  have hlast : ∀ acc : List Row × Bool, Quiet
      (if acc.2 then .ret acc.1 else Row.of f ctrl none >>= fun row => .ret (acc.1 ++ [row])) := by
    intro acc
    split_ifs
    · exact onlyCalls_ret acc.1
    · exact (quiet_row f ctrl none).bind fun _ => onlyCalls_ret _
  have hboth := hloop.bind hlast
  rwa [bind_bind] at hboth

theorem quiet_walk (root : Root) (fuel : ℕ) : Quiet (walk f root fuel) :=
  quiet_forEach .host root.inner (fun host rows =>
    quiet_forEach .subsystem host.ptr (fun subsys rows =>
      quiet_forEach .ctrl subsys (quiet_controller f fuel) fuel rows) fuel rows) fuel []

end Quiet

/-- The listing has a row for every namespace and for every controller without one, in the
order of the tree, printed as far as no column is too wide, and the tree it scanned is dropped
at the end. -/
theorem list_nvme_lists (f : Floats) (limit : Option ℕ) (M : System) {σ : Type}
    (h : Handler TreeCall TreeAnswer σ) (hM : ∀ c s, M.Answers ⟨c, (h c s).1⟩) (s : σ) :
    ((h .nvmeScan s).1.value = none → ∀ fuel,
      ((main f limit fuel).run h s).exit = .error (.os (.raw (h .nvmeScan s).1.errno)) ∧
        ((main f limit fuel).run h s).calls = [.nvmeScan]) ∧
    ∀ inner, (h .nvmeScan s).1.value = some inner → ∃ N, ∀ fuel ≥ N,
      ((main f limit fuel).run h s).exit = .ok (report limit (M.rows f ⟨inner⟩)) ∧
        ∃ calls : List TreeCall, (∀ c ∈ calls, c.quiet = true) ∧
          ((main f limit fuel).run h s).calls = .nvmeScan :: calls ++ [.nvmeFreeTree inner] := by
  constructor
  · intro hscan fuel
    rw [main, Root.scan, ask_bind, call_bind, run_call]
    dsimp only
    rw [hscan]
    exact ⟨rfl, rfl⟩
  · intro inner hscan
    obtain ⟨N, hN⟩ := walk_returns f hM ⟨inner⟩
    refine ⟨N, fun fuel hfuel => ?_⟩
    rw [main, Root.scan, ask_bind, call_bind, run_call]
    dsimp only
    rw [hscan]
    have hrest := run_bind_ok h (h .nvmeScan s).2 (hN fuel hfuel _) fun rows =>
      (Root.drop ⟨inner⟩ >>= fun _ => .ret (report limit rows))
    refine ⟨congrArg Outcome.exit hrest, _, quiet_walk f ⟨inner⟩ fuel σ h (h .nvmeScan s).2, ?_⟩
    have hall := congrArg Outcome.calls hrest
    rw [Outcome.calls, Outcome.calls, List.map_append] at hall
    exact congrArg (TreeCall.nvmeScan :: ·) hall

def smallFloats : Floats where
  F64 := U64
  ofU64 := id
  geThousand := fun _ => false
  divThousand := id
  twoDecimals := fun _ => []

def shelf : System where
  tree := twoHosts
  string
    | .name, 7 => some ⟨utf8 "nvme0", by decide⟩
    | .name, _ => some ⟨utf8 "nvme1", by decide⟩
    | .model, _ => some ⟨utf8 "Disk  ", by decide⟩
    | _, _ => none
  nsText
    | .name, _ => some ⟨utf8 "nvme0n1", by decide⟩
    | _, _ => none
  nsInt
    | .nsid, n => n.getNsid
    | .lbaSize, n => n.getLbaSize
    | _, _ => 0
  nsLong := fun _ _ => 1

def shelfLibrary : Handler TreeCall TreeAnswer Unit := fun c s =>
  match c with
  | .nvmeScan => (⟨some 0, 0⟩, s)
  | .lib (.nvmeCtrlGetString which c) => (shelf.string which c, s)
  | .lib c => twoHosts.library c s
  | .nvmeNsGet which n => (shelf.nsText which n, s)
  | .nvmeNsGetInt which n => (shelf.nsInt which n, s)
  | .nvmeNsGetLong which n => (shelf.nsLong which n, s)
  | c => (c.zero, s)

theorem shelf_answers (c : TreeCall) (s : Unit) : shelf.Answers ⟨c, (shelfLibrary c s).1⟩ := by
  cases c with
  | admin c =>
    cases c with
    | lib c =>
      cases c with
      | nvmeCtrlGetString which c => exact rfl
      | nvmeFirst k parent => exact rfl
      | nvmeNext k parent current => exact fun _ => rfl
      | _ => trivial
    | _ => trivial
  | nvmeNsGet which n => exact rfl
  | nvmeNsGetInt which n => exact rfl
  | nvmeNsGetLong which n => exact rfl
  | _ => trivial

theorem list_nvme_lists_shelf :
    ∃ N, ∀ fuel ≥ N,
      ((main smallFloats (some 65535) fuel).run shelfLibrary ()).exit =
        .ok (report (some 65535) (shelf.rows smallFloats ⟨0⟩)) ∧
        ∃ calls : List TreeCall, (∀ c ∈ calls, c.quiet = true) ∧
          ((main smallFloats (some 65535) fuel).run shelfLibrary ()).calls =
            .nvmeScan :: calls ++ [.nvmeFreeTree 0] :=
  (list_nvme_lists smallFloats (some 65535) shelf shelfLibrary shelf_answers ()).2 0 rfl

example : report (some 65535) (shelf.rows smallFloats ⟨0⟩) = ⟨utf8 (
    "Node          NSID  Model  Serial  FW  Size   Transport  Address  \n" ++
    "------------  ----  -----  ------  --  -----  ---------  -------  \n" ++
    "/dev/nvme0n1  1     Disk               512 B                      \n" ++
    "/dev/nvme1          Disk                                          \n"), true⟩ := by
  decide +kernel

end ListNvme
end LibnvmeRs
