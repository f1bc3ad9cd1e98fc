import LibnvmeRs.Joins
import LibnvmeRs.Probes
import LibnvmeRs.Utf8

/-!
# Probing the headers one by one

A symbol is in the headers when some header file contains it. The build script reads
the files one after the other into one string, and reads a file only when all of it is
UTF-8. A symbol in a file with a byte of another encoding is missed, and a symbol that
begins at the end of one file and ends in the next is found, though neither contains it.
-/

namespace LibnvmeRs

open ByteOrder Joins

def DirEntry.headers (entry : DirEntry) : List (List Byte) :=
  if extension entry.name = some (utf8 "h") then entry.contents.toList else []

def IncludeDir.headers (dir : IncludeDir) : List (List Byte) :=
  dir.libnvmeH.toList ++ (dir.nvme.getD []).flatMap DirEntry.headers

def headers (includePaths : List IncludeDir) : List (List Byte) :=
  includePaths.flatMap IncludeDir.headers

def isUtf8 (header : List Byte) : Bool := (fromUtf8 header).isOk

def decoded (includePaths : List IncludeDir) : List (List Byte) :=
  (headers includePaths).filter isUtf8

theorem isUtf8_iff {header : List Byte} : isUtf8 header = true ↔ ∃ cs, header = encode cs := by
  rw [← validateUtf8_iff (i := 0), isUtf8]
  cases hread : fromUtf8 header with
  | ok s =>
    obtain rfl := fromUtf8_ok_iff.mp hread
    exact ⟨fun _ => s.valid, fun _ => rfl⟩
  | error e =>
    refine ⟨fun hok => absurd hok (by simp [Except.isOk, Except.toBool]), fun hvalid => ?_⟩
    rw [(fromUtf8_ok_iff (t := ⟨header, hvalid⟩)).mpr rfl] at hread
    cases hread

def decodedText (header : List Byte) : List Byte := if isUtf8 header then header else []

theorem appendIfExists_eq (buf : List Byte) (contents : Option (List Byte)) :
    appendIfExists buf contents = buf ++ contents.toList.flatMap decodedText := by
  cases contents with
  | none => simp [appendIfExists]
  | some header =>
    rw [appendIfExists, Option.toList_some, List.flatMap_singleton, decodedText, isUtf8]
    cases hread : fromUtf8 header with
    | ok s =>
      obtain rfl := fromUtf8_ok_iff.mp hread
      rfl
    | error e => exact (List.append_nil buf).symm

theorem appendHeader_eq (text : List Byte) (entry : DirEntry) :
    appendHeader text entry = text ++ entry.headers.flatMap decodedText := by
  rw [appendHeader, DirEntry.headers]
  split_ifs
  · exact appendIfExists_eq text entry.contents
  · exact (List.append_nil text).symm

theorem appendDir_eq (text : List Byte) (dir : IncludeDir) :
    appendDir text dir = text ++ dir.headers.flatMap decodedText := by
  rw [appendDir, foldl_eq_append appendHeader_eq, appendIfExists_eq, IncludeDir.headers,
    List.flatMap_append, List.flatMap_assoc, List.append_assoc]

theorem collectHeaderText_eq (includePaths : List IncludeDir) :
    collectHeaderText includePaths = (decoded includePaths).flatten := by
  have hfilter : ∀ l : List (List Byte), l.flatMap decodedText = (l.filter isUtf8).flatten := by
    intro l
    induction l with
    | nil => rfl
    | cons header l ih =>
      rw [List.flatMap_cons, ih, decodedText, List.filter_cons]
      split_ifs
      · rfl
      · rfl
  rw [collectHeaderText, foldl_eq_append appendDir_eq, List.nil_append, decoded, headers, ← hfilter,
    List.flatMap_assoc]

theorem probes_ne_nil : ∀ row ∈ probes, utf8 row.2 ≠ [] := by decide +kernel

/-- The symbol stands in a header file that is UTF-8, or begins in one such file and ends in
a later one of the listing. -/
def Occurs (includePaths : List IncludeDir) (symbol : String) : Prop :=
  (∃ header ∈ decoded includePaths, contains header symbol) ∨
    Straddles (decoded includePaths) (utf8 symbol)

theorem mem_emitted_iff {includePaths : List IncludeDir} {row : Cfg × String}
    (hrow : row ∈ probes) : row.1 ∈ emitted includePaths ↔ Occurs includePaths row.2 := by
  rw [mem_emitted hrow, contains, collectHeaderText_eq, infix_flatten_iff (probes_ne_nil row hrow)]
  rfl

/-- Under an emitted flag every function is declared if and only if each function name that
stands in a UTF-8 header, or over the end of one, is declared together with its sibling. -/
theorem imports_resolve_iff (declares : List IncludeDir → String → Prop)
    (includePaths : List IncludeDir) :
    ImportsResolve declares includePaths ↔
      (∀ row ∈ probes, row.1 ≠ .hasSanitizeEmvs → Occurs includePaths row.2 →
        declares includePaths row.2) ∧
      ∀ pair ∈ siblings, Occurs includePaths pair.1 → declares includePaths pair.2 := by
  constructor
  · intro hresolve
    refine ⟨fun row hrow hflag hoccurs => ?_, fun pair hpair hoccurs => ?_⟩
    · have hgated := (probes_gated row hrow).resolve_left hflag
      exact hresolve row hgated ((mem_emitted_iff hrow).mpr hoccurs)
    · obtain ⟨row, hrow, hsymbol, hgated⟩ := siblings_gated pair hpair
      rw [← hsymbol] at hoccurs
      exact hresolve _ hgated ((mem_emitted_iff hrow).mpr hoccurs)
  · rintro ⟨hdeclared, hsiblings⟩ i hi hemitted
    obtain ⟨row, hrow, hflag, hfunction, hsymbol⟩ := gated_probed i hi
    rw [← hflag, mem_emitted_iff hrow] at hemitted
    rcases hsymbol with hsymbol | hsibling
    · rw [← hsymbol]
      exact hdeclared row hrow hfunction hemitted
    · exact hsiblings _ hsibling hemitted

def Relisted (includePaths relisted : List IncludeDir) : Prop :=
  List.Forall₂ (fun dir dir' => dir.libnvmeH = dir'.libnvmeH ∧
    (dir.nvme.getD []).Perm (dir'.nvme.getD [])) includePaths relisted

theorem Relisted.refl (includePaths : List IncludeDir) : Relisted includePaths includePaths :=
  List.forall₂_same.mpr fun _ _ => ⟨rfl, List.Perm.refl _⟩

theorem Relisted.headers_perm {includePaths relisted : List IncludeDir}
    (h : Relisted includePaths relisted) : (headers includePaths).Perm (headers relisted) := by
  induction h with
  | nil => exact List.Perm.refl _
  | cons hdir _ ih =>
    rw [headers, headers, List.flatMap_cons, List.flatMap_cons]
    refine List.Perm.append ?_ ih
    rw [IncludeDir.headers, IncludeDir.headers, hdir.1]
    exact (hdir.2.flatMap_right DirEntry.headers).append_left _

def InSomeHeader (includePaths : List IncludeDir) (symbol : String) : Prop :=
  ∃ header ∈ headers includePaths, contains header symbol

theorem Relisted.inSomeHeader {includePaths relisted : List IncludeDir}
    (h : Relisted includePaths relisted) (symbol : String) :
    InSomeHeader relisted symbol ↔ InSomeHeader includePaths symbol := by
  simp only [InSomeHeader, h.headers_perm.mem_iff]

theorem emitted_eq_of_mem {includePaths relisted : List IncludeDir}
    (h : ∀ row ∈ probes, row.1 ∈ emitted relisted ↔ row.1 ∈ emitted includePaths) :
    emitted relisted = emitted includePaths := by
  refine congrArg (List.map Prod.fst) (List.filter_congr fun row hrow => decide_eq_decide.mpr ?_)
  rw [← mem_emitted hrow, ← mem_emitted hrow]
  exact h row hrow

/-- What the probing owes to a set of header files, whatever order they are listed in. -/
structure ProbesExact (includePaths : List IncludeDir) : Prop where
  exact : ∀ relisted, Relisted includePaths relisted → ∀ row ∈ probes,
    row.1 ∈ emitted relisted ↔ InSomeHeader includePaths row.2
  orderFree : ∀ relisted, Relisted includePaths relisted →
    emitted relisted = emitted includePaths
  /-- No flag comes from joined text: some file that was read contains the symbol. -/
  notJoined : ∀ relisted, Relisted includePaths relisted → ∀ row ∈ probes,
    row.1 ∈ emitted relisted → ∃ header ∈ decoded relisted, contains header row.2
  complete : ∀ header ∈ headers includePaths, ∀ text, header <:+: appendIfExists text (some header)

theorem infix_appendIfExists_iff {header : List Byte} :
    (∀ text, header <:+: appendIfExists text (some header)) ↔ isUtf8 header = true := by
  constructor
  · intro hall
    by_contra hutf8
    -- the file adds nothing, and an empty file is UTF-8
    have hnil := hall []
    rw [appendIfExists_eq, Option.toList_some, List.flatMap_singleton, decodedText, if_neg hutf8,
      List.append_nil, List.infix_nil] at hnil
    exact hutf8 (isUtf8_iff.mpr ⟨[], by rw [hnil]; rfl⟩)
  · intro hutf8 text
    rw [appendIfExists_eq, Option.toList_some, List.flatMap_singleton, decodedText, if_pos hutf8]
    exact (List.suffix_append text header).isInfix

theorem decoded_eq_headers {includePaths : List IncludeDir}
    (hutf8 : ∀ header ∈ headers includePaths, isUtf8 header = true) :
    decoded includePaths = headers includePaths :=
  List.filter_eq_self.mpr hutf8

/-- Every header has to be UTF-8, and no listing may join the headers into a symbol that
none of them contains. -/
theorem probes_exact_iff (includePaths : List IncludeDir) :
    ProbesExact includePaths ↔
      (∀ header ∈ headers includePaths, isUtf8 header = true) ∧
      ∀ relisted, Relisted includePaths relisted → ∀ row ∈ probes,
        Straddles (headers relisted) (utf8 row.2) → InSomeHeader includePaths row.2 := by
  constructor
  · intro h
    have hutf8 : ∀ header ∈ headers includePaths, isUtf8 header = true := fun header hheader =>
      infix_appendIfExists_iff.mp (h.complete header hheader)
    refine ⟨hutf8, fun relisted hrelisted row hrow hstraddles => ?_⟩
    refine (h.exact relisted hrelisted row hrow).mp ((mem_emitted_iff hrow).mpr (Or.inr ?_))
    rwa [decoded_eq_headers fun header hheader =>
      hutf8 header (hrelisted.headers_perm.mem_iff.mpr hheader)]
  · rintro ⟨hutf8, hjoins⟩
    have hread : ∀ relisted, Relisted includePaths relisted →
        decoded relisted = headers relisted := fun relisted hrelisted =>
      decoded_eq_headers fun header hheader =>
        hutf8 header (hrelisted.headers_perm.mem_iff.mpr hheader)
    have hexact : ∀ relisted, Relisted includePaths relisted → ∀ row ∈ probes,
        row.1 ∈ emitted relisted ↔ InSomeHeader includePaths row.2 := by
      intro relisted hrelisted row hrow
      rw [mem_emitted_iff hrow, Occurs, hread relisted hrelisted]
      refine ⟨?_, fun hsome => Or.inl ((hrelisted.inSomeHeader row.2).mpr hsome)⟩
      rintro (hsome | hstraddles)
      · exact (hrelisted.inSomeHeader row.2).mp hsome
      · exact hjoins relisted hrelisted row hrow hstraddles
    refine ⟨hexact, fun relisted hrelisted => ?_, fun relisted hrelisted row hrow hemitted => ?_,
      fun header hheader => infix_appendIfExists_iff.mpr (hutf8 header hheader)⟩
    · refine emitted_eq_of_mem fun row hrow => ?_
      rw [hexact relisted hrelisted row hrow, hexact includePaths (Relisted.refl _) row hrow]
    · rw [hread relisted hrelisted]
      exact (hrelisted.inSomeHeader row.2).mpr ((hexact relisted hrelisted row hrow).mp hemitted)

def listing (entries : List DirEntry) : List IncludeDir :=
  [{ libnvmeH := none, nvme := some entries }]

def latin1Header : DirEntry where
  name := utf8 "tree.h"
  contents := some (utf8 "/* K" ++ [0xF6] ++ utf8 "ln */\nvoid nvme_ctrl_set_tls_key(void);\n")

def firstHalf : DirEntry where
  name := utf8 "a.h"
  contents := some (utf8 "/* nvme_ctrl_set_")

def secondHalf : DirEntry where
  name := utf8 "b.h"
  contents := some (utf8 "keyring */")

theorem probes_inexact :
    emitted (listing [latin1Header]) = [] ∧
      InSomeHeader (listing [latin1Header]) "nvme_ctrl_set_tls_key" ∧
      ¬ProbesExact (listing [latin1Header]) ∧
      emitted (listing [firstHalf, secondHalf]) = [.hasKeyring] ∧
      emitted (listing [secondHalf, firstHalf]) = [] ∧
      ¬ProbesExact (listing [firstHalf, secondHalf]) := by
  have hhidden : emitted (listing [latin1Header]) = [] := by decide +kernel
  have hsome : InSomeHeader (listing [latin1Header]) "nvme_ctrl_set_tls_key" := by
    unfold InSomeHeader
    decide +kernel
  have hjoined : emitted (listing [firstHalf, secondHalf]) = [.hasKeyring] := by decide +kernel
  have hapart : emitted (listing [secondHalf, firstHalf]) = [] := by decide +kernel
  refine ⟨hhidden, hsome, fun h => ?_, hjoined, hapart, fun h => ?_⟩
  · have hemitted := (h.exact _ (Relisted.refl _) (.hasTlsKey, "nvme_ctrl_set_tls_key")
      (by decide +kernel)).mpr hsome
    rw [hhidden] at hemitted
    cases hemitted
  · have hswap : Relisted (listing [firstHalf, secondHalf]) (listing [secondHalf, firstHalf]) :=
      List.Forall₂.cons ⟨rfl, List.Perm.swap _ _ _⟩ List.Forall₂.nil
    have hsame := h.orderFree _ hswap
    rw [hjoined, hapart] at hsame
    cases hsame

theorem newline_notMem_probes : ∀ row ∈ probes, (0x0A : Byte) ∉ utf8 row.2 := by decide +kernel

theorem probes_exact_of_lines {includePaths : List IncludeDir}
    (htext : ∀ header ∈ headers includePaths, isUtf8 header = true)
    (hlines : ∀ header ∈ headers includePaths, ∀ b ∈ header.getLast?, b = 0x0A) :
    ProbesExact includePaths := by
  refine (probes_exact_iff includePaths).mpr ⟨htext, fun relisted hrelisted row hrow => ?_⟩
  have hclosed : ¬Straddles (headers relisted) (utf8 row.2) := by
    refine not_straddles_of_closed fun header hheader b hb hmem => ?_
    obtain rfl := hlines header (hrelisted.headers_perm.mem_iff.mpr hheader) b hb
    exact newline_notMem_probes row hrow hmem
  exact fun hstraddles => absurd hstraddles hclosed

end LibnvmeRs
