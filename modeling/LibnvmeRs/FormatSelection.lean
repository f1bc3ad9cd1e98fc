import LibnvmeRs.Pages

/-!
# The format a Format NVM command selects

The Identify Namespace page names 64 formats by one index. The command carries
the index in two fields, the low four bits in `lbaf` and the high two in `lbafu`,
and libnvme masks each field. The builder has one setter for each field and sends
both as they were given.
-/

namespace LibnvmeRs

open Interaction Program ByteOrder SetterCalls

inductive FormatSetter where
  | lbaFormat (index : U8)
  | lbaFormatUpper (upper : U8)
  | secureErase (mode : SecureErase)
  | protectionInfo (pi : ProtectionInfo)
  | protectionLocation (location : ProtectionLocation)
  | metadata (settings : MetadataSettings)
  | timeoutMs (ms : U32)

namespace FormatSetter

def lbaFormat? : FormatSetter → Option U8
  | .lbaFormat index => some index
  | _ => none

def lbaFormatUpper? : FormatSetter → Option U8
  | .lbaFormatUpper upper => some upper
  | _ => none

def Other (c : FormatSetter) : Prop := c.lbaFormat? = none ∧ c.lbaFormatUpper? = none

theorem lastSome_other {f : FormatSetter → Option U8} {l : List FormatSetter}
    (hl : ∀ c ∈ l, f c = none) : lastSome f l = none := by
  induction l with
  | nil => rfl
  | cons c l ih =>
    have htail : lastSome f l = none := ih fun c hc => hl c (List.mem_cons_of_mem _ hc)
    rw [lastSome, htail, hl c List.mem_cons_self, Option.or_none]

end FormatSetter

namespace Format

def new (ns : Namespace) : Format := { ns := ns }

def set (b : Format) : FormatSetter → Format
  | .lbaFormat index => { b with lbaFormat := index }
  | .lbaFormatUpper upper => { b with lbaFormatUpper := upper }
  | .secureErase mode => { b with secureErase := mode }
  | .protectionInfo pi => { b with protectionInfo := pi }
  | .protectionLocation location => { b with protectionLocation := location }
  | .metadata settings => { b with metadata := settings }
  | .timeoutMs ms => { b with timeoutMs := ms }

def sets (b : Format) (calls : List FormatSetter) : Format := calls.foldl set b

end Format

def nvmeFormatCdw10LbafMask : ℕ := 0xf

def nvmeFormatCdw10LbafuMask : ℕ := 0x3

def NvmeFormatNvmArgs.told (args : NvmeFormatNvmArgs) : ℕ :=
  ((args.lbafu.toNat &&& nvmeFormatCdw10LbafuMask) <<< 4) |||
    (args.lbaf.toNat &&& nvmeFormatCdw10LbafMask)

/-- Both members fit their fields and together name the format. -/
structure NvmeFormatNvmArgs.Selects (args : NvmeFormatNvmArgs) (index : ℕ) : Prop where
  lbaf_le : args.lbaf.toNat ≤ nvmeFormatCdw10LbafMask
  lbafu_le : args.lbafu.toNat ≤ nvmeFormatCdw10LbafuMask
  index_eq : (args.lbafu.toNat <<< 4) ||| args.lbaf.toNat = index

theorem NvmeFormatNvmArgs.Selects.told_eq {args : NvmeFormatNvmArgs} {index : ℕ}
    (h : args.Selects index) : args.told = index := by
  have hlbaf : args.lbaf.toNat &&& nvmeFormatCdw10LbafMask = args.lbaf.toNat :=
    Nat.and_two_pow_sub_one_of_lt_two_pow (n := 4) (Nat.lt_succ_of_le h.lbaf_le)
  have hlbafu : args.lbafu.toNat &&& nvmeFormatCdw10LbafuMask = args.lbafu.toNat :=
    Nat.and_two_pow_sub_one_of_lt_two_pow (n := 2) (Nat.lt_succ_of_le h.lbafu_le)
  rw [told, hlbaf, hlbafu, h.index_eq]

def Format.Selects (b : Format) (index : ℕ) : Prop :=
  b.execute.OnlyCalls fun c => ∀ args, c = .nvmeFormatNvm args →
    args.Selects index ∧ args.told = index

theorem Format.onlyFormats_iff {b : Format} {P : NvmeFormatNvmArgs → Prop} :
    (b.execute.OnlyCalls fun c => ∀ args, c = .nvmeFormatNvm args → P args) ↔
      ∀ fd : I32, fd.slt 0 = false → P (b.args fd) := by
  rw [← onlyCalls_discard, Format.execute_discard, Format.request, request_onlyCalls]
  simp

theorem Format.selects_iff (b : Format) (index : ℕ) :
    b.Selects index ↔ b.lbaFormat.toNat < 16 ∧ b.lbaFormatUpper.toNat < 4 ∧
      (b.lbaFormatUpper.toNat <<< 4) ||| b.lbaFormat.toNat = index := by
  rw [Format.Selects, onlyFormats_iff]
  constructor
  · intro h
    obtain ⟨⟨hlbaf, hlbafu, hindex⟩, -⟩ := h 0 rfl
    exact ⟨Nat.lt_succ_of_le hlbaf, Nat.lt_succ_of_le hlbafu, hindex⟩
  · rintro ⟨hlbaf, hlbafu, hindex⟩ fd -
    have hselects : (b.args fd).Selects index :=
      ⟨Nat.le_of_lt_succ hlbaf, Nat.le_of_lt_succ hlbafu, hindex⟩
    exact ⟨hselects, hselects.told_eq⟩

def lastIndex (calls : List FormatSetter) : U8 := (lastSome FormatSetter.lbaFormat? calls).getD 0

def lastUpper (calls : List FormatSetter) : U8 :=
  (lastSome FormatSetter.lbaFormatUpper? calls).getD 0

def chosenIndex (calls : List FormatSetter) : ℕ :=
  ((lastUpper calls).toNat <<< 4) ||| (lastIndex calls).toNat

theorem Format.sets_lbaFormat (ns : Namespace) (calls : List FormatSetter) :
    ((Format.new ns).sets calls).lbaFormat = lastIndex calls :=
  foldl_register Format.lbaFormat (fun b c => by cases c <;> rfl) calls (Format.new ns)

theorem Format.sets_lbaFormatUpper (ns : Namespace) (calls : List FormatSetter) :
    ((Format.new ns).sets calls).lbaFormatUpper = lastUpper calls :=
  foldl_register Format.lbaFormatUpper (fun b c => by cases c <;> rfl) calls (Format.new ns)

theorem lastIndex_single {pre post : List FormatSetter} (i : U8) (hpost : ∀ c ∈ post, c.Other) :
    lastIndex (pre ++ .lbaFormat i :: post) = i := by
  have hnone :=
    FormatSetter.lastSome_other (f := FormatSetter.lbaFormat?) fun c hc => (hpost c hc).1
  rw [lastIndex, lastSome_append, lastSome, hnone]
  rfl

theorem lastUpper_single {pre post : List FormatSetter} (i : U8) (hpre : ∀ c ∈ pre, c.Other)
    (hpost : ∀ c ∈ post, c.Other) : lastUpper (pre ++ .lbaFormat i :: post) = 0 := by
  have hnone {l : List FormatSetter} (hl : ∀ c ∈ l, c.Other) :
      lastSome FormatSetter.lbaFormatUpper? l = none :=
    FormatSetter.lastSome_other fun c hc => (hl c hc).2
  rw [lastUpper, lastSome_append, lastSome, hnone hpre, hnone hpost]
  rfl

theorem Format.sets_selects_iff (ns : Namespace) (calls : List FormatSetter) :
    ((Format.new ns).sets calls).Selects (chosenIndex calls) ↔
      (lastIndex calls).toNat < 16 ∧ (lastUpper calls).toNat < 4 := by
  rw [Format.selects_iff, Format.sets_lbaFormat, Format.sets_lbaFormatUpper, chosenIndex]
  simp

theorem Format.single_selects_iff (ns : Namespace) {pre post : List FormatSetter} (i : U8)
    (hpre : ∀ c ∈ pre, c.Other) (hpost : ∀ c ∈ post, c.Other) :
    ((Format.new ns).sets (pre ++ .lbaFormat i :: post)).Selects i.toNat ↔ i.toNat < 16 := by
  have hindex : lastIndex (pre ++ .lbaFormat i :: post) = i := lastIndex_single i hpost
  have hupper := lastUpper_single i hpre hpost
  have hchosen : chosenIndex (pre ++ .lbaFormat i :: post) = i.toNat := by
    rw [chosenIndex, hindex, hupper]
    exact Nat.zero_or i.toNat
  have hiff := Format.sets_selects_iff ns (pre ++ .lbaFormat i :: post)
  rw [hchosen, hindex, hupper] at hiff
  rw [hiff]
  exact and_iff_left (by decide)

theorem format_selects_chosen_iff (ns : Namespace) :
    (∀ calls, ((Format.new ns).sets calls).Selects (chosenIndex calls) ↔
      (lastIndex calls).toNat < 16 ∧ (lastUpper calls).toNat < 4) ∧
    ∀ (b : Build) (e : Endian) (page : IdentifyNamespace) (i : U8),
      (∃ f, page.lbaFormat b e i = .ok (some f)) →
        ∀ pre post, (∀ c ∈ pre, c.Other) → (∀ c ∈ post, c.Other) →
          (((Format.new ns).sets (pre ++ .lbaFormat i :: post)).Selects i.toNat ↔ i.toNat < 16) :=
  ⟨Format.sets_selects_iff ns, fun _ _ _ i _ _ _ hpre hpost =>
    Format.single_selects_iff ns i hpre hpost⟩

theorem format_sixteen_selects_zero :
    let b := (Format.new blockNs).sets [.lbaFormat 16]
    wideTable.lbaFormat .debug .little 16 = .ok (some ⟨0, 4096, 0⟩) ∧
      (b.args 3).lbaf = 16 ∧ (b.args 3).told = 0 ∧ ¬b.Selects 16 := by
  refine ⟨by decide +kernel, rfl, rfl, fun h => ?_⟩
  have hlbaf := ((Format.selects_iff _ _).mp h).1
  exact absurd hlbaf (by decide)

end LibnvmeRs
