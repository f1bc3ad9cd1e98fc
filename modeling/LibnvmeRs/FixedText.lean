import LibnvmeRs.Disconnect
import LibnvmeRs.DiscoveryLog
import LibnvmeRs.Pages
import LibnvmeRs.Utf8
import Mathlib.Data.List.DropRight

/-!
# Padded text

A fixed field is text filled up with blanks or zeros, and a C string ends at its
first zero. Both decoders cut the padding off the end, scanning from the right, and
then decode what is left. The padding is ASCII, so the cut falls between two
characters and validity is that of the whole field.

The decoders differ only where the text has a zero of its own.
-/

namespace LibnvmeRs

open Interaction Program ByteOrder

def isPadding (b : Byte) : Bool := b == 0 || isAsciiWhitespace b

theorem rposition_lt {p : Byte → Bool} {s : List Byte} {i : ℕ} (hi : rposition p s = some i) :
    i < s.length := by
  induction s generalizing i with
  | nil => cases hi
  | cons b s ih =>
    rw [rposition] at hi
    cases hs : rposition p s with
    | some j =>
      obtain rfl : j + 1 = i := by simpa [hs] using hi
      exact Nat.succ_lt_succ (ih hs)
    | none =>
      obtain ⟨-, rfl⟩ : p b = true ∧ 0 = i := by simpa [hs] using hi
      exact Nat.succ_pos _

theorem rposition_concat (p : Byte → Bool) (s : List Byte) (b : Byte) :
    rposition p (s ++ [b]) = if p b then some s.length else rposition p s := by
  induction s with
  | nil => simp [rposition]
  | cons c s ih =>
    rw [List.cons_append, rposition, ih]
    by_cases hb : p b = true
    · simp [hb]
    · simp [hb, rposition]

theorem trimTrailingPadding_concat (s : List Byte) (b : Byte) :
    trimTrailingPadding (s ++ [b]) = if isPadding b then trimTrailingPadding s else s ++ [b] := by
  have hkeep : (b != 0 && !isAsciiWhitespace b) = !isPadding b := by
    rw [isPadding, Bool.not_or]
    rfl
  rw [trimTrailingPadding, rposition_concat, hkeep]
  cases isPadding b with
  | true =>
    -- the new byte is behind everything the scan may keep
    have hlen : (rposition (fun b => b != 0 && !isAsciiWhitespace b) s).elim 0 (· + 1) ≤
        s.length := by
      cases hs : rposition (fun b => b != 0 && !isAsciiWhitespace b) s with
      | none => exact Nat.zero_le _
      | some i => exact rposition_lt hs
    exact List.take_append_of_le_length hlen
  | false => exact List.take_of_length_le (by simp)

theorem trimTrailingPadding_eq (s : List Byte) :
    trimTrailingPadding s = s.rdropWhile isPadding := by
  induction s using List.reverseRecOn with
  | nil => rfl
  | append_singleton s b ih =>
    rw [trimTrailingPadding_concat, List.rdropWhile_concat, ih]

def EndsUnpadded (s : List Byte) : Prop := ∀ b ∈ s.getLast?, isPadding b = false

/-- The longest prefix that does not end in padding; all that is cut off is padding. -/
structure TrimsExactly (s t : List Byte) : Prop where
  split : ∃ cut, s = t ++ cut ∧ ∀ b ∈ cut, isPadding b = true
  ends : EndsUnpadded t
  longest : ∀ p, p <+: s → EndsUnpadded p → p <+: t

theorem trim_append_cut (s : List Byte) :
    ∃ cut, s = trimTrailingPadding s ++ cut ∧ ∀ b ∈ cut, isPadding b = true := by
  refine ⟨s.rtakeWhile isPadding, ?_, fun b hb => List.mem_rtakeWhile_imp hb⟩
  rw [trimTrailingPadding_eq, List.rdropWhile_append_rtakeWhile]

theorem trim_endsUnpadded (s : List Byte) : EndsUnpadded (trimTrailingPadding s) := by
  intro b hb
  rw [trimTrailingPadding_eq] at hb
  have hne : s.rdropWhile isPadding ≠ [] := by
    intro hnil
    rw [hnil] at hb
    cases hb
  rw [List.getLast?_eq_getLast_of_ne_nil hne] at hb
  obtain rfl := Option.some.inj hb
  simpa using List.rdropWhile_last_not isPadding s hne

theorem prefix_of_endsUnpadded {t cut p : List Byte} (hcut : ∀ b ∈ cut, isPadding b = true)
    (hp : p <+: t ++ cut) (hends : EndsUnpadded p) : p <+: t := by
  by_cases hlen : p.length ≤ t.length
  · exact List.prefix_of_prefix_length_le hp (List.prefix_append t cut) hlen
  · obtain ⟨q, rfl⟩ := List.prefix_of_prefix_length_le (List.prefix_append t cut) hp (by omega)
    have hne : q ≠ [] := by
      rintro rfl
      simp at hlen
    have hq : q <+: cut := (List.prefix_append_right_inj t).mp hp
    have hlast : q.getLast hne ∈ cut := hq.subset (List.getLast_mem hne)
    have hend : (t ++ q).getLast? = some (q.getLast hne) := by
      rw [List.getLast?_append_of_ne_nil t hne, List.getLast?_eq_getLast_of_ne_nil hne]
    have hpadding := hends (q.getLast hne) hend
    rw [hcut _ hlast] at hpadding
    cases hpadding

theorem trim_trimsExactly (s : List Byte) : TrimsExactly s (trimTrailingPadding s) := by
  obtain ⟨cut, hsplit, hcut⟩ := trim_append_cut s
  refine ⟨⟨cut, hsplit, hcut⟩, trim_endsUnpadded s, fun p hp hends => ?_⟩
  rw [hsplit] at hp
  exact prefix_of_endsUnpadded hcut hp hends

theorem trim_append_padding (s : List Byte) {p : List Byte} (hp : ∀ b ∈ p, isPadding b = true) :
    trimTrailingPadding (s ++ p) = trimTrailingPadding s := by
  induction p using List.reverseRecOn with
  | nil => rw [List.append_nil]
  | append_singleton p b ih =>
    have hb := hp b (List.mem_append_right p (List.mem_singleton_self b))
    rw [← List.append_assoc, trimTrailingPadding_concat, if_pos hb]
    exact ih fun c hc => hp c (List.mem_append_left [b] hc)

theorem trim_trim (s : List Byte) :
    trimTrailingPadding (trimTrailingPadding s) = trimTrailingPadding s := by
  rw [trimTrailingPadding_eq, trimTrailingPadding_eq, List.rdropWhile_idempotent]

def isPaddingChar (c : Char) : Bool := [0, 0x20, 0x09, 0x0A, 0x0C, 0x0D].contains c.toNat

theorem isPadding_iff (b : Byte) :
    isPadding b = [0, 0x20, 0x09, 0x0A, 0x0C, 0x0D].contains b.toNat := by
  rw [Bool.eq_iff_iff]
  simp only [isPadding, isAsciiWhitespace, Bool.or_eq_true, beq_iff_eq, ← BitVec.toNat_inj,
    BitVec.reduceToNat, List.contains_eq_mem, decide_eq_true_eq, List.mem_cons, List.not_mem_nil,
    or_false]
  omega

theorem isPadding_ascii {b : Byte} (hb : isPadding b = true) : b.toNat < 0x80 := by
  rw [isPadding_iff, List.contains_eq_mem, decide_eq_true_eq] at hb
  simp only [List.mem_cons, List.not_mem_nil, or_false] at hb
  omega

theorem isPaddingChar_ascii {c : Char} (hc : isPaddingChar c = true) : c.toNat < 0x80 := by
  rw [isPaddingChar, List.contains_eq_mem, decide_eq_true_eq] at hc
  simp only [List.mem_cons, List.not_mem_nil, or_false] at hc
  omega

theorem isPaddingChar_eq {c : Char} {b : Byte} (hcb : c.toNat = b.toNat) :
    isPaddingChar c = isPadding b := by
  rw [isPaddingChar, isPadding_iff, hcb]

/-- Cutting bytes is cutting characters: the last byte is padding iff the last character is. -/
theorem trim_encode (cs : List Char) :
    trimTrailingPadding (encode cs) = encode (cs.rdropWhile isPaddingChar) := by
  induction cs using List.reverseRecOn with
  | nil => rfl
  | append_singleton cs c ih =>
    have hconcat : encode (cs ++ [c]) = encode cs ++ encodeChar c := by
      rw [encode_append, encode, encode, List.flatMap_singleton]
    rw [hconcat, List.rdropWhile_concat]
    by_cases hascii : c.toNat < 0x80
    · have hbyte : (BitVec.ofNat 8 c.toNat).toNat = c.toNat := by
        rw [BitVec.toNat_ofNat]
        exact Nat.mod_eq_of_lt (by omega)
      rw [encodeChar_ascii hascii, trimTrailingPadding_concat, ← isPaddingChar_eq hbyte.symm, ih]
      split_ifs with hpadding
      · rfl
      · rw [hconcat, encodeChar_ascii hascii]
    · have hchar : ¬isPaddingChar c = true := fun h => hascii (isPaddingChar_ascii h)
      have hne : encodeChar c ≠ [] := List.ne_nil_of_length_pos (isCharSeq_encodeChar c).length_pos
      have hlast : ¬isPadding ((encodeChar c).getLast hne) = true := by
        intro hpadding
        have hle := le_of_mem_encodeChar (Nat.le_of_not_lt hascii) (List.getLast_mem hne)
        exact Nat.not_lt_of_le hle (isPadding_ascii hpadding)
      rw [if_neg hchar, hconcat, trimTrailingPadding_eq, List.rdropWhile_eq_self_iff]
      intro hnil
      rwa [List.getLast_append_of_ne_nil hnil hne]

theorem exists_encode_padding {p : List Byte} (hp : ∀ b ∈ p, isPadding b = true) :
    ∃ cs, p = encode cs := by
  induction p with
  | nil => exact ⟨[], rfl⟩
  | cons b p ih =>
    obtain ⟨cs, rfl⟩ := ih fun c hc => hp c (List.mem_cons_of_mem b hc)
    obtain ⟨c, hc, -⟩ := exists_ascii (isPadding_ascii (hp b List.mem_cons_self))
    have hcons : encode (c :: cs) = encodeChar c ++ encode cs := List.flatMap_cons
    exact ⟨c :: cs, by rw [hcons, hc, List.singleton_append]⟩

theorem exists_encode_trim_iff (s : List Byte) :
    (∃ cs, trimTrailingPadding s = encode cs) ↔ ∃ cs, s = encode cs := by
  constructor
  · rintro ⟨cs, hcs⟩
    obtain ⟨cut, hsplit, hcut⟩ := trim_append_cut s
    obtain ⟨ds, rfl⟩ := exists_encode_padding hcut
    exact ⟨cs ++ ds, by rw [encode_append, ← hcs, ← hsplit]⟩
  · rintro ⟨cs, rfl⟩
    exact ⟨_, trim_encode cs⟩

theorem utf8OrError_ok_iff {bytes : List Byte} {t : Str} :
    utf8OrError bytes = .ok t ↔ t.bytes = bytes := by
  rw [← fromUtf8_ok_iff, utf8OrError]
  cases fromUtf8 bytes <;> simp [Except.mapError]

theorem exists_utf8OrError_ok {bytes : List Byte} :
    (∃ t, utf8OrError bytes = .ok t) ↔ ∃ cs, bytes = encode cs := by
  rw [← validateUtf8_iff (i := 0)]
  constructor
  · rintro ⟨t, ht⟩
    rw [← utf8OrError_ok_iff.mp ht]
    exact t.valid
  · intro hvalid
    exact ⟨⟨bytes, hvalid⟩, utf8OrError_ok_iff.mpr rfl⟩

theorem fixedAsciiToStr_ok_iff {field : List Byte} {t : Str} :
    fixedAsciiToStr field = .ok t ↔ t.bytes = trimTrailingPadding field := utf8OrError_ok_iff

/-- Trimming is exact, and a field decodes iff all of it is text: then to its text
without the padding characters at the end. -/
theorem fixed_ascii_trimmed :
    (∀ s, TrimsExactly s (trimTrailingPadding s) ∧
      trimTrailingPadding (trimTrailingPadding s) = trimTrailingPadding s) ∧
    (∀ field, (∃ t, fixedAsciiToStr field = .ok t) ↔ ∃ cs, field = encode cs) ∧
    ∀ cs, ∃ t, fixedAsciiToStr (encode cs) = .ok t ∧
      t.bytes = encode (cs.rdropWhile isPaddingChar) := by
  refine ⟨fun s => ⟨trim_trimsExactly s, trim_trim s⟩, fun field => ?_, fun cs => ?_⟩
  · rw [← exists_encode_trim_iff]
    exact exists_utf8OrError_ok
  · obtain ⟨t, ht⟩ := exists_utf8OrError_ok.mpr ⟨_, trim_encode cs⟩
    exact ⟨t, ht, (utf8OrError_ok_iff.mp ht).trans (trim_encode cs)⟩

section Agreement
variable {memory b p field rest : List Byte} {ptr : ℕ}

theorem noNul_of_cstrFromPtr {c : List Byte} (hc : cstrFromPtr memory ptr = some c) : 0 ∉ c := by
  unfold cstrFromPtr at hc
  split at hc
  · obtain rfl := Option.some.inj hc
    intro hmem
    simpa using List.mem_takeWhile_imp hmem
  · cases hc

theorem exists_nul_split (s rest : List Byte) :
    ∃ rest', s ++ 0 :: rest = s.takeWhile (· ≠ 0) ++ 0 :: rest' := by
  induction s with
  | nil => exact ⟨rest, rfl⟩
  | cons x s ih =>
    by_cases hx : x = 0
    · rw [hx, List.takeWhile_cons_of_neg (by simp)]
      exact ⟨s ++ 0 :: rest, rfl⟩
    · obtain ⟨rest', hrest⟩ := ih
      rw [List.takeWhile_cons_of_pos (by simpa using hx), List.cons_append, hrest]
      exact ⟨rest', rfl⟩

theorem cstrToStr_padded (hb : 0 ∉ b) (hp : ∀ x ∈ p, isPadding x = true)
    (hmemory : memory.drop ptr = b ++ p.takeWhile (· ≠ 0) ++ 0 :: rest) :
    cstrToStr memory (some ptr) = some (fixedAsciiToStr (b ++ p)) := by
  have hblank : ∀ x ∈ p.takeWhile (· ≠ 0), isPadding x = true :=
    fun x hx => hp x ((List.takeWhile_prefix _).subset hx)
  have hnoNul : 0 ∉ b ++ p.takeWhile (· ≠ 0) := by
    intro hmem
    rcases List.mem_append.mp hmem with h | h
    · exact hb h
    · simpa using List.mem_takeWhile_imp h
  rw [cstrToStr, cstrFromPtr_of_noNul hnoNul hmemory, Option.map_some, fixedAsciiToStr,
    trim_append_padding b hblank, trim_append_padding b hp]

theorem cstrToStr_field_iff {t : Str} (ht : fixedAsciiToStr field = .ok t)
    (hmemory : memory.drop ptr = field ++ 0 :: rest) :
    cstrToStr memory (some ptr) = some (.ok t) ↔ 0 ∉ t.bytes := by
  have hbytes := fixedAsciiToStr_ok_iff.mp ht
  constructor
  · intro hcstr
    rw [cstrToStr] at hcstr
    obtain ⟨c, hc, htext⟩ := Option.map_eq_some_iff.mp hcstr
    -- the text is a prefix of a C string
    rw [utf8OrError_ok_iff.mp htext]
    obtain ⟨cut, hsplit, -⟩ := trim_append_cut c
    intro hmem
    exact noNul_of_cstrFromPtr hc (hsplit ▸ List.mem_append_left cut hmem)
  · intro hnoNul
    obtain ⟨cut, hsplit, hcut⟩ := trim_append_cut field
    rw [← hbytes] at hsplit
    obtain ⟨rest', hrest⟩ := exists_nul_split cut rest
    rw [hsplit] at hmemory ht
    rw [List.append_assoc, hrest, ← List.append_assoc] at hmemory
    rw [cstrToStr_padded hnoNul hcut hmemory, ht]

end Agreement

inductive IdentityString where
  | model
  | serial
  | firmware
  deriving DecidableEq, Repr

namespace IdentityString

def getter : IdentityString → CtrlGetter
  | .model => .model
  | .serial => .serial
  | .firmware => .firmware

def fromTree (c : Controller) : IdentityString → Ffi Str
  | .model => c.model
  | .serial => c.serial
  | .firmware => c.firmware

def field (page : IdentifyController) : IdentityString → List Byte
  | .model => page.inner.mn.toList
  | .serial => page.inner.sn.toList
  | .firmware => page.inner.fr.toList

def fromPage (page : IdentifyController) : IdentityString → Except Error Str
  | .model => page.modelNumber
  | .serial => page.serialNumber
  | .firmware => page.firmwareRevision

theorem fromPage_eq (f : IdentityString) (page : IdentifyController) :
    f.fromPage page = fixedAsciiToStr (f.field page) := by
  cases f <;> rfl

theorem fromTree_run (f : IdentityString) (c : Controller) {σ : Type} (h : Handler Call Answer σ)
    (s : σ) {cstr : CString} (hcstr : (h (.nvmeCtrlGetString f.getter c) s).1 = some cstr) :
    ((f.fromTree c).run h s).exit = .ofExcept (utf8OrError (trimTrailingPadding cstr.bytes)) := by
  have hstring : f.fromTree c = c.string f.getter := by
    cases f <;> rfl
  rw [hstring, Controller.string, ask_bind, run_call, hcstr]
  dsimp only
  cases utf8OrError (trimTrailingPadding cstr.bytes) <;> rfl

theorem fromTree_eq_fromPage (f : IdentityString) (c : Controller) (page : IdentifyController)
    {σ : Type} (h : Handler Call Answer σ) (s : σ) {b p : List Byte} {cstr : CString}
    (hp : ∀ x ∈ p, isPadding x = true) (hpage : f.field page = b ++ p)
    (hcstr : (h (.nvmeCtrlGetString f.getter c) s).1 = some cstr)
    (htree : cstr.bytes = b ++ p.takeWhile (· ≠ 0)) :
    ((f.fromTree c).run h s).exit = .ofExcept (f.fromPage page) := by
  have hblank : ∀ x ∈ p.takeWhile (· ≠ 0), isPadding x = true :=
    fun x hx => hp x ((List.takeWhile_prefix _).subset hx)
  rw [f.fromTree_run c h s hcstr, f.fromPage_eq, fixedAsciiToStr, htree, hpage,
    trim_append_padding b hblank, trim_append_padding b hp]

end IdentityString

/-- Where both decoders apply they agree, and so do the strings of a controller and of
its Identify page; on a field with a zero behind it they agree unless its text holds one. -/
theorem string_decoders_agree :
    (∀ b p : List Byte, 0 ∉ b → (∀ x ∈ p, isPadding x = true) → ∀ memory ptr rest,
      memory.drop ptr = b ++ p.takeWhile (· ≠ 0) ++ 0 :: rest →
        cstrToStr memory (some ptr) = some (fixedAsciiToStr (b ++ p))) ∧
    (∀ (field : List Byte) (t : Str), fixedAsciiToStr field = .ok t → ∀ memory ptr rest,
      memory.drop ptr = field ++ 0 :: rest →
        (cstrToStr memory (some ptr) = some (.ok t) ↔ 0 ∉ t.bytes)) ∧
    ∀ (f : IdentityString) (c : Controller) (page : IdentifyController) (σ : Type)
      (h : Handler Call Answer σ) (s : σ) (b p : List Byte) (cstr : CString),
      (∀ x ∈ p, isPadding x = true) → f.field page = b ++ p →
        (h (.nvmeCtrlGetString f.getter c) s).1 = some cstr →
        cstr.bytes = b ++ p.takeWhile (· ≠ 0) →
        ((f.fromTree c).run h s).exit = .ofExcept (f.fromPage page) :=
  ⟨fun _ _ hb hp _ _ _ hmemory => cstrToStr_padded hb hp hmemory,
    fun _ _ ht _ _ _ hmemory => cstrToStr_field_iff ht hmemory,
    fun f c page _ h s _ _ _ hp hpage hcstr htree =>
      f.fromTree_eq_fromPage c page h s hp hpage hcstr htree⟩

def revisionOne : IdentifyController :=
  ⟨{ sn := .replicate 20 0x20, mn := .replicate 40 0x20, fr := #v[0x31, 0x20, 0, 0, 0, 0, 0, 0]
     elpe := 0 }⟩

def answersOne : Handler Call Answer Unit := fun c s =>
  (match c with
    | .nvmeCtrlGetString .. => some ⟨[0x31, 0x20], by decide⟩
    | c => c.reply.zero, s)

theorem string_decoders_agree_ab :
    cstrToStr [0x61, 0x62, 0x20, 0] (some 0) = some (fixedAsciiToStr [0x61, 0x62, 0x20, 0]) ∧
      (cstrToStr [0x61, 0, 0x62, 0x20, 0] (some 0) = some (.ok ⟨[0x61, 0, 0x62], rfl⟩) ↔
        0 ∉ ([0x61, 0, 0x62] : List Byte)) ∧
      ((Controller.firmware 0).run answersOne ()).exit =
        .ofExcept revisionOne.firmwareRevision :=
  ⟨string_decoders_agree.1 [0x61, 0x62] [0x20, 0] (by decide) (by decide) _ 0 [] (by decide),
    string_decoders_agree.2.1 [0x61, 0, 0x62, 0x20] ⟨[0x61, 0, 0x62], rfl⟩ rfl _ 0 [] rfl,
    string_decoders_agree.2.2 .firmware 0 revisionOne Unit answersOne () [0x31]
      [0x20, 0, 0, 0, 0, 0, 0] _ (by decide) (by decide) rfl (by decide)⟩

end LibnvmeRs
