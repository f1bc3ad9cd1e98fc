import LibnvmeRs.Words

/-!
# Strings and C strings

`Str` is a string slice: bytes that decode as UTF-8. `validateUtf8` walks the
bytes one character at a time and reports, like the standard library, how far
the input was valid and how many bytes the offending sequence has; an input that
ends inside a character reports no length. A `CString` is the bytes before the
terminator, none of them zero; one that lies in memory is scanned from its first
byte up to a zero.
-/

namespace LibnvmeRs

open ByteOrder

structure Utf8Error where
  validUpTo : ℕ
  errorLen : Option ℕ
  deriving DecidableEq, Repr

def isContinuation (b : Byte) : Bool := 0x80 ≤ b && b ≤ 0xBF

def utf8CharWidth (b : Byte) : ℕ :=
  if b < 0x80 then 1
  else if 0xC2 ≤ b && b ≤ 0xDF then 2
  else if 0xE0 ≤ b && b ≤ 0xEF then 3
  else if 0xF0 ≤ b && b ≤ 0xF4 then 4
  else 0

/-- The second byte of a three-byte character; overlong forms and surrogates are out. -/
def isSecondOfThree (b₀ b₁ : Byte) : Bool :=
  (b₀ == 0xE0 && 0xA0 ≤ b₁ && b₁ ≤ 0xBF) ||
  (0xE1 ≤ b₀ && b₀ ≤ 0xEC && isContinuation b₁) ||
  (b₀ == 0xED && 0x80 ≤ b₁ && b₁ ≤ 0x9F) ||
  (0xEE ≤ b₀ && b₀ ≤ 0xEF && isContinuation b₁)

def isSecondOfFour (b₀ b₁ : Byte) : Bool :=
  (b₀ == 0xF0 && 0x90 ≤ b₁ && b₁ ≤ 0xBF) ||
  (0xF1 ≤ b₀ && b₀ ≤ 0xF3 && isContinuation b₁) ||
  (b₀ == 0xF4 && 0x80 ≤ b₁ && b₁ ≤ 0x8F)

def validateUtf8 (i : ℕ) : List Byte → Except Utf8Error Unit
  | [] => .ok ()
  | b₀ :: l₀ =>
    match utf8CharWidth b₀ with
    | 1 => validateUtf8 (i + 1) l₀
    | 2 =>
      match l₀ with
      | [] => .error ⟨i, none⟩
      | b₁ :: l₁ =>
        if isContinuation b₁ then validateUtf8 (i + 2) l₁ else .error ⟨i, some 1⟩
    | 3 =>
      match l₀ with
      | [] => .error ⟨i, none⟩
      | b₁ :: l₁ =>
        if !isSecondOfThree b₀ b₁ then .error ⟨i, some 1⟩
        else match l₁ with
          | [] => .error ⟨i, none⟩
          | b₂ :: l₂ =>
            if isContinuation b₂ then validateUtf8 (i + 3) l₂ else .error ⟨i, some 2⟩
    | 4 =>
      match l₀ with
      | [] => .error ⟨i, none⟩
      | b₁ :: l₁ =>
        if !isSecondOfFour b₀ b₁ then .error ⟨i, some 1⟩
        else match l₁ with
          | [] => .error ⟨i, none⟩
          | b₂ :: l₂ =>
            if !isContinuation b₂ then .error ⟨i, some 2⟩
            else match l₂ with
              | [] => .error ⟨i, none⟩
              | b₃ :: l₃ =>
                if isContinuation b₃ then validateUtf8 (i + 4) l₃ else .error ⟨i, some 3⟩
    | _ => .error ⟨i, some 1⟩

structure Str where
  bytes : List Byte
  valid : validateUtf8 0 bytes = .ok ()
  deriving DecidableEq

def fromUtf8 (bytes : List Byte) : Except Utf8Error Str :=
  match h : validateUtf8 0 bytes with
  | .ok () => .ok ⟨bytes, h⟩
  | .error e => .error e

theorem fromUtf8_ok_iff {bytes : List Byte} {t : Str} :
    fromUtf8 bytes = .ok t ↔ t.bytes = bytes := by
  unfold fromUtf8
  split
  next h =>
    constructor
    · intro ht
      obtain rfl := Except.ok.inj ht
      rfl
    · rintro rfl
      rfl
  next e h =>
    constructor
    · intro ht
      cases ht
    · rintro rfl
      rw [t.valid] at h
      cases h

structure CString where
  bytes : List Byte
  noNul : 0 ∉ bytes
  deriving DecidableEq

def CString.new (bytes : List Byte) : Option CString :=
  if h : 0 ∉ bytes then some ⟨bytes, h⟩ else none

theorem CString.new_eq_some {bytes : List Byte} {c : CString} :
    CString.new bytes = some c ↔ c.bytes = bytes := by
  unfold CString.new
  constructor
  · intro hc
    split_ifs at hc
    obtain rfl := Option.some.inj hc
    rfl
  · intro hc
    subst hc
    exact dif_pos c.noNul

theorem CString.new_eq_none {bytes : List Byte} : CString.new bytes = none ↔ 0 ∈ bytes := by
  simp [CString.new]

/-- `CStr::from_ptr` at an offset of an allocation; there is no result when the scan
leaves the allocation. -/
def cstrFromPtr (memory : List Byte) (ptr : ℕ) : Option (List Byte) :=
  if 0 ∈ memory.drop ptr then some ((memory.drop ptr).takeWhile (· ≠ 0)) else none

theorem takeWhile_append_of_mem {F : List Byte} (hF : 0 ∈ F) (rest : List Byte) :
    (F ++ rest).takeWhile (· ≠ 0) = F.takeWhile (· ≠ 0) := by
  induction F with
  | nil => simp at hF
  | cons b F ih =>
    rw [List.cons_append, List.takeWhile_cons, List.takeWhile_cons]
    by_cases hb : b = 0
    · simp [hb]
    · have htail : 0 ∈ F := (List.mem_cons.mp hF).resolve_left (Ne.symm hb)
      rw [ih htail]

theorem cstrFromPtr_of_mem {memory F rest : List Byte} {ptr : ℕ} (hF : 0 ∈ F)
    (hmemory : memory.drop ptr = F ++ rest) :
    cstrFromPtr memory ptr = some (F.takeWhile (· ≠ 0)) := by
  have hmem : 0 ∈ memory.drop ptr := by
    rw [hmemory]
    exact List.mem_append_left rest hF
  rw [cstrFromPtr, if_pos hmem, hmemory, takeWhile_append_of_mem hF]

theorem cstrFromPtr_of_noNul {memory b rest : List Byte} {ptr : ℕ} (hb : 0 ∉ b)
    (hmemory : memory.drop ptr = b ++ 0 :: rest) :
    cstrFromPtr memory ptr = some b := by
  have hsplit : memory.drop ptr = (b ++ [0]) ++ rest := by
    rw [hmemory, List.append_assoc, List.singleton_append]
  have hpos : ∀ x ∈ b, decide (x ≠ 0) = true := by
    intro x hx
    exact decide_eq_true fun hzero => hb (hzero ▸ hx)
  rw [cstrFromPtr_of_mem (List.mem_append_right b (List.mem_singleton_self 0)) hsplit,
    List.takeWhile_append_of_pos hpos]
  simp

end LibnvmeRs
