import LibnvmeRs.Strings

/-!
# Errors and string conversion

The error type of the crate, the classification of libnvme's return codes, and
the conversions between host strings and the strings of the interface.
-/

namespace LibnvmeRs

open ByteOrder

inductive IoErrorKind where
  | invalidInput
  deriving DecidableEq, Repr

inductive IoError where
  | raw (errno : I32)
  | custom (kind : IoErrorKind) (message : String)
  deriving DecidableEq, Repr

inductive Error where
  | os (e : IoError)
  | nvme (status : U32)
  | notAvailable
  | utf8 (e : Utf8Error)
  | invalidArgument (message : String)
  deriving DecidableEq, Repr

/-- A `c_int` result together with the thread's `errno` right after the call. -/
structure CRet where
  ret : I32
  errno : I32
  deriving DecidableEq, Repr, Inhabited

def CRet.lastOsError (r : CRet) : IoError := .raw r.errno

def checkRet (r : CRet) : Except Error Unit :=
  if r.ret = 0 then .ok ()
  else if r.ret.slt 0 then
    .error (.os (if r.ret = -1 then r.lastOsError else .raw (-r.ret)))
  else .error (.nvme r.ret)

theorem checkRet_eq_ok {r : CRet} : checkRet r = .ok () ↔ r.ret = 0 := by
  unfold checkRet
  split_ifs with hzero
  · exact iff_of_true rfl hzero
  · exact iff_of_false (by simp) hzero
  · exact iff_of_false (by simp) hzero

theorem checkRet_error {r : CRet} {e : Error} (he : checkRet r = .error e) :
    (r.ret.slt 0 = true ∧ ∃ i, e = .os i) ∨ ∃ status, e = .nvme status := by
  unfold checkRet at he
  split at he
  · cases he
  · split at he
    · rename_i hneg
      exact Or.inl ⟨hneg, _, (Except.error.inj he).symm⟩
    · exact Or.inr ⟨_, (Except.error.inj he).symm⟩

/-- The step succeeds exactly when `P` holds and reports a failure as `InvalidArgument`. -/
def Decides {α : Type} (x : Except Error α) (P : Prop) : Prop :=
  (P ∧ ∃ a, x = .ok a) ∨ (¬P ∧ ∃ m, x = .error (.invalidArgument m))

namespace Decides
variable {α β : Type} {x : Except Error α} {P Q : Prop}

theorem ok_iff {x : Except Error Unit} (hx : Decides x P) : x = .ok () ↔ P := by
  rcases hx with ⟨hp, a, rfl⟩ | ⟨hp, m, rfl⟩ <;> simp [hp]

theorem of_iff (hx : Decides x P) (hpq : P ↔ Q) : Decides x Q := by
  rwa [← propext hpq]

theorem of_ok (hx : Decides x P) {a : α} (ha : x = .ok a) : P := by
  rcases hx with ⟨hp, -⟩ | ⟨-, m, hm⟩
  · exact hp
  · cases ha.symm.trans hm

theorem of_error (hx : Decides x P) {e : Error} (he : x = .error e) :
    ¬P ∧ ∃ m, e = .invalidArgument m := by
  rcases hx with ⟨-, a, ha⟩ | ⟨hp, m, hm⟩
  · cases he.symm.trans ha
  · exact ⟨hp, m, Except.error.inj (he.symm.trans hm)⟩

theorem exists_error (hx : Decides x P) (hp : ¬P) : ∃ m, x = .error (.invalidArgument m) := by
  rcases hx with ⟨h, -⟩ | ⟨-, hm⟩
  · exact (hp h).elim
  · exact hm

theorem pass {a : α} : Decides (.ok a) True := Or.inl ⟨trivial, a, rfl⟩

theorem refuse (m : String) : Decides (.error (.invalidArgument m) : Except Error α) False :=
  Or.inr ⟨not_false, m, rfl⟩

theorem ite {c : Prop} [Decidable c] (m : String) (hx : Decides x P) :
    Decides (if c then .error (.invalidArgument m) else x) (¬c ∧ P) := by
  by_cases hc : c
  · rw [if_pos hc]
    exact (refuse m).of_iff (by simp [hc])
  · rw [if_neg hc]
    exact hx.of_iff (by simp [hc])

theorem bind {f : α → Except Error β} (hx : Decides x P) (hf : ∀ a, Decides (f a) Q) :
    Decides (x >>= f) (P ∧ Q) := by
  rcases hx with ⟨hp, a, rfl⟩ | ⟨hp, m, rfl⟩
  · exact (hf a).of_iff (by simp [hp])
  · exact Or.inr ⟨fun h => hp h.1, m, rfl⟩

theorem map {f : α → β} (hx : Decides x P) : Decides (f <$> x) P := by
  rcases hx with ⟨hp, a, rfl⟩ | ⟨hp, m, rfl⟩
  · exact Or.inl ⟨hp, f a, rfl⟩
  · exact Or.inr ⟨hp, m, rfl⟩

end Decides

def isAsciiWhitespace (b : Byte) : Bool :=
  b == 0x20 || b == 0x09 || b == 0x0A || b == 0x0C || b == 0x0D

def rposition (p : Byte → Bool) : List Byte → Option ℕ
  | [] => none
  | b :: s =>
    match rposition p s with
    | some i => some (i + 1)
    | none => if p b then some 0 else none

def trimTrailingPadding (s : List Byte) : List Byte :=
  s.take ((rposition (fun b => b != 0 && !isAsciiWhitespace b) s).elim 0 (· + 1))

def utf8OrError (bytes : List Byte) : Except Error Str := (fromUtf8 bytes).mapError .utf8

def fixedAsciiToStr (bytes : List Byte) : Except Error Str :=
  utf8OrError (trimTrailingPadding bytes)

def strToCString (s : Str) (errMsg : String) : Except Error CString :=
  match CString.new s.bytes with
  | some c => .ok c
  | none => .error (.invalidArgument errMsg)

theorem utf8OrError_error {bytes : List Byte} {e : Error}
    (he : utf8OrError bytes = .error e) : ∃ u, e = .utf8 u := by
  unfold utf8OrError at he
  cases hb : fromUtf8 bytes with
  | ok s => simp [hb, Except.mapError] at he
  | error u => exact ⟨u, by simpa [hb, Except.mapError] using he.symm⟩

theorem strToCString_decides (s : Str) (errMsg : String) :
    Decides (strToCString s errMsg) (0 ∉ s.bytes) := by
  unfold strToCString
  cases hs : CString.new s.bytes with
  | none => exact (Decides.refuse errMsg).of_iff (by simpa using CString.new_eq_none.mp hs)
  | some c =>
    refine Decides.pass.of_iff (iff_of_true trivial fun hnul => ?_)
    rw [CString.new_eq_none.mpr hnul] at hs
    cases hs

end LibnvmeRs
