import LibnvmeRs.ConnectConfig

/-!
# The strings Connect passes on

`nvme_create_ctrl` takes six strings as bare pointers, told apart by their position
alone, and reads each to its terminator. Connect converts the caller's strings in an
order of its own and passes them in the order of the prototype. A string with a zero
of its own has no C string and stops Connect before it calls anything.
-/

namespace LibnvmeRs

open Interaction Program ByteOrder SetterCalls

def CString.memory (c : CString) : List Byte := c.bytes ++ [0]

/-- NULL is `none`; any other pointer is the memory it points to. -/
def cstrPtrOrNull (o : Option CString) : Option (List Byte) := o.map CString.memory

/-- What is found at a pointer, up to the terminator. -/
def received (ptr : Option (List Byte)) : Option (Option (List Byte)) :=
  ptr.map fun memory => cstrFromPtr memory 0

theorem cstrFromPtr_memory (c : CString) : cstrFromPtr c.memory 0 = some c.bytes :=
  cstrFromPtr_of_noNul c.noNul rfl

theorem received_ptr {o : Option CString} {s : Option Str}
    (hbytes : o.map CString.bytes = s.map Str.bytes) :
    received (cstrPtrOrNull o) = s.map fun s => some s.bytes := by
  have hread : received (cstrPtrOrNull o) = (o.map CString.bytes).map some := by
    cases o with
    | none => rfl
    | some c => exact congrArg some (cstrFromPtr_memory c)
  rw [hread, hbytes, Option.map_map]
  rfl

/-- The pointers in the order of the prototype in `tree.h`, behind the root. -/
def NvmeCreateCtrl.pointers (args : NvmeCreateCtrl) : List (Option (List Byte)) := [
  cstrPtrOrNull (some args.subsysnqn),
  cstrPtrOrNull (some args.transport),
  cstrPtrOrNull args.traddr,
  cstrPtrOrNull args.hostTraddr,
  cstrPtrOrNull args.hostIface,
  cstrPtrOrNull args.trsvcid]

namespace Connect

def strings (b : Connect) : List (Option Str) :=
  [some b.subsysnqn, some b.transport, b.traddr, b.hostTraddr, b.hostIface, b.trsvcid]

def given (transport : Transport) (subsysnqn : Str) (l : List ConnectSetter) :
    List (Option Str) := [
  some subsysnqn,
  some transport.asStr,
  lastSome ConnectSetter.traddr? l,
  lastSome ConnectSetter.hostTraddr? l,
  lastSome ConnectSetter.hostIface? l,
  lastSome ConnectSetter.trsvcid? l]

def NulFree (strings : List (Option Str)) : Prop := ∀ o ∈ strings, ∀ s ∈ o, 0 ∉ s.bytes

theorem strings_sets (host : Host) (transport : Transport) (subsysnqn : Str)
    (l : List ConnectSetter) :
    ((new host transport subsysnqn).sets l).strings = given transport subsysnqn l := by
  rw [sets_eq]
  simp only [strings, given, after, new, Option.or_none]

theorem noNul_iff (b : Connect) : b.NoNul ↔ NulFree b.strings := by
  simp only [NoNul, NulFree, strings, List.forall_mem_cons, Option.mem_some_iff, forall_eq']
  tauto

theorem Converts.received_pointers {b : Connect} {args : NvmeCreateCtrl} (h : b.Converts args) :
    args.pointers.map received = b.strings.map (Option.map fun s => some s.bytes) := by
  have hsubsysnqn : (some args.subsysnqn).map CString.bytes = (some b.subsysnqn).map Str.bytes :=
    congrArg some h.subsysnqn
  have htransport : (some args.transport).map CString.bytes = (some b.transport).map Str.bytes :=
    congrArg some h.transport
  simp only [NvmeCreateCtrl.pointers, strings, List.map_cons, List.map_nil,
    received_ptr hsubsysnqn, received_ptr htransport, received_ptr h.traddr,
    received_ptr h.hostTraddr, received_ptr h.hostIface, received_ptr h.trsvcid]

end Connect

def created? : Call → Option NvmeCreateCtrl
  | .nvmeCreateCtrl args => some args
  | _ => none

def created (trace : List (Event Call Answer)) : List NvmeCreateCtrl :=
  trace.filterMap fun ev => created? ev.1

namespace Connect
variable (t : Target) (b : Connect)

theorem addCtrl_creates (args : NvmeCreateCtrl) (ctrl : NvmeCtrl) :
    (b.addCtrl t args ctrl).Ensures fun trace _ => created trace = [] := by
  exact addCtrl_ensures (fun _ _ _ h => h) (fun _ _ _ h => h) (fun _ _ _ h => h)
    fun _ _ _ _ => rfl

theorem execute_creates :
    (b.execute t).Ensures fun trace x =>
      (∃ args, b.createArgs = .ok args ∧ created trace = [args]) ∨
        (∃ m, b.createArgs = .error (.invalidArgument m) ∧ trace = [] ∧
          x = .error (.invalidArgument m)) := by
  refine execute_ensures ?_ ?_ ?_
  · intro e he
    obtain ⟨-, m, rfl⟩ := b.createArgs_decides.of_error he
    exact Or.inr ⟨m, he, rfl, rfl⟩
  · intro args r hargs _
    exact Or.inl ⟨args, hargs, rfl⟩
  · intro args r ctrl hargs _
    refine (b.addCtrl_creates t args ctrl).mono fun trace _ htrace => Or.inl ⟨args, hargs, ?_⟩
    exact congrArg (args :: ·) htrace

/-- The strings of a configuration that is passed on are those the controller was
created with, or the default's where the caller gave none. -/
theorem execute_config {σ : Type} (h : Handler Call Answer σ) (s : σ) {args : NvmeCreateCtrl}
    (hargs : b.createArgs = .ok args) :
    ∀ ev ∈ ((b.execute t).run h s).trace, ∀ cfg ∈ addedConfig? ev.1,
      ∃ ev' ∈ ((b.execute t).run h s).trace, ∃ d ∈ defaultConfig? ev',
        cfg.hostTraddr = args.hostTraddr.or d.hostTraddr ∧
          cfg.hostIface = args.hostIface.or d.hostIface := by
  intro ev hev cfg hcfg
  obtain ⟨args', hargs', ev', hev', d, hd, rfl⟩ :=
    (b.execute_addsConfigured t).run h s ev hev cfg hcfg
  obtain rfl : args = args' := Except.ok.inj (hargs.symm.trans hargs')
  exact ⟨ev', hev', d, hd, rfl, rfl⟩

theorem execute_refused (hnul : ¬b.NoNul) : Refused (b.execute t) := by
  intro σ h s
  rcases (b.execute_creates t).run h s with ⟨args, hargs, -⟩ | ⟨m, -, htrace, hexit⟩
  · exact (hnul (b.createArgs_decides.of_ok hargs)).elim
  · refine ⟨?_, m, hexit⟩
    rw [Outcome.calls, htrace]
    rfl

theorem execute_created (hnul : b.NoNul) {σ : Type} (h : Handler Call Answer σ) (s : σ) :
    ∃ args, b.createArgs = .ok args ∧ created ((b.execute t).run h s).trace = [args] := by
  rcases (b.execute_creates t).run h s with hcreated | ⟨m, hm, -⟩
  · exact hcreated
  · exact ((b.createArgs_decides.of_error hm).1 hnul).elim

end Connect

theorem connect_strings_intact (t : Target) (host : Host) (transport : Transport)
    (subsysnqn : Str) (calls : List ConnectSetter) :
    let b := (Connect.new host transport subsysnqn).sets calls
    let given := Connect.given transport subsysnqn calls
    (¬Connect.NulFree given → Refused (b.execute t)) ∧
    ∀ (σ : Type) (h : Handler Call Answer σ) (s : σ),
      let trace := ((b.execute t).run h s).trace
      (created trace ≠ [] ↔ Connect.NulFree given) ∧
      (Connect.NulFree given → ∃ args, created trace = [args] ∧ args.root = host.root ∧
        args.pointers.map received = given.map (Option.map fun s => some s.bytes) ∧
        ∀ ev ∈ trace, ∀ cfg ∈ addedConfig? ev.1, ∃ ev' ∈ trace, ∃ d ∈ defaultConfig? ev',
          cfg.hostTraddr = args.hostTraddr.or d.hostTraddr ∧
            cfg.hostIface = args.hostIface.or d.hostIface) := by
  intro b given
  have hstrings : b.strings = given := Connect.strings_sets host transport subsysnqn calls
  have hroot : b.host.root = host.root :=
    congrArg (fun b => b.host.root) (Connect.sets_eq (Connect.new host transport subsysnqn) calls)
  rw [← hstrings, ← b.noNul_iff]
  refine ⟨b.execute_refused t, fun σ h s => ⟨?_, fun hnul => ?_⟩⟩
  · by_cases hnul : b.NoNul
    · obtain ⟨args, -, hcreated⟩ := b.execute_created t hnul h s
      refine iff_of_true ?_ hnul
      rw [hcreated]
      exact List.cons_ne_nil args []
    · have hcalls := List.map_eq_nil_iff.mp (b.execute_refused t hnul σ h s).1
      refine iff_of_false ?_ hnul
      rw [hcalls]
      exact fun hne => hne rfl
  · obtain ⟨args, hargs, hcreated⟩ := b.execute_created t hnul h s
    have hconverts := Connect.createArgs_ok hargs
    exact ⟨args, hcreated, hconverts.root.trans hroot, hconverts.received_pointers,
      b.execute_config t h s hargs⟩

end LibnvmeRs
