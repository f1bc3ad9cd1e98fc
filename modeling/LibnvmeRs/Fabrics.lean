import LibnvmeRs.Libnvme

/-!
# Fabrics and the handle tree

Connect, host lookup and the setters that hand one secret to a controller. All
strings are converted before the first call; Connect then creates a controller,
marks it, and adds it under the library's default configuration with the
caller's changes.
-/

namespace LibnvmeRs

open Interaction Program

def invalidInput : Error := .invalidArgument "interior NUL byte in fabrics parameter"

def cstringOrInvalid (s : Str) : Except Error CString :=
  match CString.new s.bytes with
  | some c => .ok c
  | none => .error invalidInput

def stringToCStringOpt : Option Str → Except Error (Option CString)
  | none => .ok none
  | some s => (cstringOrInvalid s).map some

theorem cstringOrInvalid_decides (s : Str) : Decides (cstringOrInvalid s) (0 ∉ s.bytes) :=
  strToCString_decides s "interior NUL byte in fabrics parameter"

theorem stringToCStringOpt_decides (o : Option Str) :
    Decides (stringToCStringOpt o) (∀ s ∈ o, 0 ∉ s.bytes) := by
  cases o with
  | none => exact Decides.pass.of_iff (by simp)
  | some s => exact (cstringOrInvalid_decides s).map.of_iff (by simp)

theorem bind_eq_ok {ε α β : Type} {x : Except ε α} {f : α → Except ε β} {b : β}
    (h : (x >>= f) = .ok b) : ∃ a, x = .ok a ∧ f a = .ok b := by
  cases x with
  | error e => cases h
  | ok a => exact ⟨a, rfl, h⟩

theorem cstringOrInvalid_ok {s : Str} {c : CString} (hc : cstringOrInvalid s = .ok c) :
    c.bytes = s.bytes := by
  unfold cstringOrInvalid at hc
  split at hc
  next c' hnew =>
    obtain rfl := Except.ok.inj hc
    exact CString.new_eq_some.mp hnew
  next => cases hc

theorem stringToCStringOpt_ok {o : Option Str} {c : Option CString}
    (hc : stringToCStringOpt o = .ok c) : c.map CString.bytes = o.map Str.bytes := by
  cases o with
  | none =>
    obtain rfl := Except.ok.inj hc
    rfl
  | some s =>
    obtain ⟨c', hc', rfl⟩ : ∃ c', cstringOrInvalid s = .ok c' ∧ some c' = c := by
      rw [stringToCStringOpt] at hc
      cases hs : cstringOrInvalid s with
      | error e =>
        rw [hs] at hc
        cases hc
      | ok c' =>
        rw [hs] at hc
        exact ⟨c', rfl, Except.ok.inj hc⟩
    exact congrArg some (cstringOrInvalid_ok hc')

theorem eq_bind_new {o : Option Str} {c : Option CString}
    (hbytes : c.map CString.bytes = o.map Str.bytes) :
    c = o.bind fun s => CString.new s.bytes := by
  cases o with
  | none => exact Option.map_eq_none_iff.mp hbytes
  | some s =>
    obtain ⟨c', rfl, hc'⟩ := Option.map_eq_some_iff.mp hbytes
    exact (CString.new_eq_some.mpr hc').symm

structure Host where
  root : NvmeRoot
  ptr : NvmeHost

structure Connect where
  host : Host
  transport : Str
  subsysnqn : Str
  traddr : Option Str := none
  trsvcid : Option Str := none
  hostTraddr : Option Str := none
  hostIface : Option Str := none
  queueSize : Option I32 := none
  nrIoQueues : Option I32 := none
  keepAliveTmo : Option I32 := none
  reconnectDelay : Option I32 := none
  ctrlLossTmo : Option I32 := none
  hdrDigest : Bool := false
  dataDigest : Bool := false
  tls : Bool := false
  duplicateConnect : Bool := false
  disableSqflow : Bool := false
  persistent : Bool := false
  discovery : Bool := false
  uniqueDiscovery : Bool := false

namespace Connect

/-- The six conversions, in the order the source makes them. -/
def createArgs (b : Connect) : Except Error NvmeCreateCtrl := do
  let subsysnqn ← cstringOrInvalid b.subsysnqn
  let transport ← cstringOrInvalid b.transport
  let traddr ← stringToCStringOpt b.traddr
  let trsvcid ← stringToCStringOpt b.trsvcid
  let hostTraddr ← stringToCStringOpt b.hostTraddr
  let hostIface ← stringToCStringOpt b.hostIface
  return {
    root := b.host.root
    subsysnqn := subsysnqn
    transport := transport
    traddr := traddr
    hostTraddr := hostTraddr
    hostIface := hostIface
    trsvcid := trsvcid }

def NoNul (b : Connect) : Prop :=
  0 ∉ b.subsysnqn.bytes ∧ 0 ∉ b.transport.bytes ∧
    ∀ o ∈ [b.traddr, b.trsvcid, b.hostTraddr, b.hostIface], ∀ s ∈ o, 0 ∉ s.bytes

theorem createArgs_decides (b : Connect) : Decides b.createArgs b.NoNul := by
  have hchain := (cstringOrInvalid_decides b.subsysnqn).bind fun subsysnqn =>
    (cstringOrInvalid_decides b.transport).bind fun transport =>
    (stringToCStringOpt_decides b.traddr).bind fun traddr =>
    (stringToCStringOpt_decides b.trsvcid).bind fun trsvcid =>
    (stringToCStringOpt_decides b.hostTraddr).bind fun hostTraddr =>
    (stringToCStringOpt_decides b.hostIface).map (f := fun hostIface =>
      ({ root := b.host.root
         subsysnqn := subsysnqn
         transport := transport
         traddr := traddr
         hostTraddr := hostTraddr
         hostIface := hostIface
         trsvcid := trsvcid } : NvmeCreateCtrl))
  exact hchain.of_iff (by simp [NoNul])

structure Converts (b : Connect) (args : NvmeCreateCtrl) : Prop where
  root : args.root = b.host.root
  subsysnqn : args.subsysnqn.bytes = b.subsysnqn.bytes
  transport : args.transport.bytes = b.transport.bytes
  traddr : args.traddr.map CString.bytes = b.traddr.map Str.bytes
  hostTraddr : args.hostTraddr.map CString.bytes = b.hostTraddr.map Str.bytes
  hostIface : args.hostIface.map CString.bytes = b.hostIface.map Str.bytes
  trsvcid : args.trsvcid.map CString.bytes = b.trsvcid.map Str.bytes

theorem createArgs_ok {b : Connect} {args : NvmeCreateCtrl} (hargs : b.createArgs = .ok args) :
    b.Converts args := by
  obtain ⟨subsysnqn, hsubsysnqn, hargs⟩ := bind_eq_ok hargs
  obtain ⟨transport, htransport, hargs⟩ := bind_eq_ok hargs
  obtain ⟨traddr, htraddr, hargs⟩ := bind_eq_ok hargs
  obtain ⟨trsvcid, htrsvcid, hargs⟩ := bind_eq_ok hargs
  obtain ⟨hostTraddr, hhostTraddr, hargs⟩ := bind_eq_ok hargs
  obtain ⟨hostIface, hhostIface, hargs⟩ := bind_eq_ok hargs
  obtain rfl := Except.ok.inj hargs
  exact {
    root := rfl
    subsysnqn := cstringOrInvalid_ok hsubsysnqn
    transport := cstringOrInvalid_ok htransport
    traddr := stringToCStringOpt_ok htraddr
    hostTraddr := stringToCStringOpt_ok hhostTraddr
    hostIface := stringToCStringOpt_ok hhostIface
    trsvcid := stringToCStringOpt_ok htrsvcid }

def configure (b : Connect) (args : NvmeCreateCtrl) (cfg : NvmeFabricsConfig) :
    NvmeFabricsConfig :=
  { cfg with
    queueSize := b.queueSize.getD cfg.queueSize
    nrIoQueues := b.nrIoQueues.getD cfg.nrIoQueues
    keepAliveTmo := b.keepAliveTmo.getD cfg.keepAliveTmo
    reconnectDelay := b.reconnectDelay.getD cfg.reconnectDelay
    ctrlLossTmo := b.ctrlLossTmo.getD cfg.ctrlLossTmo
    hdrDigest := b.hdrDigest
    dataDigest := b.dataDigest
    tls := b.tls
    duplicateConnect := b.duplicateConnect
    disableSqflow := b.disableSqflow
    hostTraddr := args.hostTraddr.or cfg.hostTraddr
    hostIface := args.hostIface.or cfg.hostIface }

def mark (flag : Bool) (c : Call) : Ffi Unit :=
  if flag then do
    let _ ← ask c
  else return ()

def addCtrl (t : Target) (b : Connect) (args : NvmeCreateCtrl) (ctrl : NvmeCtrl) :
    Ffi NvmeCtrl := do
  mark b.discovery (.nvmeCtrlSetDiscoveryCtrl ctrl true)
  mark (t.hasUniqueDiscoveryCtrl && b.uniqueDiscovery) (.nvmeCtrlSetUniqueDiscoveryCtrl ctrl true)
  mark b.persistent (.nvmeCtrlSetPersistent ctrl true)
  let cfg ← ask (Call.nvmfDefaultConfig {})
  let r ← ask (Call.nvmfAddCtrl b.host.ptr ctrl (b.configure args cfg))
  checkRet r
  return ctrl

def execute (t : Target) (b : Connect) : Ffi NvmeCtrl := do
  let args ← b.createArgs
  let r ← ask (Call.nvmeCreateCtrl args)
  match r.value with
  | none => .fail (.os (.raw r.errno))
  | some ctrl => b.addCtrl t args ctrl

theorem ensures_mark_bind {α : Type} {flag : Bool} {c : Call} {k : Unit → Ffi α}
    {Q : List (Event Call Answer) → Exit Error α → Prop}
    (hQ : ∀ r t x, Q t x → Q (⟨c, r⟩ :: t) x) (hk : (k ()).Ensures Q) :
    (mark flag c >>= k).Ensures Q := by
  cases flag with
  | false => exact hk
  | true => exact fun r => hk.mono fun t x => hQ r t x

section
variable {t : Target} {b : Connect} {Q : List (Event Call Answer) → Exit Error NvmeCtrl → Prop}

theorem addCtrl_ensures {args : NvmeCreateCtrl} {ctrl : NvmeCtrl}
    (hdiscovery : ∀ r trace x, Q trace x → Q (⟨.nvmeCtrlSetDiscoveryCtrl ctrl true, r⟩ :: trace) x)
    (hunique : ∀ r trace x, Q trace x →
      Q (⟨.nvmeCtrlSetUniqueDiscoveryCtrl ctrl true, r⟩ :: trace) x)
    (hpersistent : ∀ r trace x, Q trace x → Q (⟨.nvmeCtrlSetPersistent ctrl true, r⟩ :: trace) x)
    (hadd : ∀ (d : NvmeFabricsConfig) (r : CRet) (x : Exit Error NvmeCtrl),
      (∀ c, x = .ok c → c = ctrl ∧ r.ret = 0) →
        Q [⟨.nvmfDefaultConfig {}, d⟩, ⟨.nvmfAddCtrl b.host.ptr ctrl (b.configure args d), r⟩] x) :
    (b.addCtrl t args ctrl).Ensures Q := by
  unfold addCtrl
  refine ensures_mark_bind hdiscovery (ensures_mark_bind hunique (ensures_mark_bind hpersistent ?_))
  simp only [ask_bind, ensures_call]
  intro d r
  cases hcheck : checkRet r with
  | ok u => exact hadd d r (.ok ctrl) fun c hc => ⟨(Exit.ok.inj hc).symm, checkRet_eq_ok.mp hcheck⟩
  | error e => exact hadd d r (.error e) fun c hc => by cases hc

theorem execute_ensures (hargs : ∀ e, b.createArgs = .error e → Q [] (.error e))
    (hnull : ∀ args r, b.createArgs = .ok args →
      r.value = none → Q [⟨.nvmeCreateCtrl args, r⟩] (.error (.os (.raw r.errno))))
    (hadd : ∀ args r ctrl, b.createArgs = .ok args → r.value = some ctrl →
      (b.addCtrl t args ctrl).Ensures fun trace x => Q (⟨.nvmeCreateCtrl args, r⟩ :: trace) x) :
    (b.execute t).Ensures Q := by
  unfold execute
  cases hcreate : b.createArgs with
  | error e => exact hargs e hcreate
  | ok args =>
    simp only [liftM_eq, ofExcept_ok, ret_bind, ask_bind, ensures_call]
    intro r
    cases hr : r.value with
    | none => exact hnull args r hcreate hr
    | some ctrl => exact hadd args r ctrl hcreate hr

end

end Connect

structure Root where
  inner : NvmeRoot

def Root.lookupArgs (hostnqn : Str) (hostid : Option Str) :
    Except Error (CString × Option CString) := do
  let hostnqnC ← strToCString hostnqn "interior NUL byte in hostnqn"
  match hostid with
  | none => return (hostnqnC, none)
  | some h =>
    let hostidC ← strToCString h "interior NUL byte in hostid"
    return (hostnqnC, some hostidC)

theorem Root.lookupArgs_decides (hostnqn : Str) (hostid : Option Str) :
    Decides (Root.lookupArgs hostnqn hostid) (0 ∉ hostnqn.bytes ∧ ∀ s ∈ hostid, 0 ∉ s.bytes) := by
  refine (strToCString_decides hostnqn _).bind fun hostnqnC => ?_
  cases hostid with
  | none => exact Decides.pass.of_iff (by simp)
  | some h => exact (strToCString_decides h _).map.of_iff (by simp)

def Root.lookupHost (r : Root) (hostnqn : Str) (hostid : Option Str) : Ffi Host := do
  let args ← Root.lookupArgs hostnqn hostid
  let raw ← ask (Call.nvmeLookupHost r.inner args.1 args.2)
  match raw.value with
  | none => .fail (.os (.raw raw.errno))
  | some ptr => return { root := r.inner, ptr := ptr }

def CtrlString.nulMessage : CtrlString → String
  | .dhchapHostKey => "interior NUL byte in DH-HMAC-CHAP host key"
  | .dhchapKey => "interior NUL byte in DH-HMAC-CHAP key"
  | .tlsKey => "interior NUL byte in TLS key"
  | .tlsKeyIdentity => "interior NUL byte in TLS key identity"
  | .keyring => "interior NUL byte in keyring name"

/-- The five setters of a controller's secrets, one for each libnvme function. -/
def setCtrlString (which : CtrlString) (c : NvmeCtrl) (value : Str) : Ffi Unit := do
  let v ← strToCString value which.nulMessage
  ask (Call.nvmeCtrlSetString which c v)

def setDhchapHostKey := setCtrlString .dhchapHostKey
def setDhchapKey := setCtrlString .dhchapKey
def setTlsKey := setCtrlString .tlsKey
def setTlsKeyIdentity := setCtrlString .tlsKeyIdentity
def setKeyring := setCtrlString .keyring

end LibnvmeRs
