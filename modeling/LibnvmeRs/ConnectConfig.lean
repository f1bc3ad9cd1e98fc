import LibnvmeRs.Fabrics
import LibnvmeRs.SetterCalls

/-!
# The configuration Connect passes on

Connect takes the library's default configuration and writes the caller's options
over it. Numbers and addresses are options of the builder and stay out unless they
were given; the five switches are plain booleans, written in any case.
-/

namespace LibnvmeRs

open Interaction Program SetterCalls

inductive Transport where
  | tcp
  | rdma
  | fc
  | loop
  | other (s : Str)

theorem tcp_valid : validateUtf8 0 [0x74, 0x63, 0x70] = .ok () := rfl

def Transport.asStr : Transport → Str
  | .tcp => ⟨[0x74, 0x63, 0x70], tcp_valid⟩
  | .rdma => ⟨[0x72, 0x64, 0x6D, 0x61], rfl⟩
  | .fc => ⟨[0x66, 0x63], rfl⟩
  | .loop => ⟨[0x6C, 0x6F, 0x6F, 0x70], rfl⟩
  | .other s => s

inductive ConnectSetter where
  | traddr (addr : Str)
  | trsvcid (svcid : Str)
  | hostTraddr (addr : Str)
  | hostIface (iface : Str)
  | queueSize (n : I32)
  | nrIoQueues (n : I32)
  | keepAliveTmo (seconds : I32)
  | reconnectDelay (seconds : I32)
  | ctrlLossTmo (seconds : I32)
  | hdrDigest (enabled : Bool)
  | dataDigest (enabled : Bool)
  | tls (enabled : Bool)
  | duplicateConnect (enabled : Bool)
  | disableSqflow (enabled : Bool)
  | persistent (enabled : Bool)
  | discovery
  | uniqueDiscovery

inductive ConfigFlag where
  | hdrDigest
  | dataDigest
  | tls
  | duplicateConnect
  | disableSqflow
  deriving DecidableEq, Repr

def NvmeFabricsConfig.flag (cfg : NvmeFabricsConfig) : ConfigFlag → Bool
  | .hdrDigest => cfg.hdrDigest
  | .dataDigest => cfg.dataDigest
  | .tls => cfg.tls
  | .duplicateConnect => cfg.duplicateConnect
  | .disableSqflow => cfg.disableSqflow

namespace ConnectSetter

def traddr? : ConnectSetter → Option Str
  | .traddr a => some a
  | _ => none

def trsvcid? : ConnectSetter → Option Str
  | .trsvcid a => some a
  | _ => none

def hostTraddr? : ConnectSetter → Option Str
  | .hostTraddr a => some a
  | _ => none

def hostIface? : ConnectSetter → Option Str
  | .hostIface a => some a
  | _ => none

def queueSize? : ConnectSetter → Option I32
  | .queueSize n => some n
  | _ => none

def nrIoQueues? : ConnectSetter → Option I32
  | .nrIoQueues n => some n
  | _ => none

def keepAliveTmo? : ConnectSetter → Option I32
  | .keepAliveTmo n => some n
  | _ => none

def reconnectDelay? : ConnectSetter → Option I32
  | .reconnectDelay n => some n
  | _ => none

def ctrlLossTmo? : ConnectSetter → Option I32
  | .ctrlLossTmo n => some n
  | _ => none

def flag? : ConfigFlag → ConnectSetter → Option Bool
  | .hdrDigest, .hdrDigest enabled => some enabled
  | .dataDigest, .dataDigest enabled => some enabled
  | .tls, .tls enabled => some enabled
  | .duplicateConnect, .duplicateConnect enabled => some enabled
  | .disableSqflow, .disableSqflow enabled => some enabled
  | _, _ => none

def persistent? : ConnectSetter → Option Bool
  | .persistent enabled => some enabled
  | _ => none

/-- `unique_discovery` marks a discovery controller as well. -/
def marksDiscovery : ConnectSetter → Bool
  | .discovery | .uniqueDiscovery => true
  | _ => false

def marksUnique : ConnectSetter → Bool
  | .uniqueDiscovery => true
  | _ => false

end ConnectSetter

namespace Connect

def new (host : Host) (transport : Transport) (subsysnqn : Str) : Connect :=
  { host := host, transport := transport.asStr, subsysnqn := subsysnqn }

def set (b : Connect) : ConnectSetter → Connect
  | .traddr addr => { b with traddr := some addr }
  | .trsvcid svcid => { b with trsvcid := some svcid }
  | .hostTraddr addr => { b with hostTraddr := some addr }
  | .hostIface iface => { b with hostIface := some iface }
  | .queueSize n => { b with queueSize := some n }
  | .nrIoQueues n => { b with nrIoQueues := some n }
  | .keepAliveTmo seconds => { b with keepAliveTmo := some seconds }
  | .reconnectDelay seconds => { b with reconnectDelay := some seconds }
  | .ctrlLossTmo seconds => { b with ctrlLossTmo := some seconds }
  | .hdrDigest enabled => { b with hdrDigest := enabled }
  | .dataDigest enabled => { b with dataDigest := enabled }
  | .tls enabled => { b with tls := enabled }
  | .duplicateConnect enabled => { b with duplicateConnect := enabled }
  | .disableSqflow enabled => { b with disableSqflow := enabled }
  | .persistent enabled => { b with persistent := enabled }
  | .discovery => { b with discovery := true }
  | .uniqueDiscovery => { b with discovery := true, uniqueDiscovery := true }

def sets (b : Connect) (calls : List ConnectSetter) : Connect := calls.foldl set b

def after (b : Connect) (l : List ConnectSetter) : Connect :=
  { b with
    traddr := (lastSome ConnectSetter.traddr? l).or b.traddr
    trsvcid := (lastSome ConnectSetter.trsvcid? l).or b.trsvcid
    hostTraddr := (lastSome ConnectSetter.hostTraddr? l).or b.hostTraddr
    hostIface := (lastSome ConnectSetter.hostIface? l).or b.hostIface
    queueSize := (lastSome ConnectSetter.queueSize? l).or b.queueSize
    nrIoQueues := (lastSome ConnectSetter.nrIoQueues? l).or b.nrIoQueues
    keepAliveTmo := (lastSome ConnectSetter.keepAliveTmo? l).or b.keepAliveTmo
    reconnectDelay := (lastSome ConnectSetter.reconnectDelay? l).or b.reconnectDelay
    ctrlLossTmo := (lastSome ConnectSetter.ctrlLossTmo? l).or b.ctrlLossTmo
    hdrDigest := (lastSome (ConnectSetter.flag? .hdrDigest) l).getD b.hdrDigest
    dataDigest := (lastSome (ConnectSetter.flag? .dataDigest) l).getD b.dataDigest
    tls := (lastSome (ConnectSetter.flag? .tls) l).getD b.tls
    duplicateConnect := (lastSome (ConnectSetter.flag? .duplicateConnect) l).getD b.duplicateConnect
    disableSqflow := (lastSome (ConnectSetter.flag? .disableSqflow) l).getD b.disableSqflow
    persistent := (lastSome ConnectSetter.persistent? l).getD b.persistent
    discovery := b.discovery || l.any ConnectSetter.marksDiscovery
    uniqueDiscovery := b.uniqueDiscovery || l.any ConnectSetter.marksUnique }

theorem sets_eq (b : Connect) (l : List ConnectSetter) : b.sets l = b.after l := by
  refine foldl_eq_after (fun b => ?_) (fun b s l => ?_) b l
  · simp [after, lastSome]
  · cases s <;> simp [after, set, lastSome, ConnectSetter.traddr?, ConnectSetter.trsvcid?,
      ConnectSetter.hostTraddr?, ConnectSetter.hostIface?, ConnectSetter.queueSize?,
      ConnectSetter.nrIoQueues?, ConnectSetter.keepAliveTmo?, ConnectSetter.reconnectDelay?,
      ConnectSetter.ctrlLossTmo?, ConnectSetter.flag?, ConnectSetter.persistent?,
      ConnectSetter.marksDiscovery, ConnectSetter.marksUnique]

end Connect

def addedConfig? : Call → Option NvmeFabricsConfig
  | .nvmfAddCtrl _ _ cfg => some cfg
  | _ => none

def defaultConfig? : Event Call Answer → Option NvmeFabricsConfig
  | ⟨.nvmfDefaultConfig _, d⟩ => some d
  | _ => none

def defaultsTo (d : NvmeFabricsConfig) : Handler Call Answer Unit := fun c s =>
  (match c with
    | .nvmeCreateCtrl _ => ⟨some 1, 0⟩
    | .nvmfDefaultConfig _ => d
    | c => c.reply.zero, s)

namespace Connect
variable (t : Target) (b : Connect)

def AddsConfigured (trace : List (Event Call Answer)) : Prop :=
  ∀ ev ∈ trace, ∀ cfg ∈ addedConfig? ev.1, ∃ args, b.createArgs = .ok args ∧
    ∃ ev' ∈ trace, ∃ d ∈ defaultConfig? ev', cfg = b.configure args d

theorem AddsConfigured.cons {b : Connect} {trace : List (Event Call Answer)}
    {ev : Event Call Answer} (hev : addedConfig? ev.1 = none) (h : b.AddsConfigured trace) :
    b.AddsConfigured (ev :: trace) := by
  intro ev' hmem cfg hcfg
  rcases List.mem_cons.mp hmem with rfl | hmem
  · rw [hev] at hcfg
    cases hcfg
  · obtain ⟨args, hargs, ev'', hev'', hd⟩ := h ev' hmem cfg hcfg
    exact ⟨args, hargs, ev'', List.mem_cons_of_mem ev hev'', hd⟩

theorem addCtrl_addsConfigured {args : NvmeCreateCtrl} (hargs : b.createArgs = .ok args)
    (ctrl : NvmeCtrl) :
    (b.addCtrl t args ctrl).Ensures fun trace _ => b.AddsConfigured trace := by
  refine addCtrl_ensures ?_ ?_ ?_ fun d r _ _ => ?_
  · exact fun _ _ _ => AddsConfigured.cons rfl
  · exact fun _ _ _ => AddsConfigured.cons rfl
  · exact fun _ _ _ => AddsConfigured.cons rfl
  · intro ev hev cfg hcfg
    simp only [List.mem_cons, List.not_mem_nil, or_false] at hev
    rcases hev with rfl | rfl
    · cases hcfg
    · obtain rfl := Option.some.inj hcfg
      exact ⟨args, hargs, _, List.mem_cons_self, d, rfl, rfl⟩

theorem execute_addsConfigured :
    (b.execute t).Ensures fun trace _ => b.AddsConfigured trace := by
  have hnil : b.AddsConfigured [] := fun ev hev => by cases hev
  refine execute_ensures (fun _ _ => hnil) ?_ ?_
  · intro args r _ _
    exact AddsConfigured.cons rfl hnil
  · intro args r ctrl hargs _
    exact (b.addCtrl_addsConfigured t hargs ctrl).mono fun _ _ h => AddsConfigured.cons rfl h

/-- Under the default `d`, every configuration that is passed on has the property. -/
def PassesOn (d : NvmeFabricsConfig) (P : NvmeFabricsConfig → Prop) : Prop :=
  ∀ (σ : Type) (h : Handler Call Answer σ) (s : σ),
    let trace := ((b.execute t).run h s).trace
    (∀ ev ∈ trace, ∀ d' ∈ defaultConfig? ev, d' = d) →
      ∀ ev ∈ trace, ∀ cfg ∈ addedConfig? ev.1, P cfg

theorem mem_trace_mark {α : Type} {h : Handler Call Answer Unit} {flag : Bool} {c : Call}
    {k : Unit → Ffi α} {ev : Event Call Answer} (hev : ev ∈ ((k ()).run h ()).trace) :
    ev ∈ ((mark flag c >>= k).run h ()).trace := by
  cases flag with
  | false => exact hev
  | true => exact List.mem_cons_of_mem _ hev

theorem defaultsTo_default {d : NvmeFabricsConfig} {ev : Event Call Answer}
    (hev : ev ∈ ((b.execute t).run (defaultsTo d) ()).trace) :
    ∀ d' ∈ defaultConfig? ev, d' = d := by
  obtain ⟨s', hanswer⟩ := answer_of_mem_trace (defaultsTo d) () hev
  obtain ⟨c, r⟩ := ev
  intro d' hd'
  cases c with
  | nvmfDefaultConfig cfg =>
    obtain rfl := Option.some.inj hd'
    exact hanswer
  | _ => cases hd'

theorem defaultsTo_adds {args : NvmeCreateCtrl} (hargs : b.createArgs = .ok args)
    (d : NvmeFabricsConfig) :
    ∃ ev ∈ ((b.execute t).run (defaultsTo d) ()).trace,
      addedConfig? ev.1 = some (b.configure args d) := by
  obtain ⟨ev, hev, hcfg⟩ : ∃ ev ∈ ((b.addCtrl t args 1).run (defaultsTo d) ()).trace,
      addedConfig? ev.1 = some (b.configure args d) := by
    refine ⟨⟨.nvmfAddCtrl b.host.ptr 1 (b.configure args d), (default : CRet)⟩, ?_, rfl⟩
    rw [addCtrl]
    refine mem_trace_mark (mem_trace_mark (mem_trace_mark ?_))
    exact List.mem_cons_of_mem _ List.mem_cons_self
  rw [execute, hargs]
  exact ⟨ev, List.mem_cons_of_mem _ hev, hcfg⟩

theorem passesOn_iff {d : NvmeFabricsConfig} {P : NvmeFabricsConfig → Prop} :
    b.PassesOn t d P ↔ ∀ args, b.createArgs = .ok args → P (b.configure args d) := by
  constructor
  · intro hpasses args hargs
    obtain ⟨ev, hev, hcfg⟩ := b.defaultsTo_adds t hargs d
    exact hpasses Unit (defaultsTo d) () (fun _ => b.defaultsTo_default t) ev hev _ hcfg
  · intro hP σ h s trace hdefault ev hev cfg hcfg
    obtain ⟨args, hargs, ev', hev', d', hd', rfl⟩ :=
      (b.execute_addsConfigured t).run h s ev hev cfg hcfg
    rw [hdefault ev' hev' d' hd']
    exact hP args hargs

end Connect

def Connect.requested (d : NvmeFabricsConfig) (l : List ConnectSetter) : NvmeFabricsConfig :=
  let text (s : Str) := CString.new s.bytes
  { d with
    hostTraddr := ((lastSome ConnectSetter.hostTraddr? l).bind text).or d.hostTraddr
    hostIface := ((lastSome ConnectSetter.hostIface? l).bind text).or d.hostIface
    queueSize := (lastSome ConnectSetter.queueSize? l).getD d.queueSize
    nrIoQueues := (lastSome ConnectSetter.nrIoQueues? l).getD d.nrIoQueues
    keepAliveTmo := (lastSome ConnectSetter.keepAliveTmo? l).getD d.keepAliveTmo
    reconnectDelay := (lastSome ConnectSetter.reconnectDelay? l).getD d.reconnectDelay
    ctrlLossTmo := (lastSome ConnectSetter.ctrlLossTmo? l).getD d.ctrlLossTmo
    hdrDigest := (lastSome (ConnectSetter.flag? .hdrDigest) l).getD d.hdrDigest
    dataDigest := (lastSome (ConnectSetter.flag? .dataDigest) l).getD d.dataDigest
    tls := (lastSome (ConnectSetter.flag? .tls) l).getD d.tls
    duplicateConnect := (lastSome (ConnectSetter.flag? .duplicateConnect) l).getD d.duplicateConnect
    disableSqflow := (lastSome (ConnectSetter.flag? .disableSqflow) l).getD d.disableSqflow }

def Connect.texts (transport : Transport) (subsysnqn : Str) (l : List ConnectSetter) :
    List (Option Str) := [
  some subsysnqn,
  some transport.asStr,
  lastSome ConnectSetter.traddr? l,
  lastSome ConnectSetter.trsvcid? l,
  lastSome ConnectSetter.hostTraddr? l,
  lastSome ConnectSetter.hostIface? l]

namespace Connect

theorem exists_createArgs_iff (host : Host) (transport : Transport) (subsysnqn : Str)
    (l : List ConnectSetter) :
    (∃ args, ((new host transport subsysnqn).sets l).createArgs = .ok args) ↔
      ∀ o ∈ texts transport subsysnqn l, ∀ s ∈ o, 0 ∉ s.bytes := by
  have hnoNul : ((new host transport subsysnqn).sets l).NoNul ↔
      ∀ o ∈ texts transport subsysnqn l, ∀ s ∈ o, 0 ∉ s.bytes := by
    rw [sets_eq]
    simp [NoNul, texts, after, new]
  rw [← hnoNul]
  rcases createArgs_decides ((new host transport subsysnqn).sets l) with ⟨h, ha⟩ | ⟨h, m, hm⟩
  · exact iff_of_true ha h
  · refine iff_of_false ?_ h
    rintro ⟨args, hargs⟩
    rw [hm] at hargs
    cases hargs

theorem getD_eq_getD_iff (o : Option Bool) (x : Bool) :
    o.getD false = o.getD x ↔ (o = none → x = false) := by
  cases o with
  | none => simp [eq_comm]
  | some y => simp

theorem configure_requested_iff (host : Host) (transport : Transport) (subsysnqn : Str)
    (l : List ConnectSetter) (d : NvmeFabricsConfig) {args : NvmeCreateCtrl}
    (hargs : ((new host transport subsysnqn).sets l).createArgs = .ok args) :
    ((new host transport subsysnqn).sets l).configure args d = requested d l ↔
      ∀ f, lastSome (ConnectSetter.flag? f) l = none → d.flag f = false := by
  have hconverts := createArgs_ok hargs
  have htraddr := eq_bind_new hconverts.hostTraddr
  have hiface := eq_bind_new hconverts.hostIface
  have hconfigure : ((new host transport subsysnqn).sets l).configure args d =
      { requested d l with
        hdrDigest := (lastSome (ConnectSetter.flag? .hdrDigest) l).getD false
        dataDigest := (lastSome (ConnectSetter.flag? .dataDigest) l).getD false
        tls := (lastSome (ConnectSetter.flag? .tls) l).getD false
        duplicateConnect := (lastSome (ConnectSetter.flag? .duplicateConnect) l).getD false
        disableSqflow := (lastSome (ConnectSetter.flag? .disableSqflow) l).getD false } := by
    rw [configure, htraddr, hiface, sets_eq]
    simp only [after, new, requested, Option.or_none]
  rw [hconfigure]
  constructor
  · intro h f
    have hflag := congrArg (fun cfg => NvmeFabricsConfig.flag cfg f) h
    rw [← getD_eq_getD_iff]
    cases f <;> exact hflag
  · intro h
    have hflag := fun f => (getD_eq_getD_iff _ (d.flag f)).mpr (h f)
    rw [hflag, hflag, hflag, hflag, hflag]
    rfl

end Connect

/-- Under every default `d`, what is passed on is `d` with the caller's changes. -/
def KeepsDefaults (t : Target) (host : Host) (transport : Transport) (subsysnqn : Str)
    (calls : List ConnectSetter) (d : NvmeFabricsConfig) : Prop :=
  ((Connect.new host transport subsysnqn).sets calls).PassesOn t d
    fun cfg => cfg = Connect.requested d calls

theorem keeps_defaults_iff (t : Target) (host : Host) (transport : Transport) (subsysnqn : Str)
    (calls : List ConnectSetter) (d : NvmeFabricsConfig) :
    KeepsDefaults t host transport subsysnqn calls d ↔
      (∃ o ∈ Connect.texts transport subsysnqn calls, ∃ s ∈ o, 0 ∈ s.bytes) ∨
        ∀ f, lastSome (ConnectSetter.flag? f) calls = none → d.flag f = false := by
  rw [KeepsDefaults, Connect.passesOn_iff]
  have hargs := Connect.exists_createArgs_iff host transport subsysnqn calls
  constructor
  · intro hpasses
    by_cases htexts : ∀ o ∈ Connect.texts transport subsysnqn calls, ∀ s ∈ o, 0 ∉ s.bytes
    · obtain ⟨args, hok⟩ := hargs.mpr htexts
      exact Or.inr ((Connect.configure_requested_iff _ _ _ _ d hok).mp (hpasses args hok))
    · push Not at htexts
      exact Or.inl htexts
  · rintro (⟨o, ho, s, hs, hnul⟩ | hflags) args hok
    · exact (hargs.mp ⟨args, hok⟩ o ho s hs hnul).elim
    · exact (Connect.configure_requested_iff _ _ _ _ d hok).mpr hflags

/-- A library whose default has TLS on loses it to a Connect that sets nothing. -/
theorem tls_default_turned_off :
    let d : NvmeFabricsConfig := { tls := true }
    let nqn : Str := ⟨[0x6E], rfl⟩
    let host : Host := ⟨0, 1⟩
    ((((Connect.new host .tcp nqn).execute littleHost).run (defaultsTo d) ()).calls.filterMap
      addedConfig?).map NvmeFabricsConfig.tls = [false] ∧
      (Connect.requested d []).tls = true ∧ ¬KeepsDefaults littleHost host .tcp nqn [] d := by
  intro d nqn host
  refine ⟨by decide, rfl, fun hkeeps => ?_⟩
  have hargs : ((Connect.new host .tcp nqn).sets []).createArgs = .ok _ := rfl
  have hrequested := (Connect.passesOn_iff _ _).mp hkeeps _ hargs
  have hflags := (Connect.configure_requested_iff host .tcp nqn [] d hargs).mp hrequested
  exact absurd (hflags .tls rfl) (by decide)

end LibnvmeRs
