import LdmLib.DeviceRun

namespace LDM.WiFi
set_option autoImplicit true

open Bytes Prog Ledger

variable {d d' : Device}

structure NetifLog (d : Device) : Prop where
  disciplined : Disciplined d.netifEvents
  fresh : ∀ n, .acquire n ∈ d.netifEvents → n < d.netifs

/-- The two members are `NULL` or point to different live netifs. -/
structure NetifCore (d : Device) : Prop extends NetifLog d where
  sta : ∀ n, d.wifi.netifSta = some n → Live d.netifEvents n
  ap : ∀ n, d.wifi.netifAp = some n → Live d.netifEvents n
  distinct : ∀ n, d.wifi.netifSta = some n → d.wifi.netifAp ≠ some n

def netifView (d : Device) : List (Event Nat) × Nat × Option Nat × Option Nat :=
  (d.netifEvents, d.netifs, d.wifi.netifSta, d.wifi.netifAp)

theorem NetifCore.same (h : NetifCore d) (hv : netifView d' = netifView d) : NetifCore d' := by
  simp only [netifView, Prod.mk.injEq] at hv
  obtain ⟨he, hn, hs, ha⟩ := hv
  constructor
  case toNetifLog =>
    constructor
    case disciplined =>
      rw [he]
      exact h.disciplined
    case fresh =>
      rw [he, hn]
      exact h.fresh
  case sta =>
    rw [he, hs]
    exact h.sta
  case ap =>
    rw [he, ha]
    exact h.ap
  case distinct =>
    rw [hs, ha]
    exact h.distinct

theorem netifView_call (hc : c.netifEvent = none) (err : EspErr) :
    netifView (d.record c err) = netifView d := by
  rw [netifView, Device.netifEvents_record_none hc]
  rfl

theorem NetifCore.use (h : NetifCore d) (hc : c.netifEvent = some (.use n))
    (hl : Live d.netifEvents n) (err : EspErr) : NetifCore (d.record c err) := by
  have he : (d.record c err).netifEvents = .use n :: d.netifEvents :=
    Device.netifEvents_record_some hc err
  constructor
  case toNetifLog =>
    constructor
    case disciplined =>
      rw [he]
      exact ⟨hl, h.disciplined⟩
    case fresh =>
      rw [he]
      exact Numbered.use h.fresh n
  case sta =>
    intro m hm
    rw [he, live_use]
    exact h.sta m hm
  case ap =>
    intro m hm
    rw [he, live_use]
    exact h.ap m hm
  case distinct => exact h.distinct

def withNetif (d : Device) (i : WifiInterface) : Device :=
  { d.record (.netifCreateDefaultWifi i (some d.netifs)) .ok with netifs := d.netifs + 1 }

theorem netifEvents_withNetif (d : Device) (i : WifiInterface) :
    (withNetif d i).netifEvents = .acquire d.netifs :: d.netifEvents :=
  Device.netifEvents_record_some rfl .ok

theorem NetifCore.live_withNetif (h : NetifCore d) (i : WifiInterface) (n : Nat) :
    Live (withNetif d i).netifEvents n ↔ n = d.netifs ∨ Live d.netifEvents n := by
  rw [netifEvents_withNetif, Numbered.live_acquire h.fresh h.disciplined]

theorem NetifCore.withNetif (h : NetifCore d) (i : WifiInterface) :
    NetifCore (WiFi.withNetif d i) where
  disciplined := by
    rw [netifEvents_withNetif]
    exact ⟨Numbered.not_acquired h.fresh, h.disciplined⟩
  fresh := by
    rw [netifEvents_withNetif]
    exact Numbered.acquire h.fresh
  sta m hm := (h.live_withNetif i m).2 (.inr (h.sta m hm))
  ap m hm := (h.live_withNetif i m).2 (.inr (h.ap m hm))
  distinct := h.distinct

theorem NetifCore.setSta (h : NetifCore d) (hl : ∀ m, n = some m → Live d.netifEvents m)
    (hne : ∀ m, n = some m → d.wifi.netifAp ≠ some m) :
    NetifCore { d with wifi.netifSta := n } :=
  ⟨⟨h.disciplined, h.fresh⟩, hl, h.ap, hne⟩

theorem NetifCore.setAp (h : NetifCore d) (hl : ∀ m, n = some m → Live d.netifEvents m)
    (hne : ∀ m, n = some m → d.wifi.netifSta ≠ some m) :
    NetifCore { d with wifi.netifAp := n } :=
  ⟨⟨h.disciplined, h.fresh⟩, h.sta, hl, fun m hs ha => hne m ha hs⟩

theorem NetifCore.newSta (h : NetifCore d) :
    NetifCore { WiFi.withNetif d .sta with wifi.netifSta := some d.netifs } := by
  apply (h.withNetif .sta).setSta
  · intro m hm
    exact (h.live_withNetif .sta m).2 (.inl (Option.some.inj hm).symm)
  · intro m hm ha
    cases hm
    exact Numbered.ne_of_live h.fresh (h.ap _ ha) rfl

theorem NetifCore.newAp (h : NetifCore d) :
    NetifCore { WiFi.withNetif d .ap with wifi.netifAp := some d.netifs } := by
  apply (h.withNetif .ap).setAp
  · intro m hm
    exact (h.live_withNetif .ap m).2 (.inl (Option.some.inj hm).symm)
  · intro m hm hs
    cases hm
    exact Numbered.ne_of_live h.fresh (h.sta _ hs) rfl

theorem initSta_created (hc : env.createSta = true) (k : Kconfig) (d : Device) :
    (initSta k env d).1 =
      { WiFi.withNetif d .sta with wifi.netifSta := some d.netifs }.record
        (.netifSetHostname d.netifs k.staHostname) env.staHostname := by
  rw [initSta, hc]
  rfl

theorem initSta_failed (hc : env.createSta = false) (k : Kconfig) (d : Device) :
    (initSta k env d).1 =
      { d.record (.netifCreateDefaultWifi .sta none) .fail with wifi.netifSta := none } := by
  rw [initSta, hc]
  rfl

theorem initSta_core (k : Kconfig) (env : InitEnv) : Keeps NetifCore (initSta k env) := by
  intro d h
  cases hc : env.createSta with
  | true =>
    rw [initSta_created hc]
    have hn := h.newSta
    exact hn.use rfl (hn.sta _ rfl) _
  | false =>
    rw [initSta_failed hc]
    have hn : NetifCore (d.record (.netifCreateDefaultWifi .sta none) .fail) :=
      h.same (netifView_call rfl _)
    exact hn.setSta (fun m hm => by cases hm) fun m hm => by cases hm

theorem initAp_created (hc : env.createAp = true) (k : Kconfig) (d : Device) :
    initAp k env d = (do
      errorCheck (.netifSetHostname d.netifs k.apHostname) env.apHostname
      errorCheck (.netifDhcpsStop d.netifs) env.dhcpsStop
      errorCheck (.netifSetIpInfo d.netifs k.apIpv4 k.apGateway k.apNetmask) env.setIpInfo)
        { WiFi.withNetif d .ap with wifi.netifAp := some d.netifs } := by
  rw [initAp, hc]
  rfl

theorem initAp_failed (hc : env.createAp = false) (k : Kconfig) (d : Device) :
    (initAp k env d).1 =
      { d.record (.netifCreateDefaultWifi .ap none) .fail with wifi.netifAp := none } := by
  rw [initAp, hc]
  rfl

theorem initAp_core (k : Kconfig) (env : InitEnv) : Keeps NetifCore (initAp k env) := by
  intro d h
  cases hc : env.createAp with
  | true =>
    have huse (c : Call) (err : EspErr) (hc : c.netifEvent = some (.use d.netifs)) :
        Keeps (fun s => NetifCore s ∧ s.wifi.netifAp = some d.netifs) (errorCheck c err) := by
      apply keeps_errorCheck
      intro s hs
      exact ⟨hs.1.use hc (hs.1.ap _ hs.2) err, hs.2⟩
    rw [initAp_created hc]
    refine (Keeps.bind (huse _ _ rfl) (fun _ => ?_) _ ⟨h.newAp, rfl⟩).1
    exact .bind (huse _ _ rfl) fun _ => huse _ _ rfl
  | false =>
    rw [initAp_failed hc]
    have hn : NetifCore (d.record (.netifCreateDefaultWifi .ap none) .fail) :=
      h.same (netifView_call rfl _)
    exact hn.setAp (fun m hm => by cases hm) fun m hm => by cases hm

theorem call_core (hc : c.netifEvent = none) (err : EspErr) (d : Device) (h : NetifCore d) :
    NetifCore (d.record c err) :=
  h.same (netifView_call hc err)

theorem init_core (k : Kconfig) (setup : WifiSetup) (env : InitEnv) :
    Keeps NetifCore (init k setup env) := by
  refine .bind (keeps_errorCheck (call_core rfl _)) fun _ => ?_
  refine .bind (keeps_errorCheck (call_core rfl _)) fun _ => ?_
  refine .bind (.onlyIf (initSta_core k env)) fun _ => ?_
  refine .bind (.onlyIf (initAp_core k env)) fun _ => ?_
  refine .bind (initDriver_keeps ?_ env) fun _ => .pure _
  intro c err d _ hc h
  exact call_core hc err d h

/-- A netif that is given up was live, and is the only one that is not any more. -/
theorem NetifLog.dispose (h : NetifLog d) (hl : Live d.netifEvents n) (err : EspErr) :
    NetifLog ((d.record (.wifiClearDefaultWifiDriverAndHandlers n) err).record
      (.netifDestroy n) .ok) ∧
    ∀ m, Live ((d.record (.wifiClearDefaultWifiDriverAndHandlers n) err).record
      (.netifDestroy n) .ok).netifEvents m ↔ Live d.netifEvents m ∧ m ≠ n := by
  have he : ((d.record (.wifiClearDefaultWifiDriverAndHandlers n) err).record
      (.netifDestroy n) .ok).netifEvents = .release n :: .use n :: d.netifEvents := by
    rw [Device.netifEvents_record_some rfl, Device.netifEvents_record_some rfl]
  apply And.intro
  · constructor
    case disciplined =>
      rw [he, disciplined_release, live_use]
      exact ⟨hl, hl, h.disciplined⟩
    case fresh =>
      rw [he]
      exact (Numbered.use h.fresh n).release n
  · intro m
    rw [he, live_release, live_use]

theorem deinitSta_core (h : NetifCore d) (env : DeinitEnv) :
    NetifCore (deinitSta env d).1 ∧ (deinitSta env d).1.wifi.netifSta = none := by
  cases hs : d.wifi.netifSta with
  | none =>
    rw [deinitSta_none hs]
    exact ⟨h, hs⟩
  | some n =>
    rw [deinitSta_some hs]
    obtain ⟨hlog, hlive⟩ := h.dispose (h.sta n hs) env.clearSta
    apply And.intro
    · constructor
      case toNetifLog => exact ⟨hlog.disciplined, hlog.fresh⟩
      case sta =>
        intro m hm
        cases hm
      case ap =>
        intro m hm
        have hne : m ≠ n := by
          intro he
          subst he
          exact h.distinct m hs hm
        exact (hlive m).2 ⟨h.ap m hm, hne⟩
      case distinct =>
        intro m hm
        cases hm
    · rfl

theorem deinitAp_log (h : NetifCore d) (env : DeinitEnv) : NetifLog (deinitAp env d).1 := by
  cases ha : d.wifi.netifAp with
  | none =>
    rw [deinitAp_none ha]
    exact h.toNetifLog
  | some n =>
    rw [deinitAp_some ha]
    obtain ⟨hlog, -⟩ := h.dispose (h.ap n ha) env.clearAp
    exact ⟨hlog.disciplined, hlog.fresh⟩

theorem disposed_log (h : NetifCore d) (env : DeinitEnv) : NetifLog (disposed d env) :=
  deinitAp_log (deinitSta_core h env).1 env

theorem disposed_netifAp (d : Device) (env : DeinitEnv) :
    (disposed d env).wifi.netifAp = d.wifi.netifAp := by
  rw [disposed, ← deinitSta_netifAp d env]
  cases ha : (deinitSta env d).1.wifi.netifAp with
  | none => rw [deinitAp_none ha, ha]
  | some n =>
    rw [deinitAp_some ha]
    exact ha

theorem disposed_core (h : NetifCore d) (ha : d.wifi.netifAp = none) (env : DeinitEnv) :
    NetifCore (disposed d env) ∧ (disposed d env).wifi.netifSta = none := by
  have hn : (deinitSta env d).1.wifi.netifAp = none := (deinitSta_netifAp d env).trans ha
  rw [disposed, deinitAp_none hn]
  exact deinitSta_core h env

/-- What `deinit` leaves: it cannot lose track of a netif unless it runs to its end, and then it is
that of the access point. -/
structure NetifDeinit (d : Device) (env : DeinitEnv) (r : Device × Option EspErr) : Prop where
  log : NetifLog r.1
  core : r.2 ≠ none → (RunsToEnd env → d.wifi.netifAp = none) → NetifCore r.1
  ap : RunsToEnd env → r.1.wifi.netifAp = d.wifi.netifAp
  sta : RunsToEnd env → d.wifi.netifAp = none → r.1.wifi.netifSta = none

theorem deinit_netifs (h : NetifCore d) (env : DeinitEnv) :
    NetifDeinit d env (deinit env d) := by
  have hstop (err : EspErr) : NetifCore (d.record .wifiStop err) := call_core rfl err d h
  have hdeinit (err : EspErr) : NetifCore ((d.record .wifiStop .ok).record .wifiDeinit err) :=
    call_core rfl err _ (hstop .ok)
  have hlog := disposed_log (hdeinit .ok) env
  have hap := disposed_netifAp ((d.record .wifiStop .ok).record .wifiDeinit .ok) env
  have he := deinit_ends d env
  generalize deinit env d = r at he
  cases he with
  | stop he =>
    exact ⟨(hstop _).toNetifLog, fun _ _ => hstop _, fun hr => (he hr.1).elim,
      fun hr => (he hr.1).elim⟩
  | wifiDeinit _ he =>
    exact ⟨(hdeinit _).toNetifLog, fun _ _ => hdeinit _, fun hr => (he hr.2.1).elim,
      fun hr => (he hr.2.1).elim⟩
  | aborted _ _ he =>
    exact ⟨⟨hlog.disciplined, hlog.fresh⟩, fun hn => (hn rfl).elim, fun hr => (he hr.2.2).elim,
      fun hr => (he hr.2.2).elim⟩
  | done h1 h2 h3 =>
    have hcore (ha : d.wifi.netifAp = none) := disposed_core (hdeinit .ok) ha env
    constructor
    case log => exact ⟨hlog.disciplined, hlog.fresh⟩
    case core =>
      intro _ hg
      exact (hcore (hg ⟨h1, h2, h3⟩)).1.same rfl
    case ap => exact fun _ => hap
    case sta => exact fun _ ha => (hcore ha).2

/-- What a client of the class relies on: no netif is used or destroyed once it was destroyed, and
none is left in the members where `deinit` has just run to its end. -/
structure NetifsSound (p : Device × Bool) : Prop where
  disciplined : Disciplined p.1.netifEvents
  once : ∀ n, p.1.netifEvents.count (.release n) ≤ 1
  ended : p.2 = true → p.1.wifi.netifSta = none ∧ p.1.wifi.netifAp = none

def endsDeinit : Device.Op → Bool
  | .deinit env => RunsToEnd env
  | .deinitBlufi profile env => profile = .ok ∧ RunsToEnd env
  | _ => false

def deinitEnded (_ : Bool) (d : Device) (op : Device.Op) : Bool := !d.aborted && endsDeinit op

/-- No `deinit` runs to its end while there is a netif of an access point. -/
def NetifGuard (p : Device × Bool) (op : Device.Op) : Prop :=
  p.1.aborted = false → endsDeinit op = true → p.1.wifi.netifAp = none

structure NetifInv (p : Device × Bool) : Prop where
  log : NetifLog p.1
  core : p.1.aborted = false → NetifCore p.1
  ended : p.2 = true → p.1.wifi.netifSta = none ∧ p.1.wifi.netifAp = none

theorem NetifInv.sound (h : NetifInv p) : NetifsSound p :=
  ⟨h.log.disciplined, h.log.disciplined.release_count, h.ended⟩

theorem netifInv_settle {r : Device × Option α} (hl : NetifLog r.1)
    (hc : r.2 ≠ none → NetifCore r.1)
    (he : b = true → r.1.wifi.netifSta = none ∧ r.1.wifi.netifAp = none) :
    NetifInv (Device.settle r, b) := by
  obtain ⟨d, a⟩ := r
  cases a with
  | some a => exact ⟨hl, fun _ => hc (by simp), he⟩
  | none => exact ⟨⟨hl.disciplined, hl.fresh⟩, fun ha => (Bool.noConfusion ha), he⟩

theorem netifInv_keeps {p : Prog Device α} (hk : Keeps NetifCore p) (h : NetifCore d) :
    NetifInv (Device.settle (p d), false) :=
  netifInv_settle (hk d h).toNetifLog (fun _ => hk d h) (fun hf => Bool.noConfusion hf)

theorem netifInv_deinit (h : NetifCore d) (env : DeinitEnv)
    (hg : RunsToEnd env → d.wifi.netifAp = none) :
    NetifInv (Device.settle (deinit env d), decide (RunsToEnd env)) := by
  have hd := deinit_netifs h env
  refine netifInv_settle hd.log (fun hn => hd.core hn hg) fun hr => ?_
  have hr := of_decide_eq_true hr
  exact ⟨hd.sta hr (hg hr), (hd.ap hr).trans (hg hr)⟩

theorem callback_core (e : Ble.BlufiEvent) (env : Ble.CallbackEnv) :
    Keeps NetifCore (Ble.defaultBlufiCallback e env) := by
  apply Ble.callback_keeps
  · intro c err d hc h
    apply call_core _ err d h
    cases c with
    | _ => first | rfl | exact hc.elim
  · intro d b _ h
    exact h.same rfl

theorem wifiEvent_core (e : WifiEvent) (err : EspErr) :
    Keeps NetifCore (wifiEventHandler e err) := by
  intro d h
  cases e with
  | staStart => exact call_core rfl err d h
  | staDisconnected => exact (call_core rfl err d h).same rfl
  | _ => exact h.same rfl

theorem connect_core (err : EspErr) : Keeps NetifCore (connect err) := by
  intro d h
  rw [connect_apply]
  exact (call_core rfl err d h).same rfl

theorem disconnect_core (err : EspErr) : Keeps NetifCore (disconnect err) :=
  .bind (.modify fun _ h => h.same rfl) fun _ => keeps_call (call_core rfl err)

theorem ipEvent_core (e : IpEvent) : Keeps NetifCore (ipEventHandler e) := by
  intro d h
  cases e with
  | _ => exact h.same rfl

theorem gap_core (env : Ble.GapEnv) : Keeps NetifCore (Ble.setupDefaultBleGapCallback env) := by
  refine .bind (.modify fun _ h => h.same rfl) fun _ => ?_
  refine .bind (keeps_call (call_core rfl _)) fun _ => ?_
  refine .bind (.modify fun _ h => h.same rfl) fun _ => ?_
  exact .bind (keeps_call (call_core rfl _)) fun _ => keeps_call (call_core rfl _)

theorem NetifInv.run (h : NetifCore d) (hg : endsDeinit op = true → d.wifi.netifAp = none)
    (k : Kconfig) : NetifInv (op.run k d, endsDeinit op) := by
  cases op with
  | init setup env => exact netifInv_keeps (init_core k setup env) h
  | deinit env => exact netifInv_deinit h env fun hr => hg (decide_eq_true hr)
  | connect err => exact netifInv_keeps (connect_core err) h
  | disconnect err => exact netifInv_keeps (disconnect_core err) h
  | setConfig i config err => exact netifInv_keeps (keeps_call (call_core rfl err)) h
  | setWifiMode mode err => exact netifInv_keeps (keeps_call (call_core rfl err)) h
  | initBlufi profile env =>
    exact netifInv_keeps (Ble.initBlufi_keeps (fun d err h => call_core rfl err d h)
      (init_core k .sta) profile env) h
  | initBlufiWith config profile env setConfigErr =>
    exact netifInv_keeps (Ble.initBlufiWith_keeps (fun d err h => call_core rfl err d h)
      (init_core k .sta) (fun d config err h => call_core rfl err d h) config profile env
      setConfigErr) h
  | deinitBlufi profile env =>
    by_cases hp : profile = .ok
    · subst hp
      have hd := call_core (c := .blufiProfileDeinit) rfl .ok d h
      simpa [Device.Op.run, Ble.deinitBlufi_ok, endsDeinit] using
        netifInv_deinit hd env fun hr => hg (by simpa [endsDeinit] using hr)
    · rw [Device.Op.run, Ble.deinitBlufi_fail hp, endsDeinit, decide_eq_false fun hn => hp hn.1]
      exact netifInv_keeps (keeps_call (call_core rfl profile)) h
  | setupDefaultBleGapCallback env => exact netifInv_keeps (gap_core env) h
  | wifiEvent e err => exact netifInv_keeps (wifiEvent_core e err) h
  | ipEvent e => exact netifInv_keeps (ipEvent_core e) h
  | blufi e env => exact netifInv_keeps (callback_core e env) h

theorem NetifInv.step (h : NetifInv p) (hg : NetifGuard p op) (k : Kconfig) :
    NetifInv (Run.watch (Device.step k) deinitEnded p op) := by
  obtain ⟨d, b⟩ := p
  simp only [Run.watch, Device.step, deinitEnded]
  cases ha : d.aborted with
  | true => exact ⟨h.log, h.core, fun hf => Bool.noConfusion hf⟩
  | false =>
    have hc : NetifCore d := h.core ha
    exact NetifInv.run hc (hg ha) k

theorem run_netifAp (h : NetifCore d) (he : endsDeinit op = true) (k : Kconfig) :
    (op.run k d).wifi.netifAp = d.wifi.netifAp := by
  cases op with
  | deinit env =>
    rw [Device.Op.run, Device.settle_wifi]
    exact (deinit_netifs h env).ap (of_decide_eq_true he)
  | deinitBlufi profile env =>
    obtain ⟨rfl, hr⟩ := of_decide_eq_true he
    rw [Device.Op.run, Device.settle_wifi, Ble.deinitBlufi_ok]
    exact (deinit_netifs (call_core rfl .ok d h) env).ap hr
  | _ => cases he

theorem NetifInv.guard_needed (h : NetifInv p)
    (hs : NetifsSound (Run.watch (Device.step k) deinitEnded p op)) : NetifGuard p op := by
  obtain ⟨d, b⟩ := p
  intro ha he
  have ha : d.aborted = false := ha
  have hn := (hs.ended (by simp [Run.watch, deinitEnded, ha, he])).2
  have hstep : d.step k op = op.run k d := Device.step_running (by simp [ha]) k op
  have hap := run_netifAp (h.core ha) he k
  simp only [Run.watch, hstep, hap] at hn
  exact hn

/-- Along a run no netif is used or destroyed once it was destroyed, and a `deinit` that runs to its
end leaves none, exactly when no `deinit` runs to its end while there is a netif of an access
point. -/
theorem netifs_sound_iff (k : Kconfig) (r : Driver) (ops : List Device.Op) :
    Run.Always (Run.watch (Device.step k) deinitEnded) NetifsSound (Device.boot k r, false) ops ↔
      Run.Guarded (Run.watch (Device.step k) deinitEnded) NetifGuard
        (Device.boot k r, false) ops := by
  have hlog : NetifLog (Device.boot k r) := ⟨disciplined_nil, (fun n hn => by cases hn)⟩
  have hcore : NetifCore (Device.boot k r) :=
    ⟨hlog, (fun n hn => by cases hn), (fun n hn => by cases hn), (fun n hn => by cases hn)⟩
  have hinv : NetifInv (Device.boot k r, false) :=
    ⟨hlog, fun _ => hcore, fun hf => Bool.noConfusion hf⟩
  apply Run.always_iff_guarded hinv
  · intro p h
    exact h.sound
  · intro p op h hg
    exact h.step hg k
  · intro p op h hs
    exact h.guard_needed hs

/-- The netif of an access point is destroyed by two sessions. -/
theorem netif_destroyed_twice : ¬ Run.Always
    (Run.watch (Device.step Kconfig.defaults) deinitEnded) NetifsSound
    (Device.boot Kconfig.defaults ⟨fun _ => 0, fun _ => 0⟩, false)
    [.init .ap initOk, .deinit deinitOk, .init .sta initOk, .deinit deinitOk] := by
  intro h
  have hd := h.last.disciplined
  revert hd
  decide

end LDM.WiFi
