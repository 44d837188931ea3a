import LdmLib.Blufi
import LdmLib.LastWriter

namespace LDM
set_option autoImplicit true

open Bytes Prog

namespace Device

/-- A device as it starts, with the configurations its driver comes up with. -/
def boot (k : Kconfig) (driver : Driver) : Device where
  wifi := WiFi.construct k
  ble := Ble.construct
  driver := driver
  netifs := 0
  log := []
  aborted := false

def settle : Device × Option α → Device
  | (d, some _) => d
  | (d, none) => { d with aborted := true }

/-- Calls of the API, deliveries of events and messages of the peer, with the outcomes of what
they call. -/
inductive Op where
  | init (setup : WifiSetup) (env : WiFi.InitEnv)
  | deinit (env : WiFi.DeinitEnv)
  | connect (err : EspErr)
  | disconnect (err : EspErr)
  | setConfig (i : WifiInterface) (config : WifiConfig) (err : EspErr)
  | setWifiMode (mode : WifiMode) (err : EspErr)
  | initBlufi (profile : EspErr) (env : WiFi.InitEnv)
  | initBlufiWith (config : WifiConfig) (profile : EspErr) (env : WiFi.InitEnv)
      (setConfigErr : EspErr)
  | deinitBlufi (profile : EspErr) (env : WiFi.DeinitEnv)
  | setupDefaultBleGapCallback (env : Ble.GapEnv)
  | wifiEvent (e : WiFi.WifiEvent) (err : EspErr)
  | ipEvent (e : WiFi.IpEvent)
  | blufi (e : Ble.BlufiEvent) (env : Ble.CallbackEnv)

def Op.run (k : Kconfig) (d : Device) : Op → Device
  | .init setup env => settle (WiFi.init k setup env d)
  | .deinit env => settle (WiFi.deinit env d)
  | .connect err => settle (WiFi.connect err d)
  | .disconnect err => settle (WiFi.disconnect err d)
  | .setConfig i config err => settle (WiFi.setConfig i config err d)
  | .setWifiMode mode err => settle (WiFi.setWifiMode mode err d)
  | .initBlufi profile env => settle (Ble.initBlufi k profile env d)
  | .initBlufiWith config profile env setConfigErr =>
    settle (Ble.initBlufiWith k config profile env setConfigErr d)
  | .deinitBlufi profile env => settle (Ble.deinitBlufi profile env d)
  | .setupDefaultBleGapCallback env => settle (Ble.setupDefaultBleGapCallback env d)
  | .wifiEvent e err => settle (WiFi.wifiEventHandler e err d)
  | .ipEvent e => settle (WiFi.ipEventHandler e d)
  | .blufi e env => settle (Ble.defaultBlufiCallback e env d)

/-- Nothing happens any more on a device that has aborted. -/
def step (k : Kconfig) (d : Device) (op : Op) : Device := if d.aborted then d else op.run k d

def Running (d : Device) : Prop := d.aborted = false

instance (d : Device) : Decidable d.Running := inferInstanceAs (Decidable (_ = _))

variable {d : Device} {I : Device → Prop}

theorem step_aborted (h : d.aborted = true) (k : Kconfig) (op : Op) : d.step k op = d :=
  if_pos h

theorem step_running (h : ¬ d.aborted = true) (k : Kconfig) (op : Op) :
    d.step k op = op.run k d :=
  if_neg h

@[simp] theorem settle_some (d : Device) (a : α) : settle (d, some a) = d := rfl

@[simp] theorem settle_wifi (r : Device × Option α) : (settle r).wifi = r.1.wifi := by
  cases r with
  | mk d a => cases a <;> rfl

@[simp] theorem settle_ble (r : Device × Option α) : (settle r).ble = r.1.ble := by
  cases r with
  | mk d a => cases a <;> rfl

@[simp] theorem settle_driver (r : Device × Option α) : (settle r).driver = r.1.driver := by
  cases r with
  | mk d a => cases a <;> rfl

@[simp] theorem settle_log (r : Device × Option α) : (settle r).log = r.1.log := by
  cases r with
  | mk d a => cases a <;> rfl

theorem settle_alike {R : Device → Device → Prop} {p q : Prog Device α}
    (ha : ∀ d d', R d d' → R { d with aborted := true } { d' with aborted := true })
    (hp : Alike R p q) (h : R d d') : R (settle (p d)) (settle (q d')) := by
  obtain ⟨hr, hv⟩ := hp d d' h
  cases hs : p d with
  | mk e a =>
    cases ht : q d' with
    | mk e' b =>
      rw [hs, ht] at hr hv
      obtain rfl : a = b := hv
      cases a with
      | some a => exact hr
      | none => exact ha _ _ hr

theorem step_running_of (h : (d.step k op).Running) : d.Running := by
  by_contra ha
  have ha' : d.aborted = true := Bool.not_eq_false _ ▸ ha
  rw [step_aborted ha'] at h
  exact ha h

/-- A device that is running in the end was so all along. -/
theorem always_running (h : (Run.run (step k) d ops).Running) :
    Run.Always (step k) Running d ops := by
  rintro pre ⟨post, rfl⟩
  by_contra ha
  have ha' : (Run.run (step k) d pre).aborted = true := Bool.not_eq_false _ ▸ ha
  let Inv (e : Device) : Prop := e.aborted = true
  have h0 : Inv (Run.run (step k) d pre) := ha'
  have hend : (Run.run (step k) (Run.run (step k) d pre) post).aborted = true :=
    Run.run_invariant h0 (fun e op he => (step_aborted he k op).symm ▸ he) post
  rw [Run.run_append, Running, hend] at h
  cases h

/-- What each operation either leaves or overwrites, on a device that runs in the end. -/
theorem last_written (obs : Device → β) {f : Op → Option β} {ops : List Op}
    (hrun : ∀ op d, obs (op.run k d) = (f op).getD (obs d))
    (h : (Run.run (step k) d ops).Running) :
    obs (Run.run (step k) d ops) = LastWriter.last f (obs d) ops := by
  apply LastWriter.run_last obs (always_running h)
  intro e op he
  rw [step_running (Bool.eq_false_iff.1 (step_running_of he))]
  exact hrun op e

theorem settle_keeps (ha : ∀ d, I d → I { d with aborted := true }) (hr : I r.1) :
    I (settle r) := by
  cases r with
  | mk d a =>
    cases a with
    | some a => exact hr
    | none => exact ha d hr

end Device

namespace Ble

variable {d : Device} {I : Device → Prop}

theorem initBlufi_keeps (hp : ∀ d err, I d → I (d.record .blufiProfileInit err))
    (hi : ∀ env, Keeps I (WiFi.init k .sta env)) (profile : EspErr) (env : WiFi.InitEnv) :
    Keeps I (initBlufi k profile env) :=
  .bind (keeps_call fun d => hp d _) fun _ => .ite (.pure _) (hi env)

theorem initBlufiWith_keeps (hp : ∀ d err, I d → I (d.record .blufiProfileInit err))
    (hi : ∀ env, Keeps I (WiFi.init k .sta env))
    (hc : ∀ d config err, I d → I (d.record (.wifiSetConfig .sta config) err))
    (config : WifiConfig) (profile : EspErr) (env : WiFi.InitEnv) (setConfigErr : EspErr) :
    Keeps I (initBlufiWith k config profile env setConfigErr) :=
  .bind (keeps_call fun d => hp d _) fun _ => .ite (.pure _) <|
    .bind (hi env) fun _ => .bind (keeps_call fun d => hc d _ _) fun _ => .pure _

theorem deinitBlufi_keeps (hp : ∀ d err, I d → I (d.record .blufiProfileDeinit err))
    (hi : ∀ env, Keeps I (WiFi.deinit env)) (profile : EspErr) (env : WiFi.DeinitEnv) :
    Keeps I (deinitBlufi profile env) :=
  .bind (keeps_call fun d => hp d _) fun _ => .ite (.pure _) (hi env)

theorem deinitBlufi_ok (env : WiFi.DeinitEnv) (d : Device) :
    deinitBlufi .ok env d = WiFi.deinit env (d.record .blufiProfileDeinit .ok) := rfl

theorem deinitBlufi_fail (he : profile ≠ .ok) (env : WiFi.DeinitEnv) (d : Device) :
    deinitBlufi profile env d = (d.record .blufiProfileDeinit profile, some profile) := by
  rw [deinitBlufi, call_bind, if_pos he]
  rfl

/-- The stores a message makes, and the configuration it makes them to. -/
def BlufiEvent.stores : BlufiEvent → Option (WifiInterface × List Store)
  | .recvStaBssid bssid => some (.sta, memcpy Sta.bssid.off bssid 6 ++ assign Sta.bssidSet 1)
  | .recvStaSsid ssid ssidLen => some (.sta, copyString Sta.ssid ssid ssidLen)
  | .recvStaPasswd passwd passwdLen => some (.sta, copyString Sta.password passwd passwdLen)
  | .recvSoftapSsid ssid ssidLen =>
    some (.ap, copyString Ap.ssid ssid ssidLen ++ assign Ap.ssidLen (UInt8.ofNat ssidLen))
  | .recvSoftapPasswd passwd passwdLen => some (.ap, copyString Ap.password passwd passwdLen)
  | .recvSoftapMaxConnNum n => if n > 4 then none else some (.ap, assign Ap.maxConnection n)
  | .recvSoftapAuthMode m => if m ≥ wifiAuthMax then none else some (.ap, assignAuthmode m)
  | .recvSoftapChannel c => if c > 13 then none else some (.ap, assign Ap.channel c)
  | _ => none

theorem unless_recv [Decidable c] (h : (if c then none else some (j, ts)) = some (i, ss))
    (err : EspErr) : (if c then pure () else recv j ts err) = recv i ss err := by
  by_cases hc : c
  · rw [if_pos hc] at h
    cases h
  · rw [if_neg hc] at h
    cases h
    exact if_neg hc

theorem callback_recv {e : BlufiEvent} (h : e.stores = some (i, ss)) (env : CallbackEnv) :
    defaultBlufiCallback e env = recv i ss env.setConfig := by
  cases e with
  | recvStaBssid bssid => cases h; rfl
  | recvStaSsid ssid ssidLen => cases h; rfl
  | recvStaPasswd passwd passwdLen => cases h; rfl
  | recvSoftapSsid ssid ssidLen => cases h; rfl
  | recvSoftapPasswd passwd passwdLen => cases h; rfl
  | recvSoftapMaxConnNum n => exact unless_recv h env.setConfig
  | recvSoftapAuthMode m => exact unless_recv h env.setConfig
  | recvSoftapChannel c => exact unless_recv h env.setConfig
  | _ => cases h

def CallbackCall (e : BlufiEvent) : Call → Prop
  | .wifiConnect => e = .reqConnectToAp
  | .wifiDisconnect => True
  | .wifiSetMode _ => True
  | .wifiGetMode => True
  | .wifiSetConfig _ _ => True
  | .wifiScanStart => True
  | .bleGapStartAdvertising _ => True
  | .bleGapStopAdvertising => True
  | .blufiSendErrorInfo _ => True
  | .blufiSendWifiConnReport _ _ _ => True
  | .blufiClose _ _ => True
  | _ => False

/-- What the calls of the callback do not touch, nor its writes to the BLE class, is kept by it; of
the class it leaves the link flag alone. -/
theorem callback_keeps (hc : ∀ c err d, CallbackCall e c → I d → I (d.record c err))
    (hb : ∀ d b, b.glStaConnected = d.ble.glStaConnected → I d → I { d with ble := b })
    (env : CallbackEnv) : Keeps I (defaultBlufiCallback e env) := by
  have hcall (c : Call) (err : EspErr) (h : CallbackCall e c) : Keeps I (call c err) :=
    keeps_call fun d => hc c err d h
  have hone (c : Call) (err : EspErr) (h : CallbackCall e c) :
      Keeps I (call c err >>= fun _ => pure ()) :=
    .bind (hcall c err h) fun _ => .pure ()
  have hrecv (i : WifiInterface) (ss : List Store) (err : EspErr)
      (h : ∀ config, CallbackCall e (.wifiSetConfig i config)) : Keeps I (recv i ss err) :=
    .bind (.modify fun d => hb d _ (setConfig_glStaConnected d.ble _ i)) fun _ =>
      .get fun _ => hone _ err (h _)
  have hcheck (c : Call) (err : EspErr) (h : CallbackCall e c) : Keeps I (errorCheck c err) :=
    keeps_errorCheck fun d => hc c err d h
  cases e with
  | bleConnect serverIf connId =>
    exact .bind (.modify fun d => hb d _ rfl) fun _ => hone _ _ trivial
  | bleDisconnect => exact .get fun _ => hone _ _ trivial
  | setWifiOpmode opMode => exact hcheck _ _ trivial
  | reqConnectToAp => exact .bind (hcall _ _ trivial) fun _ => hone _ _ rfl
  | reqDisconnectFromAp => exact hone _ _ trivial
  | reportError state => exact hone _ _ trivial
  | getWifiStatus =>
    refine .bind (hcall _ _ trivial) fun _ => .get fun d => hone _ _ ?_
    split
    · trivial
    · trivial
  | recvSlaveDisconnectBle => exact .get fun _ => hone _ _ trivial
  | recvStaBssid bssid => exact hrecv _ _ _ fun _ => trivial
  | recvStaSsid ssid ssidLen => exact hrecv _ _ _ fun _ => trivial
  | recvStaPasswd passwd passwdLen => exact hrecv _ _ _ fun _ => trivial
  | recvSoftapSsid ssid ssidLen => exact hrecv _ _ _ fun _ => trivial
  | recvSoftapPasswd passwd passwdLen => exact hrecv _ _ _ fun _ => trivial
  | recvSoftapMaxConnNum n => exact .ite (.pure ()) (hrecv _ _ _ fun _ => trivial)
  | recvSoftapAuthMode m => exact .ite (.pure ()) (hrecv _ _ _ fun _ => trivial)
  | recvSoftapChannel c => exact .ite (.pure ()) (hrecv _ _ _ fun _ => trivial)
  | getWifiList => exact hcheck _ _ trivial
  | _ => exact .pure ()

theorem callback_none {e : BlufiEvent} (h : e.stores = none) (env : CallbackEnv) (d : Device) :
    (defaultBlufiCallback e env d).1.driver = d.driver ∧
      (defaultBlufiCallback e env d).1.ble.config = d.ble.config := by
  cases e with
  | recvSoftapMaxConnNum n =>
    have hn : n > 4 := by
      by_contra hn
      simp [BlufiEvent.stores, hn] at h
    rw [defaultBlufiCallback, if_pos hn]
    exact ⟨rfl, rfl⟩
  | recvSoftapAuthMode m =>
    have hm : m ≥ wifiAuthMax := by
      by_contra hm
      simp [BlufiEvent.stores, hm] at h
    rw [defaultBlufiCallback, if_pos hm]
    exact ⟨rfl, rfl⟩
  | recvSoftapChannel c =>
    have hc : c > 13 := by
      by_contra hc
      simp [BlufiEvent.stores, hc] at h
    rw [defaultBlufiCallback, if_pos hc]
    exact ⟨rfl, rfl⟩
  | recvStaBssid => cases h
  | recvStaSsid => cases h
  | recvStaPasswd => cases h
  | recvSoftapSsid => cases h
  | recvSoftapPasswd => cases h
  | getWifiStatus =>
    rw [defaultBlufiCallback, getWifiStatus, call_bind, get_bind]
    by_cases hc : d.ble.glStaConnected
    · simp [hc, Device.effect]
    · simp [hc, Device.effect]
  | setWifiOpmode opMode =>
    rw [defaultBlufiCallback, errorCheck_fst]
    exact ⟨rfl, rfl⟩
  | getWifiList =>
    rw [defaultBlufiCallback, errorCheck_fst]
    exact ⟨rfl, rfl⟩
  | _ => exact ⟨rfl, rfl⟩

end Ble

end LDM
