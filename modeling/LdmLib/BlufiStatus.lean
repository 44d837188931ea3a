import LdmLib.DeviceRun

namespace LDM.Ble
set_option autoImplicit true

open Bytes Prog

structure Link where
  bssid : Mem
  ssid : Mem
  ssidLen : UInt8

/-- The link as the latest link event tells of it. -/
def linkAfter (l : Option Link) : Device.Op → Option Link
  | .wifiEvent (.staConnected bssid ssid ssidLen) _ => some ⟨bssid, ssid, ssidLen⟩
  | .wifiEvent .staDisconnected _ => none
  | _ => l

def seeLink (l : Option Link) (d : Device) (op : Device.Op) : Option Link :=
  if d.aborted then l else linkAfter l op

def Reported (state : ConnState) (info : Option ExtraInfo) : Option Link → Prop
  | none => state = .fail
  | some l => state = .success ∧ ∃ i, info = some i ∧ i.staBssid = l.bssid.read 6 ∧
      i.staSsid.read l.ssidLen.toNat = l.ssid.read l.ssidLen.toNat ∧
      i.staSsidLen = l.ssidLen.toNat

def ReportsLink (k : Kconfig) (p : Device × Option Link) (op : Device.Op) : Prop :=
  p.1.Running → ∀ env, op = .blufi .getWifiStatus env → ∃ mode state info err,
    (p.1.step k op).log.head? = some (.blufiSendWifiConnReport mode state info, err) ∧
      Reported state info p.2

def AskedUnlinked (p : Device × Option Link) (op : Device.Op) : Prop :=
  p.1.Running → ∀ env, op = .blufi .getWifiStatus env → p.2 = none

variable {d : Device} {I : Device → Prop}

theorem init_ble (k : Kconfig) (setup : WifiSetup) (env : WiFi.InitEnv) (b : Ble) :
    Keeps (fun d => d.ble = b) (WiFi.init k setup env) :=
  WiFi.init_keeps (fun _ _ _ _ h => h) (fun _ _ h => h) (fun _ _ h => h) (fun _ _ h => h) k env

theorem deinit_ble (env : WiFi.DeinitEnv) (b : Ble) :
    Keeps (fun d => d.ble = b) (WiFi.deinit env) :=
  WiFi.deinit_keeps (fun _ _ _ _ h => h) (fun _ h => h) (fun _ h => h) env

theorem wifiEvent_ble (e : WiFi.WifiEvent) (err : EspErr) (d : Device) :
    (WiFi.wifiEventHandler e err d).1.ble = d.ble := by
  cases e with
  | _ => rfl

theorem callback_glStaConnected (e : BlufiEvent) (env : CallbackEnv) (d : Device) :
    (defaultBlufiCallback e env d).1.ble.glStaConnected = d.ble.glStaConnected :=
  Keeps.frame (g := fun d : Device => d.ble.glStaConnected)
    (fun _ => callback_keeps (fun _ _ _ _ h => h) (fun _ _ hb h => hb.trans h) env) d

/-- No operation ever raises the flag of the BLE class. -/
theorem run_glStaConnected (h : d.ble.glStaConnected = false) (k : Kconfig) (op : Device.Op) :
    (op.run k d).ble.glStaConnected = false := by
  have hframe {d' : Device} (hb : d'.ble = d.ble) : d'.ble.glStaConnected = false := by
    rw [hb]
    exact h
  cases op with
  | init setup env => exact hframe ((Device.settle_ble _).trans (init_ble k setup env _ d rfl))
  | deinit env => exact hframe ((Device.settle_ble _).trans (deinit_ble env _ d rfl))
  | connect err =>
    apply hframe
    rw [Device.Op.run, WiFi.connect_apply]
    rfl
  | disconnect err => exact h
  | setConfig i config err => exact h
  | setWifiMode mode err => exact h
  | initBlufi profile env =>
    have hk := initBlufi_keeps (I := fun d' => d'.ble = d.ble) (fun _ _ h => h)
      (fun env => init_ble k .sta env _) profile env d rfl
    exact hframe ((Device.settle_ble _).trans hk)
  | initBlufiWith config profile env setConfigErr =>
    have hk := initBlufiWith_keeps (I := fun d' => d'.ble = d.ble) (fun _ _ h => h)
      (fun env => init_ble k .sta env _) (fun _ _ _ h => h) config profile env setConfigErr d rfl
    exact hframe ((Device.settle_ble _).trans hk)
  | deinitBlufi profile env =>
    have hk := deinitBlufi_keeps (I := fun d' => d'.ble = d.ble) (fun _ _ h => h)
      (fun env => deinit_ble env _) profile env d rfl
    exact hframe ((Device.settle_ble _).trans hk)
  | setupDefaultBleGapCallback env => rfl
  | wifiEvent e err => exact hframe ((Device.settle_ble _).trans (wifiEvent_ble e err d))
  | ipEvent e =>
    cases e with
    | _ => exact h
  | blufi e env =>
    rw [Device.Op.run, Device.settle_ble, callback_glStaConnected]
    exact h

/-- After the setup the flag of the BLE class is down for good. -/
def NeverLinked (p : Device × Option Link) : Prop :=
  p.1.Running → p.1.ble.glStaConnected = false

variable {p : Device × Option Link}

theorem NeverLinked.step (h : NeverLinked p) (k : Kconfig) (op : Device.Op) :
    NeverLinked (Run.watch (Device.step k) seeLink p op) := by
  intro hr
  by_cases ha : p.1.aborted = true
  · have hs : (Run.watch (Device.step k) seeLink p op).1 = p.1 := Device.step_aborted ha k op
    rw [hs] at hr ⊢
    exact h hr
  · have hs : (Run.watch (Device.step k) seeLink p op).1 = op.run k p.1 :=
      Device.step_running ha k op
    rw [hs]
    exact run_glStaConnected (h (Bool.eq_false_iff.2 ha)) k op

theorem setup_neverLinked (k : Kconfig) (d : Device) (env : GapEnv) :
    NeverLinked (d.step k (.setupDefaultBleGapCallback env), none) := by
  intro hr
  by_cases ha : d.aborted = true
  · rw [Device.step_aborted ha] at hr
    exact (Bool.false_ne_true (hr.symm.trans ha)).elim
  · rw [Device.step_running ha]
    rfl

theorem getWifiStatus_report (h : d.ble.glStaConnected = false) (env : CallbackEnv) :
    (Device.settle (defaultBlufiCallback .getWifiStatus env d)).log.head? =
      some (.blufiSendWifiConnReport env.mode .fail none, env.blufi) := by
  rw [Device.settle_log, defaultBlufiCallback, getWifiStatus, call_bind, get_bind]
  simp [h]

/-- The report is always that of a failed connection, so it is right when there is none. -/
theorem NeverLinked.reports_iff (h : NeverLinked p) (k : Kconfig) (op : Device.Op) :
    ReportsLink k p op ↔ AskedUnlinked p op := by
  apply forall_congr'
  intro hr
  apply forall₂_congr
  rintro env rfl
  have hlog := getWifiStatus_report (h hr) env
  rw [Device.step_running (Bool.eq_false_iff.1 hr), Device.Op.run, hlog]
  apply Iff.intro
  · rintro ⟨mode, state, info, err, he, hs⟩
    cases he
    cases hp : p.2 with
    | none => rfl
    | some l =>
      rw [hp] at hs
      cases hs.1
  · intro hp
    exact ⟨_, _, _, _, rfl, by rw [hp]; rfl⟩

/-- After the setup every report is right exactly when the status is only asked for while there is
no link. -/
theorem link_reported_iff (k : Kconfig) (d : Device) (env : GapEnv) (ops : List Device.Op) :
    Run.Guarded (Run.watch (Device.step k) seeLink) (ReportsLink k)
        (d.step k (.setupDefaultBleGapCallback env), none) ops ↔
      Run.Guarded (Run.watch (Device.step k) seeLink) AskedUnlinked
        (d.step k (.setupDefaultBleGapCallback env), none) ops := by
  apply Run.Guarded.congr_invariant (setup_neverLinked k d env)
  · intro p op h
    exact h.step k op
  · intro p op h
    exact h.reports_iff k op

theorem link_not_reported : ¬ Run.Guarded (Run.watch (Device.step Kconfig.defaults) seeLink)
    (ReportsLink Kconfig.defaults)
    ((Device.boot Kconfig.defaults ⟨fun _ => 0, fun _ => 0⟩).step Kconfig.defaults
      (.setupDefaultBleGapCallback ⟨.ok, .ok, .ok⟩), none)
    [.wifiEvent (.staConnected Mem.zero Mem.zero 4) .ok, .blufi .getWifiStatus callbackOk] := by
  intro h
  have hs := h [.wifiEvent (.staConnected Mem.zero Mem.zero 4) .ok]
    (.blufi .getWifiStatus callbackOk) List.prefix_rfl rfl callbackOk rfl
  obtain ⟨mode, state, info, err, he, hs⟩ := hs
  cases he
  cases hs.1

end LDM.Ble
