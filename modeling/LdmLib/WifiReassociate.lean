import LdmLib.DeviceRun

namespace LDM.WiFi
set_option autoImplicit true

open Bytes Prog

variable {d : Device}

def isConnect : Call × EspErr → Bool
  | (.wifiConnect, _) => true
  | _ => false

def connects (d : Device) : Nat := d.log.countP isConnect

theorem connects_record (h : isConnect (c, err) = false) :
    connects (d.record c err) = connects d := by
  apply List.countP_cons_of_neg
  rw [h]
  exact Bool.false_ne_true

theorem connects_record_connect (err : EspErr) :
    connects (d.record .wifiConnect err) = connects d + 1 :=
  List.countP_cons_of_pos rfl

theorem connects_call (hc : c ≠ .wifiConnect) (err : EspErr) (h : connects d = n) :
    connects (d.record c err) = n := by
  rw [connects_record, h]
  cases c with
  | wifiConnect => exact (hc rfl).elim
  | _ => rfl

theorem init_connects (k : Kconfig) (setup : WifiSetup) (env : InitEnv) (n : Nat) :
    Keeps (fun d => connects d = n) (init k setup env) := by
  apply init_keeps
  · intro c err d hc h
    apply connects_call _ err h
    rintro rfl
    exact hc
  · intro d n h
    exact h
  · intro d n h
    exact h
  · intro d n h
    exact h

theorem deinit_connects (env : DeinitEnv) (n : Nat) :
    Keeps (fun d => connects d = n) (deinit env) := by
  apply deinit_keeps
  · intro c err d hc h
    apply connects_call _ err h
    rintro rfl
    exact hc
  · intro d h
    exact h
  · intro d h
    exact h

theorem callback_connects (he : e ≠ .reqConnectToAp) (env : Ble.CallbackEnv) (n : Nat) :
    Keeps (fun d => connects d = n) (Ble.defaultBlufiCallback e env) := by
  apply Ble.callback_keeps
  · intro c err d hc h
    apply connects_call _ err h
    rintro rfl
    exact he hc
  · intro d b _ h
    exact h

theorem settle_connects (r : Device × Option α) : connects (Device.settle r) = connects r.1 := by
  rw [connects, Device.settle_log, connects]

/-- The operations after which the library may connect again. -/
def asksToConnect : Device.Op → Bool
  | .connect _ => true
  | .blufi .reqConnectToAp _ => true
  | .wifiEvent .staStart _ => true
  | _ => false

/-- The operations by which the user leaves the network. -/
def asksToLeave : Device.Op → Bool
  | .disconnect err => err = .ok
  | .blufi .reqDisconnectFromAp env => env.disconnect = .ok
  | _ => false

def losesLink : Device.Op → Bool
  | .wifiEvent .staDisconnected _ => true
  | _ => false

/-- Whether the user has left, where `l` tells it of the time before the operation. -/
def leaving (l : Bool) (d : Device) (op : Device.Op) : Bool :=
  if d.aborted then l else !asksToConnect op && (l || asksToLeave op)

def StaysAway (k : Kconfig) (p : Device × Bool) (op : Device.Op) : Prop :=
  p.2 = true → asksToConnect op = false → connects (p.1.step k op) = connects p.1

def NoLinkLost (p : Device × Bool) (op : Device.Op) : Prop :=
  p.2 = true → p.1.aborted = false → losesLink op = false

theorem staDisconnected_connects (err : EspErr) (d : Device) :
    connects (wifiEventHandler .staDisconnected err d).1 = connects d + 1 :=
  connects_record_connect err

/-- Apart from the operations that ask for it, only a lost link makes the library connect. -/
theorem run_connects (hc : asksToConnect op = false) (hl : losesLink op = false) (k : Kconfig)
    (d : Device) : connects (op.run k d) = connects d := by
  cases op with
  | init setup env => exact (settle_connects _).trans (init_connects k setup env _ d rfl)
  | deinit env => exact (settle_connects _).trans (deinit_connects env _ d rfl)
  | connect err => cases hc
  | disconnect err => exact connects_record rfl
  | setConfig i config err => exact connects_record rfl
  | setWifiMode mode err => exact connects_record rfl
  | initBlufi profile env =>
    have hk := Ble.initBlufi_keeps (I := fun d' => connects d' = connects d)
      (fun _ _ h => (connects_record rfl).trans h) (fun env => init_connects k .sta env _)
      profile env d rfl
    exact (settle_connects _).trans hk
  | initBlufiWith config profile env setConfigErr =>
    have hk := Ble.initBlufiWith_keeps (I := fun d' => connects d' = connects d)
      (fun _ _ h => (connects_record rfl).trans h) (fun env => init_connects k .sta env _)
      (fun _ _ _ h => (connects_record rfl).trans h) config profile env setConfigErr d rfl
    exact (settle_connects _).trans hk
  | deinitBlufi profile env =>
    have hk := Ble.deinitBlufi_keeps (I := fun d' => connects d' = connects d)
      (fun _ _ h => (connects_record rfl).trans h) (fun env => deinit_connects env _)
      profile env d rfl
    exact (settle_connects _).trans hk
  | setupDefaultBleGapCallback env =>
    exact (connects_record rfl).trans ((connects_record rfl).trans (connects_record rfl))
  | wifiEvent e err =>
    cases e with
    | staStart => cases hc
    | staDisconnected => cases hl
    | _ => rfl
  | ipEvent e =>
    cases e with
    | _ => rfl
  | blufi e env =>
    have he : e ≠ .reqConnectToAp := by
      rintro rfl
      cases hc
    exact (settle_connects _).trans (callback_connects he env _ d rfl)

theorem run_losesLink (hl : losesLink op = true) (k : Kconfig) (d : Device) :
    connects (op.run k d) = connects d + 1 := by
  cases op with
  | wifiEvent e err =>
    cases e with
    | staDisconnected => exact (settle_connects _).trans (staDisconnected_connects err d)
    | _ => cases hl
  | _ => cases hl

theorem asksToConnect_losesLink (hl : losesLink op = true) : asksToConnect op = false := by
  cases op with
  | wifiEvent e err =>
    cases e with
    | staDisconnected => rfl
    | _ => cases hl
  | _ => cases hl

theorem staysAway_iff (k : Kconfig) (p : Device × Bool) (op : Device.Op) :
    StaysAway k p op ↔ NoLinkLost p op := by
  apply imp_congr_right
  intro _
  by_cases ha : p.1.aborted = true
  · rw [Device.step_aborted ha, ha]
    exact iff_of_true (fun _ => rfl) fun hn => Bool.noConfusion hn
  · rw [Device.step_running ha]
    cases hl : losesLink op with
    | false => exact iff_of_true (fun hc => run_connects hc hl k p.1) fun _ => rfl
    | true =>
      apply iff_of_false
      · intro h
        have hn := h (asksToConnect_losesLink hl)
        rw [run_losesLink hl] at hn
        exact Nat.succ_ne_self _ hn
      · intro h
        exact Bool.noConfusion (h (by simpa using ha))

/-- Along a run the library keeps away from the network the user has left exactly when no lost link
is reported in that time. -/
theorem stays_away_iff (k : Kconfig) (r : Driver) (ops : List Device.Op) :
    Run.Guarded (Run.watch (Device.step k) leaving) (StaysAway k) (Device.boot k r, false) ops ↔
      Run.Guarded (Run.watch (Device.step k) leaving) NoLinkLost (Device.boot k r, false) ops :=
  Run.Guarded.congr (staysAway_iff k)

/-- The event that a successful `disconnect` brings about makes the library connect again. -/
theorem disconnect_undone :
    ¬ Run.Guarded (Run.watch (Device.step Kconfig.defaults) leaving) (StaysAway Kconfig.defaults)
      (Device.boot Kconfig.defaults ⟨fun _ => 0, fun _ => 0⟩, false)
      [.init .sta initOk, .wifiEvent .staStart .ok,
        .wifiEvent (.staConnected Mem.zero Mem.zero 4) .ok, .ipEvent (.staGotIp 1 2 3),
        .disconnect .ok, .wifiEvent .staDisconnected .ok] := by
  intro h
  have hs := h [.init .sta initOk, .wifiEvent .staStart .ok,
    .wifiEvent (.staConnected Mem.zero Mem.zero 4) .ok, .ipEvent (.staGotIp 1 2 3),
    .disconnect .ok] (.wifiEvent .staDisconnected .ok) List.prefix_rfl
  have hc := hs (by decide) rfl
  revert hc
  decide

end LDM.WiFi
