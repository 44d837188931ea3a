import LdmLib.DeviceRun

namespace LDM
set_option autoImplicit true

open Prog

inductive Phase where
  | notInit
  | stopped
  | idle
  | connecting
  | connected
  deriving DecidableEq, Repr

namespace Phase

/-- Where a call that returned `err` takes the driver. -/
def after (p : Phase) : Call × EspErr → Phase
  | (.wifiInit, err) => if err = .ok ∧ p = .notInit then .stopped else p
  | (.wifiStart, err) => if err = .ok ∧ p = .stopped then .idle else p
  | (.wifiStop, err) => if err = .ok ∧ p ≠ .notInit then .stopped else p
  | (.wifiDeinit, err) => if err = .ok then .notInit else p
  | (.wifiConnect, err) => if err = .ok ∧ p = .idle then .connecting else p
  | (.wifiDisconnect, err) =>
    if err = .ok ∧ (p = .connecting ∨ p = .connected) then .idle else p
  | _ => p

def associated : Phase → Phase
  | .connecting => .connected
  | p => p

def lost : Phase → Phase
  | .connecting => .idle
  | .connected => .idle
  | p => p

/-- What a call returns that would else return `err`: the driver refuses some calls. -/
def answer (p : Phase) (c : Call) (err : EspErr) : EspErr :=
  match c with
  | .wifiSetMode mode =>
    if p = .notInit then .errWifiNotInit else if mode ≥ wifiModeMax then .errInvalidArg else err
  | .wifiSetConfig .sta _ => if p = .connecting then .errWifiState else err
  | .wifiScanStart => if p = .connecting then .errWifiState else err
  | _ => err

theorem answer_setMode (p : Phase) (mode : WifiMode) (err : EspErr) :
    p.answer (.wifiSetMode mode) err = .ok ↔ p ≠ .notInit ∧ mode < wifiModeMax ∧ err = .ok := by
  simp only [answer]
  by_cases hp : p = .notInit
  · simp [hp]
  · by_cases hm : mode ≥ wifiModeMax
    · have hlt : ¬ mode < wifiModeMax := UInt8.not_lt.2 hm
      rw [if_neg hp, if_pos hm]
      simp [hlt]
    · have hlt : mode < wifiModeMax := UInt8.not_le.1 hm
      rw [if_neg hp, if_neg hm]
      simp [hp, hlt]

theorem answer_scanStart (p : Phase) (err : EspErr) :
    p.answer .wifiScanStart err = .ok ↔ p ≠ .connecting ∧ err = .ok := by
  unfold answer
  by_cases hp : p = .connecting
  · simp [hp]
  · simp [hp]

end Phase

structure Station where
  device : Device
  phase : Phase

namespace Station

/-- A step is an operation of the device, or the driver's own. -/
inductive Input where
  | op (op : Device.Op)
  | associated
  | lost

/-- The outcomes of the calls that the callback checks, as the driver gives them. -/
def answered (p : Phase) : Device.Op → Device.Op
  | .blufi (.setWifiOpmode opMode) env =>
    .blufi (.setWifiOpmode opMode)
      { env with setMode := p.answer (.wifiSetMode opMode) env.setMode }
  | .blufi .getWifiList env =>
    .blufi .getWifiList { env with scanStart := p.answer .wifiScanStart env.scanStart }
  | op => op

def callsSince (d d' : Device) : List (Call × EspErr) :=
  d'.log.take (d'.log.length - d.log.length)

def step (k : Kconfig) (s : Station) : Input → Station
  | .op op =>
    let d := s.device.step k (answered s.phase op)
    ⟨d, (callsSince s.device d).foldr (fun c p => p.after c) s.phase⟩
  | .associated => { s with phase := s.phase.associated }
  | .lost => { s with phase := s.phase.lost }

def boot (k : Kconfig) (r : Driver) : Station := ⟨Device.boot k r, .notInit⟩

def Returns (k : Kconfig) (s : Station) (i : Input) : Prop :=
  s.device.Running → ∀ e env, i = .op (.blufi e env) → (s.step k i).device.Running

/-- The messages whose call is checked for success come when the driver carries them out. -/
def PermittedIn (p : Phase) (env : Ble.CallbackEnv) : Ble.BlufiEvent → Prop
  | .setWifiOpmode opMode => p ≠ .notInit ∧ opMode < wifiModeMax ∧ env.setMode = .ok
  | .getWifiList => p ≠ .connecting ∧ env.scanStart = .ok
  | _ => True

def Permitted (s : Station) (i : Input) : Prop :=
  s.device.Running → ∀ e env, i = .op (.blufi e env) → PermittedIn s.phase env e

variable {d : Device}

theorem settle_errorCheck (h : d.Running) (c : Call) (err : EspErr) :
    (Device.settle (errorCheck c err d)).Running ↔ err = .ok := by
  by_cases he : err = .ok
  · rw [he]
    exact iff_of_true h rfl
  · have hr : errorCheck c err d = (d.record c err, none) := by
      rw [errorCheck, call_bind, if_neg he]
      rfl
    rw [hr]
    exact iff_of_false (fun hn => by cases hn) he

theorem settle_recv (h : d.Running) (i : WifiInterface) (ss : List Bytes.Store) (err : EspErr) :
    (Device.settle (Ble.recv i ss err d)).Running :=
  h

/-- Of all messages only two reach a check that can abort. -/
theorem callback_running (h : d.Running) (e : Ble.BlufiEvent) (env : Ble.CallbackEnv)
    (hm : ∀ mode, e ≠ .setWifiOpmode mode) (hl : e ≠ .getWifiList) :
    (Device.settle (Ble.defaultBlufiCallback e env d)).Running := by
  cases e with
  | setWifiOpmode mode => exact (hm mode rfl).elim
  | getWifiList => exact (hl rfl).elim
  | recvSoftapMaxConnNum n =>
    rw [Ble.defaultBlufiCallback]
    split
    · exact h
    · exact settle_recv h _ _ _
  | recvSoftapAuthMode m =>
    rw [Ble.defaultBlufiCallback]
    split
    · exact h
    · exact settle_recv h _ _ _
  | recvSoftapChannel c =>
    rw [Ble.defaultBlufiCallback]
    split
    · exact h
    · exact settle_recv h _ _ _
  | _ => exact h

theorem step_blufi_running (s : Station) (h : s.device.Running) (k : Kconfig)
    (e : Ble.BlufiEvent) (env : Ble.CallbackEnv) :
    (s.step k (.op (.blufi e env))).device.Running ↔ PermittedIn s.phase env e := by
  have hs (op : Device.Op) : s.device.step k op = op.run k s.device :=
    Device.step_running (Bool.eq_false_iff.1 h) k op
  by_cases hm : ∃ mode, e = .setWifiOpmode mode
  · obtain ⟨mode, rfl⟩ := hm
    rw [PermittedIn, ← Phase.answer_setMode, step, hs]
    exact settle_errorCheck h _ _
  · by_cases hl : e = .getWifiList
    · rw [hl, PermittedIn, ← Phase.answer_scanStart, step, hs]
      exact settle_errorCheck h _ _
    · have hm' := not_exists.1 hm
      have ha : answered s.phase (.blufi e env) = .blufi e env := by
        unfold answered
        split
        · rename_i he
          cases he
          exact (hm' _ rfl).elim
        · rename_i he
          cases he
          exact (hl rfl).elim
        · rfl
      have hp : PermittedIn s.phase env e := by
        unfold PermittedIn
        split
        · exact (hm' _ rfl).elim
        · exact (hl rfl).elim
        · trivial
      rw [step, ha, hs]
      exact iff_of_true (callback_running h e env hm' hl) hp

/-- In every run no message makes the callback abort exactly when each message whose call is
checked comes in a state of the driver that carries it out. -/
theorem callback_returns_iff (k : Kconfig) (r : Driver) (inputs : List Input) :
    Run.Guarded (step k) (Returns k) (boot k r) inputs ↔
      Run.Guarded (step k) Permitted (boot k r) inputs := by
  apply Run.Guarded.congr
  intro s i
  apply forall_congr'
  intro hr
  apply forall₂_congr
  rintro e env
  apply imp_congr_right
  rintro rfl
  exact s.step_blufi_running hr k e env

theorem scan_aborts : ¬ Run.Guarded (step Kconfig.defaults) (Returns Kconfig.defaults)
    (boot Kconfig.defaults ⟨fun _ => 0, fun _ => 0⟩)
    [.op (.init .sta WiFi.initOk), .op (.wifiEvent .staStart .ok),
      .op (.blufi .getWifiList Ble.callbackOk)] := by
  intro h
  have hs := h [.op (.init .sta WiFi.initOk), .op (.wifiEvent .staStart .ok)]
    (.op (.blufi .getWifiList Ble.callbackOk)) List.prefix_rfl rfl _ _ rfl
  revert hs
  decide

end Station

end LDM
