import LdmLib.Esp
import LdmLib.Run

namespace LDM
set_option autoImplicit true

inductive BtMode where
  | idle
  | ble
  | classicBt
  | btdm
  deriving DecidableEq, Repr

inductive Controller where
  | idle
  | inited
  | enabled (mode : BtMode)
  deriving DecidableEq, Repr

def Controller.isEnabled : Controller → Bool
  | .enabled _ => true
  | _ => false

@[simp] theorem Controller.isEnabled_idle : Controller.idle.isEnabled = false := rfl
@[simp] theorem Controller.isEnabled_inited : Controller.inited.isEnabled = false := rfl
@[simp] theorem Controller.isEnabled_enabled (m : BtMode) :
    (Controller.enabled m).isEnabled = true := rfl

inductive Bluedroid where
  | uninitialized
  | initialized
  | enabled
  deriving DecidableEq, Repr

/-- The ESP-IDF Bluetooth stack that the class drives: the controller and the Bluedroid host. -/
structure Stack where
  controller : Controller
  bluedroid : Bluedroid
  devName : Option String
  gapName : Option String
  deriving DecidableEq, Repr

namespace Stack

/-- A call needs the stack in one of its states and is refused in any other. In a right state it
returns `err`, and only a call that succeeds changes the stack. -/
def call (ready : Prop) [Decidable ready] (err : EspErr) (after s : Stack) : Stack × EspErr :=
  if ready then
    if err = .ok then (after, .ok) else (s, err)
  else (s, .errInvalidState)

theorem call_refused {ready : Prop} [Decidable ready] (h : ¬ ready) (err : EspErr)
    (after s : Stack) : call ready err after s = (s, .errInvalidState) :=
  if_neg h

theorem call_done {ready : Prop} [Decidable ready] (h : ready) (he : err = .ok)
    (after s : Stack) : call ready err after s = (after, .ok) := by
  simp only [call, if_pos h, if_pos he]

def espBtControllerInit (err : EspErr) (s : Stack) : Stack × EspErr :=
  call (s.controller = .idle) err { s with controller := .inited } s

def espBtControllerEnable (mode : BtMode) (err : EspErr) (s : Stack) : Stack × EspErr :=
  call (s.controller = .inited) err { s with controller := .enabled mode } s

def espBtControllerDisable (err : EspErr) (s : Stack) : Stack × EspErr :=
  call (s.controller.isEnabled = true) err { s with controller := .inited } s

def espBtControllerDeinit (err : EspErr) (s : Stack) : Stack × EspErr :=
  call (s.controller = .inited) err { s with controller := .idle } s

def espBluedroidInit (err : EspErr) (s : Stack) : Stack × EspErr :=
  call (s.bluedroid = .uninitialized ∧ s.controller.isEnabled = true) err
    { s with bluedroid := .initialized } s

def espBluedroidEnable (err : EspErr) (s : Stack) : Stack × EspErr :=
  call (s.bluedroid = .initialized) err { s with bluedroid := .enabled } s

def espBluedroidDisable (err : EspErr) (s : Stack) : Stack × EspErr :=
  call (s.bluedroid = .enabled) err { s with bluedroid := .initialized } s

def espBluedroidDeinit (err : EspErr) (s : Stack) : Stack × EspErr :=
  call (s.bluedroid = .initialized) err { s with bluedroid := .uninitialized } s

def espBtDevSetDeviceName (name : String) (err : EspErr) (s : Stack) : Stack × EspErr :=
  call (s.bluedroid = .enabled) err { s with devName := some name } s

def espBleGapSetDeviceName (name : String) (err : EspErr) (s : Stack) : Stack × EspErr :=
  call (s.bluedroid = .enabled) err { s with gapName := some name } s

end Stack

/-- An object of class `Bluetooth` (or of its subclass `BLE`) with the stack under it. -/
structure Bluetooth where
  btMode : BtMode
  controllerInitialized : Bool
  bluedroidInitialized : Bool
  deviceName : String
  stack : Stack
  deriving DecidableEq, Repr

namespace Bluetooth

structure InitEnv where
  controllerInit : EspErr
  controllerEnable : EspErr
  bluedroidInit : EspErr
  bluedroidEnable : EspErr
  setDeviceName : EspErr
  deriving DecidableEq, Repr

structure DeinitEnv where
  bluedroidDisable : EspErr
  bluedroidDeinit : EspErr
  controllerDisable : EspErr
  controllerDeinit : EspErr
  deriving DecidableEq, Repr

def initOk : InitEnv := ⟨.ok, .ok, .ok, .ok, .ok⟩

def deinitOk : DeinitEnv := ⟨.ok, .ok, .ok, .ok⟩

/-- The constructor assigns no `bt_mode`; it finds the stack down. -/
def construct (deviceName : String) (btMode : BtMode) : Bluetooth where
  btMode := btMode
  controllerInitialized := false
  bluedroidInitialized := false
  deviceName := deviceName
  stack := ⟨.idle, .uninitialized, none, none⟩

def onStack (b : Bluetooth) (f : Stack → Stack × EspErr) : Bluetooth × EspErr :=
  ({ b with stack := (f b.stack).1 }, (f b.stack).2)

def initializeController (b : Bluetooth) (env : InitEnv) (btMode : BtMode := .ble) :
    Bluetooth × EspErr :=
  let b := { b with btMode := btMode }
  errCheck (b.onStack (Stack.espBtControllerInit env.controllerInit)) fun b =>
  errCheck (b.onStack (Stack.espBtControllerEnable b.btMode env.controllerEnable)) fun b =>
  ({ b with controllerInitialized := true }, .ok)

def initializeBluedroid (b : Bluetooth) (env : InitEnv) : Bluetooth × EspErr :=
  errCheck (b.onStack (Stack.espBluedroidInit env.bluedroidInit)) fun b =>
  errCheck (b.onStack (Stack.espBluedroidEnable env.bluedroidEnable)) fun b =>
  ({ b with bluedroidInitialized := true }, .ok)

/-- The argument is not handed on: `initializeController` runs with its default, BLE mode. -/
def init (b : Bluetooth) (env : InitEnv) (_btMode : BtMode := .ble) : Bluetooth × EspErr :=
  errCheck (b.initializeController env) fun b =>
  errCheck (b.initializeBluedroid env) fun b =>
  errCheck (b.onStack (Stack.espBtDevSetDeviceName b.deviceName env.setDeviceName)) fun b =>
  ({ b with controllerInitialized := true }, .ok)

def deinitializeController (b : Bluetooth) (env : DeinitEnv) : Bluetooth × EspErr :=
  errCheck (b.onStack (Stack.espBtControllerDisable env.controllerDisable)) fun b =>
  errCheck (b.onStack (Stack.espBtControllerDeinit env.controllerDeinit)) fun b =>
  ({ b with controllerInitialized := false }, .ok)

def deinitializeBluedroid (b : Bluetooth) (env : DeinitEnv) : Bluetooth × EspErr :=
  errCheck (b.onStack (Stack.espBluedroidDisable env.bluedroidDisable)) fun b =>
  errCheck (b.onStack (Stack.espBluedroidDeinit env.bluedroidDeinit)) fun b =>
  ({ b with bluedroidInitialized := false }, .ok)

def deinit (b : Bluetooth) (env : DeinitEnv) : Bluetooth × EspErr :=
  errCheck (b.deinitializeBluedroid env) fun b =>
  errCheck (b.deinitializeController env) fun b =>
  (b, .ok)

def isInitialized (b : Bluetooth) : Bool := b.bluedroidInitialized && b.controllerInitialized

/-- `BLE::init`; its `device_name` is the string the base class was built with. -/
def bleInit (b : Bluetooth) (env : InitEnv) (gapName : EspErr) : Bluetooth × EspErr :=
  errCheck (b.init env .ble) fun b =>
  errCheck (b.onStack (Stack.espBleGapSetDeviceName b.deviceName gapName)) fun b =>
  (b, .ok)

def bleDeinit (b : Bluetooth) (env : DeinitEnv) : Bluetooth × EspErr :=
  errCheck (b.deinit env) fun b => (b, .ok)

inductive Op where
  | init (btMode : BtMode) (env : InitEnv)
  | deinit (env : DeinitEnv)
  | bleInit (env : InitEnv) (gapName : EspErr)
  | bleDeinit (env : DeinitEnv)
  deriving DecidableEq, Repr

def apply (b : Bluetooth) : Op → Bluetooth × EspErr
  | .init btMode env => b.init env btMode
  | .deinit env => b.deinit env
  | .bleInit env gapName => b.bleInit env gapName
  | .bleDeinit env => b.bleDeinit env

def step (b : Bluetooth) (op : Op) : Bluetooth := (b.apply op).1

variable {b : Bluetooth}

@[simp] theorem bleDeinit_eq (b : Bluetooth) (env : DeinitEnv) : b.bleDeinit env = b.deinit env :=
  errCheck_pure _

theorem init_refused (hc : b.stack.controller ≠ .idle) (env : InitEnv) (m : BtMode) :
    b.init env m = ({ b with btMode := .ble }, .errInvalidState) := by
  have hr : ({ b with btMode := .ble } : Bluetooth).onStack
      (Stack.espBtControllerInit env.controllerInit) =
      ({ b with btMode := .ble }, .errInvalidState) := by
    simp only [onStack, Stack.espBtControllerInit, Stack.call_refused hc]
  have hi : b.initializeController env = ({ b with btMode := .ble }, .errInvalidState) := by
    simp only [initializeController, hr, errCheck_fail EspErr.errInvalidState_ne_ok]
  simp only [init, hi, errCheck_fail EspErr.errInvalidState_ne_ok]

theorem deinit_refused (hb : b.stack.bluedroid ≠ .enabled) (env : DeinitEnv) :
    b.deinit env = (b, .errInvalidState) := by
  have hr : b.onStack (Stack.espBluedroidDisable env.bluedroidDisable) =
      (b, .errInvalidState) := by
    simp only [onStack, Stack.espBluedroidDisable, Stack.call_refused hb]
  have hi : b.deinitializeBluedroid env = (b, .errInvalidState) := by
    simp only [deinitializeBluedroid, hr, errCheck_fail EspErr.errInvalidState_ne_ok]
  simp only [deinit, hi, errCheck_fail EspErr.errInvalidState_ne_ok]

/-- The ways `init` can end on a stack that is down, one for each call that can fail first. -/
inductive InitEnds (b : Bluetooth) (env : InitEnv) : Bluetooth × EspErr → Prop where
  | controllerInit (he : env.controllerInit ≠ .ok) :
      InitEnds b env ({ b with btMode := .ble }, env.controllerInit)
  | controllerEnable (h1 : env.controllerInit = .ok) (he : env.controllerEnable ≠ .ok) :
      InitEnds b env ({ b with
        btMode := .ble
        stack := { b.stack with controller := .inited } }, env.controllerEnable)
  | bluedroidInit (h1 : env.controllerInit = .ok) (h2 : env.controllerEnable = .ok)
      (he : env.bluedroidInit ≠ .ok) :
      InitEnds b env ({ b with
        btMode := .ble
        controllerInitialized := true
        stack := { b.stack with controller := .enabled .ble } }, env.bluedroidInit)
  | bluedroidEnable (h1 : env.controllerInit = .ok) (h2 : env.controllerEnable = .ok)
      (h3 : env.bluedroidInit = .ok) (he : env.bluedroidEnable ≠ .ok) :
      InitEnds b env ({ b with
        btMode := .ble
        controllerInitialized := true
        stack := { b.stack with
          controller := .enabled .ble
          bluedroid := .initialized } }, env.bluedroidEnable)
  | setDeviceName (h1 : env.controllerInit = .ok) (h2 : env.controllerEnable = .ok)
      (h3 : env.bluedroidInit = .ok) (h4 : env.bluedroidEnable = .ok) (name : Option String) :
      InitEnds b env ({ b with
        btMode := .ble
        controllerInitialized := true
        bluedroidInitialized := true
        stack := { b.stack with
          controller := .enabled .ble
          bluedroid := .enabled
          devName := name } }, env.setDeviceName)

theorem init_ends (hc : b.stack.controller = .idle) (hb : b.stack.bluedroid = .uninitialized)
    (env : InitEnv) (m : BtMode) : InitEnds b env (b.init env m) := by
  simp only [init, initializeController, initializeBluedroid, onStack, errCheck,
    Stack.espBtControllerInit, Stack.espBtControllerEnable, Stack.espBluedroidInit,
    Stack.espBluedroidEnable, Stack.espBtDevSetDeviceName]
  by_cases h1 : env.controllerInit = .ok
  · by_cases h2 : env.controllerEnable = .ok
    · by_cases h3 : env.bluedroidInit = .ok
      · by_cases h4 : env.bluedroidEnable = .ok
        · by_cases h5 : env.setDeviceName = .ok
          · have he := InitEnds.setDeviceName (b := b) h1 h2 h3 h4 (some b.deviceName)
            simpa [Stack.call, hc, hb, h1, h2, h3, h4, h5] using he
          · have he := InitEnds.setDeviceName (b := b) h1 h2 h3 h4 b.stack.devName
            simpa [Stack.call, hc, hb, h1, h2, h3, h4, h5] using he
        · simpa [Stack.call, hc, hb, h1, h2, h3, h4] using
            InitEnds.bluedroidEnable (b := b) h1 h2 h3 h4
      · simpa [Stack.call, hc, hb, h1, h2, h3] using InitEnds.bluedroidInit (b := b) h1 h2 h3
    · simpa [Stack.call, hc, hb, h1, h2] using InitEnds.controllerEnable (b := b) h1 h2
  · simpa [Stack.call, hc, hb, h1] using InitEnds.controllerInit (b := b) h1

inductive DeinitEnds (b : Bluetooth) (env : DeinitEnv) : Bluetooth × EspErr → Prop where
  | bluedroidDisable (he : env.bluedroidDisable ≠ .ok) :
      DeinitEnds b env (b, env.bluedroidDisable)
  | bluedroidDeinit (h1 : env.bluedroidDisable = .ok) (he : env.bluedroidDeinit ≠ .ok) :
      DeinitEnds b env ({ b with
        stack := { b.stack with bluedroid := .initialized } }, env.bluedroidDeinit)
  | controllerDisable (h1 : env.bluedroidDisable = .ok) (h2 : env.bluedroidDeinit = .ok)
      (he : env.controllerDisable ≠ .ok) :
      DeinitEnds b env ({ b with
        bluedroidInitialized := false
        stack := { b.stack with bluedroid := .uninitialized } }, env.controllerDisable)
  | controllerDeinit (h1 : env.bluedroidDisable = .ok) (h2 : env.bluedroidDeinit = .ok)
      (h3 : env.controllerDisable = .ok) (he : env.controllerDeinit ≠ .ok) :
      DeinitEnds b env ({ b with
        bluedroidInitialized := false
        stack := { b.stack with
          controller := .inited
          bluedroid := .uninitialized } }, env.controllerDeinit)
  | done (h1 : env.bluedroidDisable = .ok) (h2 : env.bluedroidDeinit = .ok)
      (h3 : env.controllerDisable = .ok) (h4 : env.controllerDeinit = .ok) :
      DeinitEnds b env ({ b with
        controllerInitialized := false
        bluedroidInitialized := false
        stack := { b.stack with
          controller := .idle
          bluedroid := .uninitialized } }, .ok)

theorem deinit_ends (hc : b.stack.controller.isEnabled = true)
    (hb : b.stack.bluedroid = .enabled) (env : DeinitEnv) : DeinitEnds b env (b.deinit env) := by
  simp only [deinit, deinitializeController, deinitializeBluedroid, onStack, errCheck,
    Stack.espBtControllerDisable, Stack.espBtControllerDeinit, Stack.espBluedroidDisable,
    Stack.espBluedroidDeinit]
  by_cases h1 : env.bluedroidDisable = .ok
  · by_cases h2 : env.bluedroidDeinit = .ok
    · by_cases h3 : env.controllerDisable = .ok
      · by_cases h4 : env.controllerDeinit = .ok
        · simpa [Stack.call, hc, hb, h1, h2, h3, h4] using
            DeinitEnds.done (b := b) h1 h2 h3 h4
        · simpa [Stack.call, hc, hb, h1, h2, h3, h4] using
            DeinitEnds.controllerDeinit (b := b) h1 h2 h3 h4
      · simpa [Stack.call, hc, hb, h1, h2, h3] using
          DeinitEnds.controllerDisable (b := b) h1 h2 h3
    · simpa [Stack.call, hc, hb, h1, h2] using DeinitEnds.bluedroidDeinit (b := b) h1 h2
  · simpa [Stack.call, hc, hb, h1] using DeinitEnds.bluedroidDisable (b := b) h1

theorem bleInit_fst (b : Bluetooth) (env : InitEnv) (e : EspErr) :
    ∃ name, (b.bleInit env e).1 = { (b.init env .ble).1 with
      stack := { (b.init env .ble).1.stack with gapName := name } } := by
  unfold bleInit errCheck
  split
  · simp only [onStack, Stack.espBleGapSetDeviceName, Stack.call]
    split
    · split
      · exact ⟨_, rfl⟩
      · exact ⟨_, rfl⟩
    · exact ⟨_, rfl⟩
  · exact ⟨_, rfl⟩

/-- The Bluedroid host is only ever up on an enabled controller. -/
def Layered (b : Bluetooth) : Prop :=
  b.stack.bluedroid ≠ .uninitialized → b.stack.controller.isEnabled = true

theorem Layered.down (h : b.Layered) (hc : b.stack.controller = .idle) :
    b.stack.bluedroid = .uninitialized := by
  by_contra hb
  simpa [hc] using h hb

theorem Layered.init (h : b.Layered) (env : InitEnv) (m : BtMode) : (b.init env m).1.Layered := by
  by_cases hc : b.stack.controller = .idle
  · have hb := h.down hc
    have he := init_ends hc hb env m
    generalize b.init env m = r at he
    cases he with
    | controllerInit => exact h
    | controllerEnable => exact fun hn => absurd hb hn
    | bluedroidInit => exact fun _ => rfl
    | bluedroidEnable => exact fun _ => rfl
    | setDeviceName => exact fun _ => rfl
  · rw [init_refused hc]
    exact h

theorem Layered.deinit (h : b.Layered) (env : DeinitEnv) : (b.deinit env).1.Layered := by
  by_cases hb : b.stack.bluedroid = .enabled
  · have hc : b.stack.controller.isEnabled = true := h (by simp [hb])
    have he := deinit_ends hc hb env
    generalize b.deinit env = r at he
    cases he with
    | bluedroidDisable => exact h
    | bluedroidDeinit => exact fun _ => hc
    | controllerDisable => exact fun hn => absurd rfl hn
    | controllerDeinit => exact fun hn => absurd rfl hn
    | done => exact fun hn => absurd rfl hn
  · rw [deinit_refused hb]
    exact h

theorem Layered.step (h : b.Layered) (op : Op) : (b.step op).Layered := by
  cases op with
  | init m env => exact h.init env m
  | deinit env => exact h.deinit env
  | bleInit env e =>
    obtain ⟨name, he⟩ := bleInit_fst b env e
    change (b.bleInit env e).1.Layered
    rw [he]
    exact h.init env .ble
  | bleDeinit env =>
    change (b.bleDeinit env).1.Layered
    rw [bleDeinit_eq]
    exact h.deinit env

theorem construct_layered (name : String) (m : BtMode) : (construct name m).Layered :=
  fun hn => absurd rfl hn

end Bluetooth

end LDM
