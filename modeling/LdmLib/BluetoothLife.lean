import LdmLib.Bluetooth

namespace LDM
set_option autoImplicit true

namespace Stack

def espBtSleepEnable (err : EspErr) (s : Stack) : Stack × EspErr :=
  call (s.controller.isEnabled = true) err s s

def espBtSleepDisable (err : EspErr) (s : Stack) : Stack × EspErr :=
  call (s.controller.isEnabled = true) err s s

def espBtDevGetAddress (address : Vector UInt8 6) (s : Stack) : Option (Vector UInt8 6) :=
  if s.bluedroid = .enabled then some address else none

theorem call_snd {ready : Prop} [Decidable ready] (err : EspErr) (after s : Stack) :
    (call ready err after s).2 = if ready then err else .errInvalidState := by
  unfold call
  split
  · split
    · rename_i he
      exact he.symm
    · rfl
  · rfl

end Stack

/-- An `esp_err_t` that is returned as a `bool`. -/
def EspErr.toBool (err : EspErr) : Bool := err.code != 0

@[simp] theorem EspErr.toBool_ok : EspErr.ok.toBool = false := rfl
@[simp] theorem EspErr.toBool_fail : EspErr.fail.toBool = true := rfl

namespace Bluetooth

def enableModemSleep (b : Bluetooth) (err : EspErr) : EspErr :=
  if b.controllerInitialized then (b.stack.espBtSleepEnable err).2 else .fail

def disableModemSleep (b : Bluetooth) (err : EspErr) : EspErr :=
  if b.controllerInitialized then (b.stack.espBtSleepDisable err).2 else .fail

/-- The controller is not asked. -/
def isSleeping (b : Bluetooth) : Bool :=
  if b.controllerInitialized then EspErr.ok.toBool else EspErr.fail.toBool

def getDeviceAddress (b : Bluetooth) (address : Vector UInt8 6) : Option (Vector UInt8 6) :=
  if b.controllerInitialized then b.stack.espBtDevGetAddress address else none

/-- How far the stack is, and what the flags of the object say of it. -/
structure View where
  controller : Controller
  bluedroid : Bluedroid
  controllerInitialized : Bool
  bluedroidInitialized : Bool
  deriving DecidableEq, Repr

def view (b : Bluetooth) : View where
  controller := b.stack.controller
  bluedroid := b.stack.bluedroid
  controllerInitialized := b.controllerInitialized
  bluedroidInitialized := b.bluedroidInitialized

/-- The stages of an object's life: two in which it is as a whole down or up, and five in which a
call that failed has left it in between. -/
inductive Life where
  | down
  | inited
  | enabled
  | host
  | up
  | torn
  | halted
  deriving DecidableEq, Repr

namespace Life

def view : Life → View
  | .down => ⟨.idle, .uninitialized, false, false⟩
  | .inited => ⟨.inited, .uninitialized, false, false⟩
  | .enabled => ⟨.enabled .ble, .uninitialized, true, false⟩
  | .host => ⟨.enabled .ble, .initialized, true, false⟩
  | .up => ⟨.enabled .ble, .enabled, true, true⟩
  | .torn => ⟨.enabled .ble, .initialized, true, true⟩
  | .halted => ⟨.inited, .uninitialized, true, false⟩

def afterInit (env : InitEnv) : Life → Life
  | .down =>
    if env.controllerInit ≠ .ok then .down
    else if env.controllerEnable ≠ .ok then .inited
    else if env.bluedroidInit ≠ .ok then .enabled
    else if env.bluedroidEnable ≠ .ok then .host
    else .up
  | l => l

def afterDeinit (env : DeinitEnv) : Life → Life
  | .up =>
    if env.bluedroidDisable ≠ .ok then .up
    else if env.bluedroidDeinit ≠ .ok then .torn
    else if env.controllerDisable ≠ .ok then .enabled
    else if env.controllerDeinit ≠ .ok then .halted
    else .down
  | l => l

def step (l : Life) : Op → Life
  | .init _ env => l.afterInit env
  | .bleInit env _ => l.afterInit env
  | .deinit env => l.afterDeinit env
  | .bleDeinit env => l.afterDeinit env

/-- What the two calls for modem sleep come back with, if the stack lets them through with `err`. -/
def sleepAnswer (err : EspErr) : Life → EspErr
  | .down | .inited => .fail
  | .halted => .errInvalidState
  | _ => err

/-- Neither down nor up. -/
def Dead (l : Life) : Prop := l ≠ .down ∧ l ≠ .up

instance : DecidablePred Dead := fun _ => inferInstanceAs (Decidable (_ ∧ _))

end Life

/-- The object is in this stage. -/
def In (l : Life) (b : Bluetooth) : Prop := b.view = l.view

variable {b : Bluetooth} {l : Life}

theorem In.stack (h : In l b) :
    b.stack.controller = l.view.controller ∧ b.stack.bluedroid = l.view.bluedroid :=
  ⟨congrArg View.controller h, congrArg View.bluedroid h⟩

theorem In.flags (h : In l b) : b.controllerInitialized = l.view.controllerInitialized ∧
    b.bluedroidInitialized = l.view.bluedroidInitialized :=
  ⟨congrArg View.controllerInitialized h, congrArg View.bluedroidInitialized h⟩

theorem In.init (h : In l b) (env : InitEnv) (m : BtMode) :
    In (l.afterInit env) (b.init env m).1 := by
  obtain ⟨hc, hb⟩ := h.stack
  obtain ⟨hf, hg⟩ := h.flags
  have hrefused (hne : l.view.controller ≠ .idle) : In l (b.init env m).1 := by
    rw [init_refused (hc.symm ▸ hne)]
    exact h
  cases l with
  | down =>
    have he := init_ends hc hb env m
    generalize b.init env m = r at he
    cases he with
    | controllerInit h1 =>
      rw [Life.afterInit, if_pos h1]
      exact h
    | controllerEnable h1 h2 => simp_all [In, Life.afterInit, Bluetooth.view, Life.view]
    | bluedroidInit h1 h2 h3 => simp_all [In, Life.afterInit, Bluetooth.view, Life.view]
    | bluedroidEnable h1 h2 h3 h4 => simp_all [In, Life.afterInit, Bluetooth.view, Life.view]
    | setDeviceName h1 h2 h3 h4 => simp_all [In, Life.afterInit, Bluetooth.view, Life.view]
  | _ => exact hrefused nofun

theorem In.deinit (h : In l b) (env : DeinitEnv) : In (l.afterDeinit env) (b.deinit env).1 := by
  obtain ⟨hc, hb⟩ := h.stack
  obtain ⟨hf, hg⟩ := h.flags
  have hrefused (hne : l.view.bluedroid ≠ .enabled) : In l (b.deinit env).1 := by
    rw [deinit_refused (hb.symm ▸ hne)]
    exact h
  cases l with
  | up =>
    have he := deinit_ends (by rw [hc]; rfl) hb env
    generalize b.deinit env = r at he
    cases he with
    | bluedroidDisable h1 =>
      rw [Life.afterDeinit, if_pos h1]
      exact h
    | bluedroidDeinit h1 h2 => simp_all [In, Life.afterDeinit, Bluetooth.view, Life.view]
    | controllerDisable h1 h2 h3 => simp_all [In, Life.afterDeinit, Bluetooth.view, Life.view]
    | controllerDeinit h1 h2 h3 h4 => simp_all [In, Life.afterDeinit, Bluetooth.view, Life.view]
    | done h1 h2 h3 h4 => simp_all [In, Life.afterDeinit, Bluetooth.view, Life.view]
  | _ => exact hrefused nofun

theorem In.step (h : In l b) (op : Op) : In (l.step op) (b.step op) := by
  cases op with
  | init m env => exact h.init env m
  | bleInit env e =>
    obtain ⟨name, he⟩ := bleInit_fst b env e
    change In _ (b.bleInit env e).1
    rw [he]
    exact h.init env .ble
  | deinit env => exact h.deinit env
  | bleDeinit env =>
    change In _ (b.bleDeinit env).1
    rw [bleDeinit_eq]
    exact h.deinit env

theorem In.run (h : In l b) (ops : List Op) :
    In (Run.run Life.step l ops) (Run.run Bluetooth.step b ops) := by
  induction ops generalizing l b with
  | nil => exact h
  | cons op ops ih => exact ih (h.step op)

theorem In.construct (name : String) (m : BtMode) : In .down (construct name m) := rfl

theorem Life.step_dead (h : l.Dead) (op : Op) : l.step op = l := by
  obtain ⟨hd, hu⟩ := h
  cases op with
  | init m env => cases l <;> first | rfl | contradiction
  | bleInit env e => cases l <;> first | rfl | contradiction
  | deinit env => cases l <;> first | rfl | contradiction
  | bleDeinit env => cases l <;> first | rfl | contradiction

theorem Life.run_dead (h : l.Dead) (ops : List Op) : Run.run Life.step l ops = l := by
  induction ops with
  | nil => rfl
  | cons op ops ih =>
    rw [Run.run_cons, Life.step_dead h, ih]

theorem In.refuses (h : In l b) (hd : l.Dead) (op : Op) : (b.apply op).2 = .errInvalidState := by
  obtain ⟨hc, hb⟩ := h.stack
  obtain ⟨hdown, hup⟩ := hd
  have hinit (env : InitEnv) (m : BtMode) : (b.init env m).2 = .errInvalidState := by
    have hne : b.stack.controller ≠ .idle := by
      rw [hc]
      cases l <;> first | contradiction | exact nofun
    rw [init_refused hne]
  have hdeinit (env : DeinitEnv) : (b.deinit env).2 = .errInvalidState := by
    have hne : b.stack.bluedroid ≠ .enabled := by
      rw [hb]
      cases l <;> first | contradiction | exact nofun
    rw [deinit_refused hne]
  cases op with
  | init m env => exact hinit env m
  | bleInit env e =>
    have hr : b.init env .ble = ((b.init env .ble).1, .errInvalidState) := by
      rw [← hinit env .ble]
    change (b.bleInit env e).2 = _
    rw [bleInit, hr, errCheck_fail EspErr.errInvalidState_ne_ok]
  | deinit env => exact hdeinit env
  | bleDeinit env =>
    change (b.bleDeinit env).2 = _
    rw [bleDeinit_eq, hdeinit env]

theorem life_follows (name : String) (m : BtMode) (ops : List Op) :
    In (Run.run Life.step .down ops) (Run.run step (construct name m) ops) :=
  (In.construct name m).run ops

/-- A whole object can be brought up again by some calls; a dead one is left as it is and refused
by every call, whatever was made before it. -/
theorem up_again_iff (name : String) (m : BtMode) (ops : List Op) :
    ((∃ ops', In .up (Run.run step (construct name m) (ops ++ ops'))) ↔
      ¬ (Run.run Life.step .down ops).Dead) ∧
    ((Run.run Life.step .down ops).Dead → ∀ ops' op,
      ((Run.run step (construct name m) (ops ++ ops')).apply op).2 = .errInvalidState) := by
  have hl := (In.construct name m).run ops
  have hrun (ops' : List Op) := hl.run ops'
  simp only [Run.run_append]
  generalize Run.run Life.step .down ops = l at hl hrun
  generalize Run.run step (construct name m) ops = b at hl hrun
  apply And.intro
  · apply Iff.intro
    · intro ⟨ops', hup⟩ hd
      have hin := hrun ops'
      rw [Life.run_dead hd] at hin
      have hv : l.view = Life.up.view := hin.symm.trans hup
      obtain ⟨-, hne⟩ := hd
      cases l <;> contradiction
    · intro hd
      rcases not_and_or.1 hd with hd | hu
      · refine ⟨[.init .ble initOk], ?_⟩
        rw [not_not.1 hd] at hl
        exact hl.run _
      · refine ⟨[], ?_⟩
        rw [not_not.1 hu] at hl
        exact hl
  · intro hd ops' op
    have hin := hrun ops'
    rw [Life.run_dead hd] at hin
    exact hin.refuses hd op

theorem services_answer (name : String) (m : BtMode) (ops : List Op) (err : EspErr)
    (address : Vector UInt8 6) :
    let b := Run.run step (construct name m) ops
    let l := Run.run Life.step .down ops
    b.enableModemSleep err = l.sleepAnswer err ∧ b.disableModemSleep err = l.sleepAnswer err ∧
      (b.isSleeping = true ↔ l = .down ∨ l = .inited) ∧
      b.getDeviceAddress address = (if l = .up then some address else none) ∧
      (b.isInitialized = true ↔ l = .up ∨ l = .torn) := by
  intro b l
  have hl : In l b := (In.construct name m).run ops
  obtain ⟨hc, hb⟩ := hl.stack
  obtain ⟨hf, hg⟩ := hl.flags
  clear_value b l
  simp only [enableModemSleep, disableModemSleep, isSleeping, getDeviceAddress, isInitialized,
    Stack.espBtSleepEnable, Stack.espBtSleepDisable, Stack.espBtDevGetAddress, Stack.call_snd, hc,
    hb, hf, hg]
  cases l <;> simp [Life.view, Life.sleepAnswer]

end Bluetooth

end LDM
