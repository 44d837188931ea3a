import LdmLib.Bluetooth

namespace LDM.Bluetooth
set_option autoImplicit true

structure CameUp (r : Bluetooth × EspErr) : Prop where
  ok : r.2 = .ok
  controller : r.1.stack.controller.isEnabled = true
  bluedroid : r.1.stack.bluedroid = .enabled

/-- `deinit`, whatever it returns, and then `init`, with every underlying call succeeding where the
stack is ready for it, bring the whole stack up. -/
def Recovers (b : Bluetooth) : Prop :=
  (∀ m, CameUp ((b.deinit deinitOk).1.init initOk m)) ∧
    CameUp ((b.deinit deinitOk).1.bleInit initOk .ok)

def BringsUp (env : InitEnv) : Prop :=
  env.controllerInit = .ok ∧ env.controllerEnable = .ok ∧ env.bluedroidInit = .ok ∧
    env.bluedroidEnable = .ok

def BringsDown (env : DeinitEnv) : Prop :=
  env.bluedroidDeinit = .ok ∧ env.controllerDisable = .ok ∧ env.controllerDeinit = .ok

/-- The stack is wholly up or wholly down before the call, and the call is not cut off between its
first and its last change of the stack. -/
def FailsCleanly (b : Bluetooth) : Op → Prop
  | .init _ env => b.stack.bluedroid = .enabled ∨
      b.stack.controller = .idle ∧ (env.controllerInit ≠ .ok ∨ BringsUp env)
  | .bleInit env _ => b.stack.bluedroid = .enabled ∨
      b.stack.controller = .idle ∧ (env.controllerInit ≠ .ok ∨ BringsUp env)
  | .deinit env => b.stack.controller = .idle ∨
      b.stack.bluedroid = .enabled ∧ (env.bluedroidDisable ≠ .ok ∨ BringsDown env)
  | .bleDeinit env => b.stack.controller = .idle ∨
      b.stack.bluedroid = .enabled ∧ (env.bluedroidDisable ≠ .ok ∨ BringsDown env)

variable {b : Bluetooth} {env : InitEnv} {m : BtMode}

theorem init_down (hc : b.stack.controller = .idle) (hb : b.stack.bluedroid = .uninitialized)
    (m : BtMode) : CameUp (b.init initOk m) := by
  have he := init_ends hc hb initOk m
  generalize b.init initOk m = r at he
  cases he with
  | controllerInit he => exact (he rfl).elim
  | controllerEnable _ he => exact (he rfl).elim
  | bluedroidInit _ _ he => exact (he rfl).elim
  | bluedroidEnable _ _ _ he => exact (he rfl).elim
  | setDeviceName => exact ⟨rfl, rfl, rfl⟩

theorem bleInit_down (hc : b.stack.controller = .idle) (hb : b.stack.bluedroid = .uninitialized) :
    CameUp (b.bleInit initOk .ok) := by
  obtain ⟨h1, h2, h3⟩ := init_down hc hb .ble
  have hg : (b.bleInit initOk .ok).2 = .ok := by
    simp only [bleInit, errCheck, if_pos h1, onStack, Stack.espBleGapSetDeviceName,
      Stack.call_done h3]
    rfl
  obtain ⟨name, hn⟩ := bleInit_fst b initOk .ok
  exact ⟨hg, by rw [hn]; exact h2, by rw [hn]; exact h3⟩

theorem deinit_down (hl : b.Layered)
    (h : b.stack.controller = .idle ∨ b.stack.bluedroid = .enabled) :
    (b.deinit deinitOk).1.stack.controller = .idle ∧
      (b.deinit deinitOk).1.stack.bluedroid = .uninitialized := by
  rcases h with hc | hb
  · have hb := hl.down hc
    rw [deinit_refused (by simp [hb])]
    exact ⟨hc, hb⟩
  · have he := deinit_ends (hl (by simp [hb])) hb deinitOk
    generalize b.deinit deinitOk = r at he
    cases he with
    | bluedroidDisable he => exact (he rfl).elim
    | bluedroidDeinit _ he => exact (he rfl).elim
    | controllerDisable _ _ he => exact (he rfl).elim
    | controllerDeinit _ _ _ he => exact (he rfl).elim
    | done => exact ⟨rfl, rfl⟩

/-- A half-done stack refuses the first call of `deinit` and the first call of `init`, so it never
comes back. -/
theorem recovers_iff (hl : b.Layered) :
    b.Recovers ↔ b.stack.controller = .idle ∨ b.stack.bluedroid = .enabled := by
  apply Iff.intro
  · intro h
    by_contra hn
    obtain ⟨hc, hb⟩ := not_or.1 hn
    have h1 := (h.1 .ble).ok
    rw [deinit_refused hb, init_refused hc] at h1
    exact EspErr.errInvalidState_ne_ok h1
  · intro h
    obtain ⟨hc, hb⟩ := deinit_down hl h
    exact ⟨fun m => init_down hc hb m, bleInit_down hc hb⟩

theorem init_recovers_iff (hl : b.Layered) (env : InitEnv) (m : BtMode) :
    ((b.init env m).2 ≠ .ok → (b.init env m).1.Recovers) ↔ FailsCleanly b (.init m env) := by
  rw [recovers_iff (hl.init env m)]
  by_cases hc : b.stack.controller = .idle
  · have hb := hl.down hc
    have he := init_ends hc hb env m
    generalize b.init env m = r at he
    cases he with
    | controllerInit he => simp [FailsCleanly, hc, he]
    | controllerEnable h1 he => simp [FailsCleanly, BringsUp, hb, h1, he]
    | bluedroidInit h1 h2 he => simp [FailsCleanly, BringsUp, hb, h1, h2, he]
    | bluedroidEnable h1 h2 h3 he => simp [FailsCleanly, BringsUp, hb, h1, h2, h3, he]
    | setDeviceName h1 h2 h3 h4 => simp [FailsCleanly, BringsUp, hc, h1, h2, h3, h4]
  · rw [init_refused hc]
    simp [FailsCleanly, hc]

theorem deinit_recovers_iff (hl : b.Layered) (env : DeinitEnv) :
    ((b.deinit env).2 ≠ .ok → (b.deinit env).1.Recovers) ↔ FailsCleanly b (.deinit env) := by
  rw [recovers_iff (hl.deinit env)]
  by_cases hb : b.stack.bluedroid = .enabled
  · have hc : b.stack.controller.isEnabled = true := hl (by simp [hb])
    have hn : b.stack.controller ≠ .idle := by
      intro hn
      simp [hn] at hc
    have he := deinit_ends hc hb env
    generalize b.deinit env = r at he
    cases he with
    | bluedroidDisable he => simp [FailsCleanly, hb, he]
    | bluedroidDeinit h1 he => simp [FailsCleanly, BringsDown, hn, h1, he]
    | controllerDisable h1 h2 he => simp [FailsCleanly, BringsDown, hn, h1, h2, he]
    | controllerDeinit h1 h2 h3 he => simp [FailsCleanly, BringsDown, hn, h1, h2, h3, he]
    | done h1 h2 h3 h4 => simp [FailsCleanly, BringsDown, hb, h2, h3, h4]
  · rw [deinit_refused hb]
    simp [FailsCleanly, hb]

theorem init_ok (hl : b.Layered) (h : (b.init env m).2 = .ok) :
    (b.init env m).1.stack.bluedroid = .enabled ∧ b.stack.controller = .idle ∧ BringsUp env := by
  by_cases hc : b.stack.controller = .idle
  · have he := init_ends hc (hl.down hc) env m
    generalize b.init env m = r at he h
    cases he with
    | controllerInit he => exact (he h).elim
    | controllerEnable _ he => exact (he h).elim
    | bluedroidInit _ _ he => exact (he h).elim
    | bluedroidEnable _ _ _ he => exact (he h).elim
    | setDeviceName h1 h2 h3 h4 => exact ⟨rfl, hc, h1, h2, h3, h4⟩
  · rw [init_refused hc] at h
    exact (EspErr.errInvalidState_ne_ok h).elim

theorem bleInit_recovers_iff (hl : b.Layered) (env : InitEnv) (e : EspErr) :
    ((b.bleInit env e).2 ≠ .ok → (b.bleInit env e).1.Recovers) ↔
      FailsCleanly b (.bleInit env e) := by
  by_cases hr : (b.init env .ble).2 = .ok
  · obtain ⟨hb, hc, hu⟩ := init_ok hl hr
    obtain ⟨name, hn⟩ := bleInit_fst b env e
    have hl' : (b.bleInit env e).1.Layered := hl.step (.bleInit env e)
    refine iff_of_true (fun _ => (recovers_iff hl').2 (.inr ?_)) (.inr ⟨hc, .inr hu⟩)
    rw [hn]
    exact hb
  · have he : b.bleInit env e = b.init env .ble := if_neg hr
    rw [he]
    exact init_recovers_iff hl env .ble

/-- In every state that calls of `init` and `deinit` lead to, a failing call can be recovered from
by `deinit` and `init` exactly when it fails cleanly. -/
theorem failure_recoverable_iff (name : String) (m : BtMode) (ops : List Op) (op : Op) :
    (((Run.run step (construct name m) ops).apply op).2 ≠ .ok →
        ((Run.run step (construct name m) ops).step op).Recovers) ↔
      FailsCleanly (Run.run step (construct name m) ops) op := by
  have hl : (Run.run step (construct name m) ops).Layered :=
    Run.run_invariant (construct_layered name m) (fun _ op h => h.step op) ops
  cases op with
  | init m env => exact init_recovers_iff hl env m
  | deinit env => exact deinit_recovers_iff hl env
  | bleInit env e => exact bleInit_recovers_iff hl env e
  | bleDeinit env =>
    simp only [step, apply, bleDeinit_eq]
    exact deinit_recovers_iff hl env

/-- `esp_bluedroid_init` fails in the first `init`: the controller stays enabled for ever. -/
theorem bluedroid_failure_unrecoverable :
    ¬ ((((construct "dev" .ble).apply (.init .ble { initOk with bluedroidInit := .fail })).2 ≠ .ok) →
      ((construct "dev" .ble).step (.init .ble { initOk with bluedroidInit := .fail })).Recovers) := by
  intro h
  have h1 := ((h (by decide)).1 .ble).ok
  revert h1
  decide

end LDM.Bluetooth
