import LdmLib.Bluetooth

namespace LDM.Bluetooth
set_option autoImplicit true

/-- The mode passed to the `init` call that enabled the controller. -/
def requestedMode (g : BtMode) (b : Bluetooth) (op : Op) : BtMode :=
  if b.stack.controller.isEnabled = false ∧ (b.step op).stack.controller.isEnabled = true then
    match op with
    | .init m _ => m
    | .bleInit _ _ => .ble
    | .deinit _ => g
    | .bleDeinit _ => g
  else g

structure FlagsAgree (p : Bluetooth × BtMode) : Prop where
  initialized : p.1.isInitialized = true ↔
    p.1.stack.controller.isEnabled = true ∧ p.1.stack.bluedroid = .enabled
  controller : p.1.controllerInitialized = true ↔ p.1.stack.controller.isEnabled = true
  mode : ∀ m, p.1.stack.controller = .enabled m → m = p.2 ∧ p.1.btMode = p.2

def EnablesController (b : Bluetooth) (env : InitEnv) : Prop :=
  b.stack.controller = .idle ∧ env.controllerInit = .ok ∧ env.controllerEnable = .ok

/-- A call of `deinit` that fails between disabling a part of the stack and tearing it down. -/
def StopsHalfway (b : Bluetooth) (env : DeinitEnv) : Prop :=
  b.stack.bluedroid = .enabled ∧ env.bluedroidDisable = .ok ∧
    (env.bluedroidDeinit ≠ .ok ∨ env.controllerDisable = .ok ∧ env.controllerDeinit ≠ .ok)

def FlagsGuard (p : Bluetooth × BtMode) : Op → Prop
  | .init m env => EnablesController p.1 env → m = .ble
  | .bleInit _ _ => True
  | .deinit env => ¬ StopsHalfway p.1 env
  | .bleDeinit env => ¬ StopsHalfway p.1 env

/-- The invariant that guarded calls keep: each flag follows its own part of the stack. -/
structure FlagsInv (p : Bluetooth × BtMode) : Prop where
  controller : p.1.controllerInitialized = p.1.stack.controller.isEnabled
  bluedroid : p.1.bluedroidInitialized = true ↔ p.1.stack.bluedroid = .enabled
  layered : p.1.Layered
  mode : ∀ m, p.1.stack.controller = .enabled m → m = .ble ∧ p.2 = .ble ∧ p.1.btMode = .ble

theorem FlagsInv.agree (h : FlagsInv p) : FlagsAgree p where
  initialized := by
    simp only [isInitialized, Bool.and_eq_true, h.bluedroid, h.controller]
    exact And.comm
  controller := by rw [h.controller]
  mode m hm := by
    obtain ⟨h1, h2, h3⟩ := h.mode m hm
    exact ⟨h1.trans h2.symm, h3.trans h2.symm⟩

theorem construct_flags (name : String) (m g : BtMode) : FlagsInv (construct name m, g) where
  controller := rfl
  bluedroid := by simp [construct]
  layered := construct_layered name m
  mode := by simp [construct]

theorem FlagsInv.init (h : FlagsInv (b, g)) (env : InitEnv) (m : BtMode)
    (hg : EnablesController b env → g' = .ble)
    (hk : ¬ EnablesController b env → g' = g) : FlagsInv ((b.init env m).1, g') := by
  have hl := h.layered.init env m
  by_cases hc : b.stack.controller = .idle
  · have he := init_ends hc (h.layered.down hc) env m
    generalize b.init env m = r at he hl
    have hf := h.controller
    have hi := h.bluedroid
    simp only [hc, Controller.isEnabled_idle] at hf
    cases he with
    | controllerInit => exact ⟨h.controller, h.bluedroid, hl, by simp [hc]⟩
    | controllerEnable => exact ⟨hf, hi, hl, by simp⟩
    | bluedroidInit h1 h2 => exact ⟨rfl, hi, hl, by simp [hg ⟨hc, h1, h2⟩]⟩
    | bluedroidEnable h1 h2 =>
      rw [h.layered.down hc] at hi
      exact ⟨rfl, by simpa using hi, hl, by simp [hg ⟨hc, h1, h2⟩]⟩
    | setDeviceName h1 h2 => exact ⟨rfl, by simp, hl, by simp [hg ⟨hc, h1, h2⟩]⟩
  · rw [init_refused hc] at hl ⊢
    rw [hk fun hn => hc hn.1]
    exact ⟨h.controller, h.bluedroid, hl, fun m hm =>
      ⟨(h.mode m hm).1, (h.mode m hm).2.1, rfl⟩⟩

theorem FlagsInv.deinit (h : FlagsInv (b, g)) (env : DeinitEnv) (hg : ¬ StopsHalfway b env) :
    FlagsInv ((b.deinit env).1, g) := by
  have hl := h.layered.deinit env
  by_cases hb : b.stack.bluedroid = .enabled
  · have hc : b.stack.controller.isEnabled = true := h.layered (by simp [hb])
    have he := deinit_ends hc hb env
    generalize b.deinit env = r at he hl
    cases he with
    | bluedroidDisable => exact h
    | bluedroidDeinit h1 he => exact (hg ⟨hb, h1, .inl he⟩).elim
    | controllerDisable => exact ⟨h.controller, by simp, hl, h.mode⟩
    | controllerDeinit h1 h2 h3 he => exact (hg ⟨hb, h1, .inr ⟨h3, he⟩⟩).elim
    | done => exact ⟨rfl, by simp, hl, by simp⟩
  · rw [deinit_refused hb]
    exact h

theorem enables_iff (hl : b.Layered) (env : InitEnv) (m : BtMode) :
    b.stack.controller.isEnabled = false ∧
      (b.init env m).1.stack.controller.isEnabled = true ↔ EnablesController b env := by
  by_cases hc : b.stack.controller = .idle
  · have he := init_ends hc (hl.down hc) env m
    generalize b.init env m = r at he
    cases he with
    | controllerInit he => simp [EnablesController, hc, he]
    | controllerEnable h1 he => simp [EnablesController, he]
    | bluedroidInit h1 h2 => simp [EnablesController, hc, h1, h2]
    | bluedroidEnable h1 h2 => simp [EnablesController, hc, h1, h2]
    | setDeviceName h1 h2 => simp [EnablesController, hc, h1, h2]
  · rw [init_refused hc]
    simp [EnablesController, hc]

theorem requestedMode_init (hl : b.Layered) (g m : BtMode) (env : InitEnv) :
    (EnablesController b env → requestedMode g b (.init m env) = m) ∧
      (¬ EnablesController b env → requestedMode g b (.init m env) = g) := by
  have he := enables_iff hl env m
  apply And.intro
  · intro h
    exact if_pos (he.2 h)
  · intro h
    exact if_neg fun hn => h (he.1 hn)

theorem requestedMode_bleInit (hl : b.Layered) (g : BtMode) (env : InitEnv) (e : EspErr) :
    (EnablesController b env → requestedMode g b (.bleInit env e) = .ble) ∧
      (¬ EnablesController b env → requestedMode g b (.bleInit env e) = g) := by
  have he := enables_iff hl env .ble
  have hs : (b.step (.bleInit env e)).stack.controller = (b.init env .ble).1.stack.controller := by
    obtain ⟨name, hn⟩ := bleInit_fst b env e
    rw [step, apply, hn]
  rw [← hs] at he
  apply And.intro
  · intro h
    exact if_pos (he.2 h)
  · intro h
    exact if_neg fun hn => h (he.1 hn)

theorem requestedMode_deinit (b : Bluetooth) (g : BtMode) (env : DeinitEnv) :
    requestedMode g b (.deinit env) = g ∧ requestedMode g b (.bleDeinit env) = g := by
  apply And.intro
  · unfold requestedMode
    split <;> rfl
  · unfold requestedMode
    split <;> rfl

theorem FlagsInv.bleInit (h : FlagsInv (b, g)) (env : InitEnv) (e : EspErr)
    (hg : EnablesController b env → g' = .ble)
    (hk : ¬ EnablesController b env → g' = g) : FlagsInv ((b.bleInit env e).1, g') := by
  obtain ⟨name, hn⟩ := bleInit_fst b env e
  have hi := h.init env .ble hg hk
  rw [hn]
  exact ⟨hi.controller, hi.bluedroid, hi.layered, hi.mode⟩

theorem FlagsInv.step (h : FlagsInv p) (hg : FlagsGuard p op) :
    FlagsInv (Run.watch Bluetooth.step requestedMode p op) := by
  obtain ⟨b, g⟩ := p
  cases op with
  | init m env =>
    obtain ⟨h1, h2⟩ := requestedMode_init h.layered g m env
    exact h.init env m (fun he => (h1 he).trans (hg he)) h2
  | deinit env =>
    have hr := (requestedMode_deinit b g env).1
    change FlagsInv ((b.deinit env).1, _)
    rw [hr]
    exact h.deinit env hg
  | bleInit env e =>
    obtain ⟨h1, h2⟩ := requestedMode_bleInit h.layered g env e
    exact h.bleInit env e h1 h2
  | bleDeinit env =>
    have hr := (requestedMode_deinit b g env).2
    change FlagsInv ((b.bleDeinit env).1, _)
    rw [hr, bleDeinit_eq]
    exact h.deinit env hg

theorem FlagsInv.mode_needed (h : FlagsInv (b, g)) (env : InitEnv) (m : BtMode)
    (ha : FlagsAgree ((b.init env m).1, m)) (hn : EnablesController b env) : m = .ble := by
  obtain ⟨hc, h1, h2⟩ := hn
  have he := init_ends hc (h.layered.down hc) env m
  generalize b.init env m = r at he ha
  cases he with
  | controllerInit he => exact (he h1).elim
  | controllerEnable _ he => exact (he h2).elim
  | bluedroidInit => exact (ha.mode .ble rfl).1.symm
  | bluedroidEnable => exact (ha.mode .ble rfl).1.symm
  | setDeviceName => exact (ha.mode .ble rfl).1.symm

theorem FlagsInv.halfway_needed (h : FlagsInv (b, g)) (env : DeinitEnv)
    (ha : FlagsAgree ((b.deinit env).1, g')) : ¬ StopsHalfway b env := by
  rintro ⟨hb, h1, hn⟩
  have hc : b.stack.controller.isEnabled = true := h.layered (by simp [hb])
  have hf : b.controllerInitialized = true := h.controller.trans hc
  have hi : b.bluedroidInitialized = true := h.bluedroid.2 hb
  have he := deinit_ends hc hb env
  generalize b.deinit env = r at he ha
  cases he with
  | bluedroidDisable he => exact he h1
  | bluedroidDeinit =>
    have hu := ha.initialized.1 (by simp [isInitialized, hf, hi])
    simp at hu
  | controllerDisable _ h2 he =>
    rcases hn with hn | ⟨h3, _⟩
    · exact hn h2
    · exact he h3
  | controllerDeinit =>
    have hu := ha.controller.1 hf
    simp at hu
  | done _ h2 _ h4 =>
    rcases hn with hn | ⟨_, hn⟩
    · exact hn h2
    · exact hn h4

theorem FlagsInv.guard_needed (h : FlagsInv p)
    (ha : FlagsAgree (Run.watch Bluetooth.step requestedMode p op)) : FlagsGuard p op := by
  obtain ⟨b, g⟩ := p
  cases op with
  | init m env =>
    intro hn
    have hr := (requestedMode_init h.layered g m env).1 hn
    have ha' : FlagsAgree ((b.init env m).1, requestedMode g b (.init m env)) := ha
    rw [hr] at ha'
    exact h.mode_needed env m ha' hn
  | deinit env => exact h.halfway_needed env ha
  | bleInit => trivial
  | bleDeinit env =>
    have ha' : FlagsAgree ((b.bleDeinit env).1, requestedMode g b (.bleDeinit env)) := ha
    rw [bleDeinit_eq] at ha'
    exact h.halfway_needed env ha'

/-- Along a run of `init` and `deinit` calls the flags and the stored mode describe the stack
exactly when each call that enables the controller asks for BLE mode and no `deinit` fails
between disabling a part and tearing it down. -/
theorem flags_agree_iff (name : String) (m g : BtMode) (ops : List Op) :
    Run.Always (Run.watch Bluetooth.step requestedMode) FlagsAgree (construct name m, g) ops ↔
      Run.Guarded (Run.watch Bluetooth.step requestedMode) FlagsGuard (construct name m, g) ops :=
  Run.always_iff_guarded (construct_flags name m g) (fun _ => FlagsInv.agree)
    (fun _ _ => FlagsInv.step) (fun _ _ => FlagsInv.guard_needed)

/-- `init(ESP_BT_MODE_BTDM)` succeeds and leaves the controller enabled in BLE mode. -/
theorem flags_disagree_btdm :
    ¬ Run.Always (Run.watch Bluetooth.step requestedMode) FlagsAgree
      (construct "dev" .idle, .idle) [.init .btdm initOk] := by
  intro h
  have hm := (h.last.mode .ble (by decide)).1
  revert hm
  decide

end LDM.Bluetooth
