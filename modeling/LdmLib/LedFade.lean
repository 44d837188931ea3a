import LdmLib.Led

namespace LDM.Leds
set_option autoImplicit true

def ValidConfig (l : Led) (env : Led.InitEnv) : Prop :=
  env.timer = .ok ∧ ∀ i < l.ledcChannels.length, env.channel i = .ok

/-- The objects whose latest `init` returned `ESP_OK` and that were neither deinitialised nor
destroyed since. -/
def seeActive (u : Nat → Bool) (s : Leds) : Op → Nat → Bool
  | .init id env => fun i => if i = id then (s.apply (.init id env)).2 = .ok else u i
  | .deinit id => fun i => if i = id then false else u i
  | .destroy id => fun i => if i = id then false else u i
  | _ => u

/-- Those of them since whose `init` no object at all was deinitialised or destroyed. -/
def seeUndisturbed (u : Nat → Bool) (s : Leds) : Op → Nat → Bool
  | .init id env => fun i => if i = id then (s.apply (.init id env)).2 = .ok else u i
  | .deinit id => if (s.leds id).isSome then fun _ => false else u
  | .destroy id => if (s.leds id).isSome then fun _ => false else u
  | _ => u

def ServiceKept (p : Leds × (Nat → Bool)) : Prop :=
  ∀ id, p.2 id = true → p.1.ledc.fadeInstalled = true

/-- An `init` with valid configurations succeeds, whatever other objects did. -/
def InitSucceeds (s : Leds) (op : Op) : Prop :=
  ∀ id l env, op = .init id env → s.leds id = some l → ValidConfig l env → env.install = .ok →
    (s.apply op).2 = .ok

/-- An `init` with valid configurations returns what the installation of the service returns,
which is an error if the service is there already. -/
def InitInstalls (s : Leds) (op : Op) : Prop :=
  ∀ id l env, op = .init id env → s.leds id = some l → ValidConfig l env →
    (s.apply op).2 = (if s.ledc.fadeInstalled then .errInvalidState else env.install) ∧
      ((s.apply op).2 = .ok → (s.step op).ledc.fadeInstalled = true)

variable {id : Nat} {s : Leds} {p : Leds × (Nat → Bool)}

theorem configChannels_kept (errs : Nat → EspErr) (i : Nat) (s : Led × Ledc)
    (cs : List LedcChannelConfig) :
    (Led.configChannels errs i s cs).1.2.fadeInstalled = s.2.fadeInstalled := by
  let P (s' : Led × Ledc) : Prop := s'.2.fadeInstalled = s.2.fadeInstalled
  have hs : P s := rfl
  exact Led.configChannels_keeps (fun _ _ _ h => h) errs i cs hs

theorem configChannels_ok (errs : Nat → EspErr) (i : Nat) (s : Led × Ledc)
    (cs : List LedcChannelConfig) (h : ∀ j < cs.length, errs (i + j) = .ok) :
    (Led.configChannels errs i s cs).2 = .ok := by
  induction cs generalizing i s with
  | nil => rfl
  | cons c cs ih =>
    have h0 : errs i = .ok := h 0 (Nat.zero_lt_succ _)
    rw [Led.configChannels, h0, errCheck_ok]
    apply ih
    intro j hj
    have hs : i + 1 + j = i + (j + 1) := by omega
    rw [hs]
    exact h (j + 1) (Nat.succ_lt_succ hj)

theorem fadeFuncInstall_kept (d : Ledc) (err : EspErr) (h : d.fadeInstalled = true) :
    (d.fadeFuncInstall err).1.fadeInstalled = true := by
  rw [Ledc.fadeFuncInstall, if_pos h]
  exact h

theorem fadeFuncInstall_snd (d : Ledc) (err : EspErr) :
    (d.fadeFuncInstall err).2 = if d.fadeInstalled then .errInvalidState else err := by
  unfold Ledc.fadeFuncInstall
  split
  · rfl
  · rfl

theorem fadeFuncInstall_ok (d : Ledc) (err : EspErr) (h : (d.fadeFuncInstall err).2 = .ok) :
    (d.fadeFuncInstall err).1.fadeInstalled = true := by
  rw [fadeFuncInstall_snd] at h
  by_cases hi : d.fadeInstalled = true
  · exact fadeFuncInstall_kept d err hi
  · rw [if_neg hi] at h
    rw [Ledc.fadeFuncInstall, if_neg hi]
    exact decide_eq_true h

theorem init_kept (env : Led.InitEnv) (s : Led × Ledc) (h : s.2.fadeInstalled = true) :
    (Led.init env s).1.2.fadeInstalled = true := by
  let P (s : Led × Ledc) : Prop := s.2.fadeInstalled = true
  have hs : P s := h
  exact Led.init_keeps (fun _ _ _ h => h) (fun s err h => fadeFuncInstall_kept s.2 err h) env hs

theorem init_ok (env : Led.InitEnv) (s : Led × Ledc) (h : (Led.init env s).2 = .ok) :
    (Led.init env s).1.2.fadeInstalled = true := by
  unfold Led.init at h ⊢
  obtain ⟨-, ht⟩ := errCheck_eq_of_ok h
  rw [ht] at h ⊢
  obtain ⟨-, hc⟩ := errCheck_eq_of_ok h
  rw [hc] at h ⊢
  exact fadeFuncInstall_ok _ _ h

/-- The object gets as far as the fade service, and nothing before it touched the service. -/
theorem init_snd (env : Led.InitEnv) (s : Led × Ledc) (h : ValidConfig s.1 env) :
    (Led.init env s).2 = if s.2.fadeInstalled then .errInvalidState else env.install := by
  obtain ⟨ht, hch⟩ := h
  let s' : Led × Ledc := (Led.configLedTimer s.1.ledcTimer env.timer s).1
  have ht' : (Led.configLedTimer s.1.ledcTimer env.timer s).2 = .ok := ht
  have hc : (Led.configChannels env.channel 0 s' s'.1.ledcChannels).2 = .ok := by
    apply configChannels_ok
    intro j hj
    rw [Nat.zero_add]
    exact hch j hj
  have hk := configChannels_kept env.channel 0 s' s'.1.ledcChannels
  rw [Led.init, errCheck, if_pos ht', errCheck, if_pos hc, fadeFuncInstall_snd, hk]
  rfl

theorem call_kept {f : Led × Ledc → (Led × Ledc) × EspErr}
    (hf : ∀ s, s.2.fadeInstalled = true → (f s).1.2.fadeInstalled = true)
    (h : s.ledc.fadeInstalled = true) : (s.call id f).1.ledc.fadeInstalled = true := by
  cases hl : s.leds id with
  | none =>
    rw [call_none hl]
    exact h
  | some l =>
    rw [(call_some hl f).2]
    exact hf _ h

theorem init_call_ok (env : Led.InitEnv) (h : (s.call id (Led.init env)).2 = .ok) :
    (s.call id (Led.init env)).1.ledc.fadeInstalled = true := by
  cases hl : s.leds id with
  | none =>
    rw [call_none hl] at h
    exact absurd h EspErr.fail_ne_ok
  | some l =>
    rw [(call_some hl _).1] at h
    rw [(call_some hl _).2]
    exact init_ok env _ h

/-- After it no object is taken to be undisturbed, unless there was none to deinitialise. -/
theorem serviceKept_deinit (h : ServiceKept p) (id : Nat) (l : Nat → Option Led) :
    ServiceKept ({ (p.1.call id Led.deinit).1 with leds := l },
      if (p.1.leds id).isSome then fun _ => false else p.2) := by
  intro i hi
  cases hl : p.1.leds id with
  | none =>
    rw [hl] at hi
    rw [call_none hl]
    exact h i hi
  | some l =>
    rw [hl] at hi
    cases hi

theorem serviceKept_step (h : ServiceKept p) (op : Op) :
    ServiceKept (Run.watch step seeUndisturbed p op) := by
  cases op with
  | construct id timer =>
    intro i hi
    have hp := h i hi
    change (construct p.1 id timer).ledc.fadeInstalled = true
    unfold construct
    split
    · exact hp
    · exact hp
  | configLedTimer id config err =>
    have hf (s : Led × Ledc) (hs : s.2.fadeInstalled = true) :
        (Led.configLedTimer config err s).1.2.fadeInstalled = true := hs
    exact fun i hi => call_kept hf (h i hi)
  | addLedChannelConfig id config =>
    have hf (s : Led × Ledc) (hs : s.2.fadeInstalled = true) :
        (Led.addLedChannelConfig config s).1.2.fadeInstalled = true := hs
    exact fun i hi => call_kept hf (h i hi)
  | init id env =>
    intro i hi
    have hu : (if i = id then decide ((p.1.apply (.init id env)).2 = .ok) else p.2 i) = true := hi
    split at hu
    · exact init_call_ok env (of_decide_eq_true hu)
    · exact call_kept (init_kept env) (h i hu)
  | deinit id => exact serviceKept_deinit h id _
  | destroy id => exact serviceKept_deinit h id _

theorem initInstalls (s : Leds) (op : Op) : InitInstalls s op := by
  rintro id l env rfl hl hv
  apply And.intro
  · have hc := (call_some hl (Led.init env)).1
    exact hc.trans (init_snd env (l, s.ledc) hv)
  · exact init_call_ok env

/-- Nobody else took the fade service away, so it is there; and an `init` gets it installed unless
it is there already. -/
theorem fade_service_kept (ops : List Op) :
    Run.Always (Run.watch step seeUndisturbed) ServiceKept (start, fun _ => false) ops ∧
      Run.Guarded step InitInstalls start ops := by
  have h0 : ServiceKept (start, fun _ => false) := fun _ hi => nomatch hi
  apply And.intro
  · intro pre _
    exact Run.run_invariant h0 (fun _ op h => serviceKept_step h op) pre
  · exact fun pre op _ => initInstalls (Run.run step start pre) op

theorem fade_service_lost :
    ¬ Run.Always (Run.watch step seeActive) ServiceKept (start, fun _ => false)
        [.construct 0 ⟨0, 0, 0, 0, 0⟩, .construct 1 ⟨0, 0, 0, 0, 0⟩, .init 0 Led.initOk,
          .destroy 1] ∧
      ¬ Run.Guarded step InitSucceeds start
        [.construct 0 ⟨0, 0, 0, 0, 0⟩, .construct 1 ⟨0, 0, 0, 0, 0⟩, .init 0 Led.initOk,
          .init 1 Led.initOk] := by
  apply And.intro
  · intro h
    exact absurd (h.last 0 (by decide)) (by decide)
  · intro h
    have hi := h [.construct 0 ⟨0, 0, 0, 0, 0⟩, .construct 1 ⟨0, 0, 0, 0, 0⟩, .init 0 Led.initOk]
      (.init 1 Led.initOk) List.prefix_rfl 1 _ Led.initOk rfl rfl
      ⟨rfl, fun _ _ => rfl⟩ rfl
    exact absurd hi (by decide)

end LDM.Leds
