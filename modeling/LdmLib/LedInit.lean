import LdmLib.LedChannels

namespace LDM
set_option autoImplicit true

open Plan

namespace Led

/-- The LEDC calls that initialise an object with this timer and these channels. -/
def plan (timer : LedcTimerConfig) (channels : List LedcChannelConfig) : List LedcCall :=
  [.timerConfig timer] ++ channels.map .channelConfig ++ [.fadeFuncInstall]

theorem makes_install (d : Ledc) (err : EspErr) :
    Ledc.Makes d (d.fadeFuncInstall err).1 [.fadeFuncInstall] (d.fadeFuncInstall err).2 := by
  unfold Ledc.fadeFuncInstall
  split
  · exact ⟨[(.fadeFuncInstall, .errInvalidState)], .one _ _ _, rfl⟩
  · exact ⟨[(.fadeFuncInstall, err)], .one _ _ _, rfl⟩

theorem makes_configChannels (errs : Nat → EspErr) (i : Nat) (s : Led × Ledc)
    (channels : List LedcChannelConfig) :
    Ledc.Makes s.2 (configChannels errs i s channels).1.2 (channels.map .channelConfig)
      (configChannels errs i s channels).2 := by
  induction channels generalizing i s with
  | nil => exact ⟨[], .nil, rfl⟩
  | cons c channels ih =>
    apply Ledc.Makes.errCheck (r := ((s.1, s.2.record (.channelConfig c) (errs i)), errs i))
      Prod.snd (Ledc.makes_record s.2 (.channelConfig c) (errs i))
    intro s _ _
    exact ih (i + 1) s

theorem makes_init (env : InitEnv) (s : Led × Ledc) :
    Ledc.Makes s.2 (init env s).1.2 (plan s.1.ledcTimer s.1.ledcChannels) (init env s).2 := by
  rw [plan, List.append_assoc]
  apply Ledc.Makes.errCheck (r := configLedTimer s.1.ledcTimer env.timer s) Prod.snd
    (Ledc.makes_record s.2 (.timerConfig s.1.ledcTimer) env.timer)
  rintro t - rfl
  apply (makes_configChannels env.channel 0 _ s.1.ledcChannels).errCheck Prod.snd
  rintro t - rfl
  exact makes_install _ env.install

end Led

namespace Leds

/-- An `init` makes the calls for the channels that were supplied, in the order in which they were,
and stops at the first call that fails, with its error; it succeeds only if all were made and
succeeded. -/
structure InitMakes (cs : List LedcCall) (d d' : Ledc) (err : EspErr)
    (made : List (LedcCall × EspErr)) : Prop where
  log : d'.log = made.reverse ++ d.log
  planned : made.map Prod.fst <+: cs
  stopped : ∀ m ∈ made.dropLast, m.2 = .ok
  result : err = .ok ↔ made = cs.map fun c => (c, .ok)
  failed : err ≠ .ok → ∃ c, made.getLast? = some (c, err)

def InitPlanned (p : Leds × (Nat → List LedcChannelConfig)) : UseOp → Prop
  | .configure (.init id env) => ∀ l, p.1.leds id = some l →
    ∃ made, InitMakes (Led.plan l.ledcTimer (p.2 id)) p.1.ledc
      (p.1.step (.init id env)).ledc (p.1.apply (.init id env)).2 made
  | _ => True

theorem initPlanned {p : Leds × (Nat → List LedcChannelConfig)} (hp : p.2 = p.1.channels)
    (op : UseOp) : InitPlanned p op := by
  cases op with
  | channel id op env => trivial
  | configure op =>
    cases op with
    | init id env =>
      intro l hl
      have hc : p.2 id = l.ledcChannels := by
        rw [hp, channels, hl, Option.map_some, Option.getD_some]
      obtain ⟨hres, hledc⟩ := call_some hl (Led.init env)
      obtain ⟨made, hm, hlog⟩ := Led.makes_init env (l, p.1.ledc)
      rw [hc]
      change ∃ made, InitMakes _ _ _ (p.1.call id (Led.init env)).2 made
      rw [hres]
      refine ⟨made, ?_, hm.isPrefix, hm.dropLast_ok, hm.ok_iff, hm.last⟩
      exact (congrArg Ledc.log hledc).trans hlog
    | _ => trivial

theorem inits_planned (ops : List UseOp) :
    Run.Guarded (Run.watch use seeSupplied) InitPlanned (start, fun _ => []) ops := by
  let Inv (p : Leds × (Nat → List LedcChannelConfig)) : Prop := p.2 = p.1.channels
  have h0 : Inv (start, fun _ => []) := rfl
  have hstep (p : Leds × (Nat → List LedcChannelConfig)) (op : UseOp) (hp : Inv p) :
      Inv (Run.watch use seeSupplied p op) := by
    change seeSupplied p.2 p.1 op = (p.1.use op).channels
    rw [channels_use, hp]
  exact Run.guarded_of_invariant h0 hstep (fun _ op hp => initPlanned hp op) ops

end Leds

end LDM
