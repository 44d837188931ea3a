import LdmLib.Led
import LdmLib.Plan

namespace LDM
set_option autoImplicit true

open Plan

namespace Ledc

/-- The calls are made in order up to the first that fails, and the last result is what comes of
it. -/
def Makes (d d' : Ledc) (cs : List LedcCall) (err : EspErr) : Prop :=
  ∃ made, Carried .ok cs made err ∧ d'.log = made.reverse ++ d.log

variable {d d' : Ledc} {cs ds : List LedcCall} {err : EspErr}

theorem makes_record (d : Ledc) (c : LedcCall) (err : EspErr) : Makes d (d.record c err) [c] err :=
  ⟨[(c, err)], .one _ _ c, rfl⟩

theorem Makes.errCheck {r : σ × EspErr} {k : σ → σ × EspErr} (get : σ → Ledc)
    (h : Makes d (get r.1) cs r.2)
    (hk : ∀ s, r.2 = .ok → s = r.1 → Makes (get s) (get (k s).1) ds (k s).2) :
    Makes d (get (errCheck r k).1) (cs ++ ds) (errCheck r k).2 := by
  obtain ⟨made, hm, hlog⟩ := h
  by_cases he : r.2 = .ok
  · obtain ⟨made', hm', hlog'⟩ := hk r.1 he rfl
    rw [LDM.errCheck, if_pos he]
    refine ⟨made ++ made', hm.append he hm', ?_⟩
    rw [hlog', hlog, List.reverse_append, List.append_assoc]
  · rw [LDM.errCheck, if_neg he]
    exact ⟨made, hm.append_stop he ds, hlog⟩

/-- All the calls are for the channel, and they are made. -/
structure Drives (c : LedcChannelConfig) (cs : List LedcCall) (d d' : Ledc) (err : EspErr) :
    Prop where
  target : ∀ k ∈ cs, k.target = some (c.speedMode, c.channel)
  makes : Makes d d' cs err

end Ledc

namespace Led

def ChannelOp.plan (op : ChannelOp) (c : LedcChannelConfig) : List LedcCall :=
  match op with
  | .fadeLedWithTime _ targetDuty maxFadeTimeMs fadeMode =>
    [.setFadeWithTime c.speedMode c.channel targetDuty maxFadeTimeMs,
      .fadeStart c.speedMode c.channel fadeMode]
  | .fadeLedWithStep _ targetDuty scale cycleNum fadeMode =>
    [.setFadeWithStep c.speedMode c.channel targetDuty scale cycleNum,
      .fadeStart c.speedMode c.channel fadeMode]
  | .setDuty _ targetDuty =>
    [.setDuty c.speedMode c.channel targetDuty, .updateDuty c.speedMode c.channel]

theorem ChannelOp.plan_target (op : ChannelOp) (c : LedcChannelConfig) :
    ∀ k ∈ op.plan c, k.target = some (c.speedMode, c.channel) := by
  cases op with
  | _ => simp [plan, LedcCall.target]

variable {first second call : Nat → Nat → LedcCall} {channelIdx : UInt16} {w : Work}

@[simp] theorem callChannel_snd (outside : Nat → LedcChannelConfig) (err : EspErr) (w : Work) :
    (callChannel outside channelIdx call err w).2 = err := rfl

@[simp] theorem callChannel_led (outside : Nat → LedcChannelConfig) (err : EspErr) (w : Work) :
    (callChannel outside channelIdx call err w).1.led = w.led := rfl

@[simp] theorem callChannel_reads (outside : Nat → LedcChannelConfig) (err : EspErr) (w : Work) :
    (callChannel outside channelIdx call err w).1.reads =
      channelIdx.toNat :: channelIdx.toNat :: w.reads := rfl

theorem callChannel_ledc (h : w.led.ledcChannels[channelIdx.toNat]? = some c)
    (outside : Nat → LedcChannelConfig) (err : EspErr) :
    (callChannel outside channelIdx call err w).1.ledc =
      w.ledc.record (call c.speedMode c.channel) err := by
  simp only [callChannel, readChannel, h, Option.getD_some]

theorem drive_led (env : ChannelEnv) (w : Work) :
    (drive first second channelIdx env w).1.led = w.led := by
  let P (w' : Work) : Prop := w'.led = w.led
  have hf : P (callChannel env.outside channelIdx first env.first w).1 := rfl
  exact errCheck_keeps hf fun w' hw' => (callChannel_led env.outside env.second w').trans hw'

/-- All reads are made at the one index, whether or not the second call is reached. -/
theorem mem_drive_reads (env : ChannelEnv) (hw : w.reads = []) (i : Nat) :
    i ∈ (drive first second channelIdx env w).1.reads ↔ i = channelIdx.toNat := by
  by_cases he : env.first = .ok
  · rw [drive, errCheck, callChannel_snd, if_pos he]
    simp [hw]
  · rw [drive, errCheck, callChannel_snd, if_neg he]
    simp [hw]

theorem drive_makes (h : w.led.ledcChannels[channelIdx.toNat]? = some c) (env : ChannelEnv) :
    Ledc.Makes w.ledc (drive first second channelIdx env w).1.ledc
      [first c.speedMode c.channel, second c.speedMode c.channel]
      (drive first second channelIdx env w).2 := by
  have hcall (w' : Work) (hw : w'.led = w.led) (call : Nat → Nat → LedcCall) (err : EspErr) :
      Ledc.Makes w'.ledc (callChannel env.outside channelIdx call err w').1.ledc
        [call c.speedMode c.channel] err := by
    rw [callChannel_ledc (hw ▸ h)]
    exact Ledc.makes_record _ _ err
  apply (hcall w rfl first env.first).errCheck Work.ledc
  rintro w' - rfl
  exact hcall (callChannel env.outside channelIdx first env.first w).1 rfl second env.second

/-- The three operations differ only in the two calls they make. -/
theorem ChannelOp.work_eq (op : ChannelOp) : ∃ first second,
    op.work = drive first second op.channelIdx ∧
      ∀ c, op.plan c = [first c.speedMode c.channel, second c.speedMode c.channel] := by
  cases op with
  | fadeLedWithTime => exact ⟨_, _, rfl, fun _ => rfl⟩
  | fadeLedWithStep => exact ⟨_, _, rfl, fun _ => rfl⟩
  | setDuty => exact ⟨_, _, rfl, fun _ => rfl⟩

/-- No read is past the vector. The operation drives the channel that was supplied under its index,
as it was asked to, or returns an error without an LEDC call if there is none. -/
def DrivesSupplied (supplied : List LedcChannelConfig) (op : ChannelOp) (env : ChannelEnv)
    (s : Led × Ledc) : Prop :=
  (∀ i ∈ (op.run env s).1.reads, i < s.1.ledcChannels.length) ∧
    match supplied[op.channelIdx.toNat]? with
    | some c => Ledc.Drives c (op.plan c) s.2 (op.run env s).1.ledc (op.run env s).2
    | none => (op.run env s).2 ≠ .ok ∧ (op.run env s).1.ledc.log = s.2.log

theorem drivesSupplied_iff (op : ChannelOp) (env : ChannelEnv) (s : Led × Ledc) :
    DrivesSupplied s.1.ledcChannels op env s ↔
      op.channelIdx.toNat < s.1.ledcChannels.length := by
  obtain ⟨first, second, hwork, hplan⟩ := op.work_eq
  have hread (i : Nat) : i ∈ (drive first second op.channelIdx env ⟨s.1, s.2, []⟩).1.reads ↔
      i = op.channelIdx.toNat := mem_drive_reads env rfl i
  rw [DrivesSupplied, ChannelOp.run, hwork]
  apply Iff.intro
  · intro h
    exact h.1 _ ((hread _).2 rfl)
  · intro h
    rw [List.getElem?_eq_getElem h]
    apply And.intro
    · intro i hi
      rw [(hread i).1 hi]
      exact h
    · refine ⟨op.plan_target _, ?_⟩
      rw [hplan]
      exact drive_makes (List.getElem?_eq_getElem h) env

theorem init_channels (env : InitEnv) (s : Led × Ledc) :
    (init env s).1.1.ledcChannels = s.1.ledcChannels := by
  let P (s' : Led × Ledc) : Prop := s'.1.ledcChannels = s.1.ledcChannels
  have hs : P s := rfl
  exact init_keeps (fun _ _ _ h => h) (fun _ _ h => h) env hs

theorem ChannelOp.apply_channels (op : ChannelOp) (env : ChannelEnv) (s : Led × Ledc) :
    (op.apply env s).1.1.ledcChannels = s.1.ledcChannels := by
  obtain ⟨first, second, hwork, -⟩ := op.work_eq
  rw [apply, run, hwork]
  exact congrArg ledcChannels (drive_led env _)

end Led

namespace Leds

/-- What the `LED` objects of the process are used for: set up as before, or driving a channel. -/
inductive UseOp where
  | configure (op : Op)
  | channel (id : Nat) (op : Led.ChannelOp) (env : Led.ChannelEnv)

def use (s : Leds) : UseOp → Leds
  | .configure op => s.step op
  | .channel id op env => (s.call id (op.apply env)).1

/-- The channels that `addLedChannelConfig` supplied to each object since it was last
deinitialised, in the order of the calls. -/
def seeSupplied (u : Nat → List LedcChannelConfig) (s : Leds) :
    UseOp → Nat → List LedcChannelConfig
  | .configure (.addLedChannelConfig id config) =>
    fun i => if i = id ∧ (s.leds id).isSome then u i ++ [config] else u i
  | .configure (.deinit id) => fun i => if i = id then [] else u i
  | .configure (.destroy id) => fun i => if i = id then [] else u i
  | _ => u

def ChannelSound (p : Leds × (Nat → List LedcChannelConfig)) : UseOp → Prop
  | .configure _ => True
  | .channel id op env =>
    ∀ l, p.1.leds id = some l → Led.DrivesSupplied (p.2 id) op env (l, p.1.ledc)

def IndexSupplied (p : Leds × (Nat → List LedcChannelConfig)) : UseOp → Prop
  | .configure _ => True
  | .channel id op _ => ∀ l, p.1.leds id = some l → op.channelIdx.toNat < (p.2 id).length

def channels (s : Leds) (id : Nat) : List LedcChannelConfig :=
  ((s.leds id).map Led.ledcChannels).getD []

variable {s : Leds}

theorem channels_call (s : Leds) (id : Nat) (f : Led × Ledc → (Led × Ledc) × EspErr) (i : Nat) :
    (s.call id f).1.channels i =
      if i = id then ((s.leds id).map fun l => (f (l, s.ledc)).1.1.ledcChannels).getD []
      else s.channels i := by
  cases hl : s.leds id with
  | none =>
    rw [call_none hl]
    by_cases hi : i = id
    · simp [channels, hl, hi]
    · simp [hi]
  | some l =>
    by_cases hi : i = id
    · simp [call, channels, hl, setLed, hi]
    · simp [call, channels, hl, setLed, hi]

/-- A member function that keeps the vector of its object keeps those of all objects. -/
theorem channels_kept {f : Led × Ledc → (Led × Ledc) × EspErr}
    (hf : ∀ s, (f s).1.1.ledcChannels = s.1.ledcChannels) (s : Leds) (id : Nat) :
    (s.call id f).1.channels = s.channels := by
  funext i
  rw [channels_call]
  by_cases hi : i = id
  · have hl (l : Led) : (f (l, s.ledc)).1.1.ledcChannels = l.ledcChannels := hf (l, s.ledc)
    rw [if_pos hi, hi, channels]
    simp only [hl]
  · rw [if_neg hi]

theorem channels_use (s : Leds) (op : UseOp) :
    (s.use op).channels = seeSupplied s.channels s op := by
  cases op with
  | channel id op env => exact channels_kept (op.apply_channels env) s id
  | configure op =>
    cases op with
    | construct id timer =>
      funext i
      change (s.construct id timer).channels i = s.channels i
      cases hl : s.leds id with
      | none =>
        by_cases hi : i = id
        · simp [construct, channels, hl, setLed, hi]
        · simp [construct, channels, hl, setLed, hi]
      | some l => simp [construct, hl]
    | configLedTimer id config err => exact channels_kept (fun _ => rfl) s id
    | addLedChannelConfig id config =>
      funext i
      change (s.call id _).1.channels i =
        if i = id ∧ (s.leds id).isSome then s.channels i ++ [config] else s.channels i
      rw [channels_call]
      by_cases hi : i = id
      · cases hl : s.leds id with
        | none => simp [hi, channels, hl]
        | some l => simp [hi, channels, hl, Led.addLedChannelConfig]
      · simp [hi]
    | init id env => exact channels_kept (Led.init_channels env) s id
    | deinit id =>
      funext i
      change (s.call id _).1.channels i = if i = id then [] else s.channels i
      rw [channels_call]
      cases s.leds id with
      | none => rfl
      | some l => rfl
    | destroy id =>
      funext i
      change (s.destroy id).channels i = if i = id then [] else s.channels i
      by_cases hi : i = id
      · simp [destroy, channels, setLed, hi]
      · simp [destroy, channels, setLed, hi]

theorem channelSound_iff (p : Leds × (Nat → List LedcChannelConfig)) (op : UseOp)
    (hp : p.2 = p.1.channels) : ChannelSound p op ↔ IndexSupplied p op := by
  cases op with
  | configure op => exact Iff.rfl
  | channel id op env =>
    apply forall₂_congr
    intro l hl
    have hc : p.2 id = l.ledcChannels := by rw [hp, channels, hl, Option.map_some, Option.getD_some]
    rw [hc]
    exact Led.drivesSupplied_iff op env (l, p.1.ledc)

/-- The operations drive the channels that were supplied exactly in the runs that never use an
index under which none was. -/
theorem channels_driven_iff (ops : List UseOp) :
    Run.Guarded (Run.watch use seeSupplied) ChannelSound (start, fun _ => []) ops ↔
      Run.Guarded (Run.watch use seeSupplied) IndexSupplied (start, fun _ => []) ops := by
  let Inv (p : Leds × (Nat → List LedcChannelConfig)) : Prop := p.2 = p.1.channels
  have h0 : Inv (start, fun _ => []) := rfl
  have hstep (p : Leds × (Nat → List LedcChannelConfig)) (op : UseOp) (hp : Inv p) :
      Inv (Run.watch use seeSupplied p op) := by
    change seeSupplied p.2 p.1 op = (p.1.use op).channels
    rw [channels_use, hp]
  exact Run.Guarded.congr_invariant h0 hstep channelSound_iff

def emptied : List UseOp :=
  [.configure (.construct 0 ⟨0, 0, 0, 0, 0⟩),
    .configure (.addLedChannelConfig 0 ⟨2, 0, 1, 0, 0, 0, 0⟩), .configure (.deinit 0)]

theorem channel_driven_unsupplied :
    ¬ Run.Guarded (Run.watch use seeSupplied) ChannelSound (start, fun _ => [])
      (emptied ++ [.channel 0 (.setDuty 0 4000) ⟨fun _ => ⟨2, 0, 1, 0, 0, 0, 0⟩, .ok, .ok⟩]) := by
  intro h
  have hsound := h emptied _ List.prefix_rfl
  have hread := (hsound _ rfl).1 0 (by decide)
  exact absurd hread (by decide)

end Leds

end LDM
