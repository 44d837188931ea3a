import LdmLib.Esp
import LdmLib.Run

namespace LDM
set_option autoImplicit true

structure LedcTimerConfig where
  speedMode : Nat
  dutyResolution : Nat
  timerNum : Nat
  freqHz : Nat
  clkCfg : Nat
  deriving DecidableEq, Repr

structure LedcChannelConfig where
  gpioNum : Nat
  speedMode : Nat
  channel : Nat
  intrType : Nat
  timerSel : Nat
  duty : Nat
  hpoint : Nat
  deriving DecidableEq, Repr

/-- `ledc_fade_mode_t`, by its number: the library only passes it on. -/
abbrev LedcFadeMode := Nat

inductive LedcCall where
  | timerConfig (config : LedcTimerConfig)
  | channelConfig (config : LedcChannelConfig)
  | fadeFuncInstall
  | fadeFuncUninstall
  | setFadeWithTime (speedMode channel : Nat) (targetDuty : UInt32) (maxFadeTimeMs : Int32)
  | setFadeWithStep (speedMode channel : Nat) (targetDuty : UInt32) (scale cycleNum : Int32)
  | fadeStart (speedMode channel : Nat) (fadeMode : LedcFadeMode)
  | setDuty (speedMode channel : Nat) (targetDuty : UInt32)
  | updateDuty (speedMode channel : Nat)
  deriving DecidableEq, Repr

/-- The channel a call acts on, which is named by its speed mode and its number. -/
def LedcCall.target : LedcCall → Option (Nat × Nat)
  | .timerConfig _ => none
  | .channelConfig config => some (config.speedMode, config.channel)
  | .fadeFuncInstall => none
  | .fadeFuncUninstall => none
  | .setFadeWithTime speedMode channel _ _ => some (speedMode, channel)
  | .setFadeWithStep speedMode channel _ _ _ => some (speedMode, channel)
  | .fadeStart speedMode channel _ => some (speedMode, channel)
  | .setDuty speedMode channel _ => some (speedMode, channel)
  | .updateDuty speedMode channel => some (speedMode, channel)

/-- The LEDC driver of the process: whether its one fade service is installed, and the calls made
with what they returned, newest first. -/
structure Ledc where
  fadeInstalled : Bool
  log : List (LedcCall × EspErr)

namespace Ledc

def record (d : Ledc) (c : LedcCall) (err : EspErr) : Ledc := { d with log := (c, err) :: d.log }

@[simp] theorem record_fadeInstalled (d : Ledc) (c : LedcCall) (err : EspErr) :
    (d.record c err).fadeInstalled = d.fadeInstalled := rfl

def fadeFuncInstall (d : Ledc) (err : EspErr) : Ledc × EspErr :=
  if d.fadeInstalled then (d.record .fadeFuncInstall .errInvalidState, .errInvalidState)
  else ({ d.record .fadeFuncInstall err with fadeInstalled := err = .ok }, err)

/-- The service is removed whoever installed it. -/
def fadeFuncUninstall (d : Ledc) : Ledc :=
  { d.record .fadeFuncUninstall .ok with fadeInstalled := false }

end Ledc

/-- An object of class `LED`. -/
structure Led where
  ledcTimer : LedcTimerConfig
  ledcChannels : List LedcChannelConfig
  deriving DecidableEq, Repr

namespace Led

/-- What the LEDC calls of `init` return; `channel i` is for the `i`-th channel. -/
structure InitEnv where
  timer : EspErr
  channel : Nat → EspErr
  install : EspErr

def initOk : InitEnv := ⟨.ok, fun _ => .ok, .ok⟩

def configLedTimer (config : LedcTimerConfig) (err : EspErr) (s : Led × Ledc) :
    (Led × Ledc) × EspErr :=
  (({ s.1 with ledcTimer := config }, s.2.record (.timerConfig config) err), err)

def addLedChannelConfig (config : LedcChannelConfig) (s : Led × Ledc) : (Led × Ledc) × EspErr :=
  (({ s.1 with ledcChannels := s.1.ledcChannels ++ [config] }, s.2), .ok)

/-- The loop of `init`, from the `i`-th channel on. -/
def configChannels (errs : Nat → EspErr) (i : Nat) (s : Led × Ledc) :
    List LedcChannelConfig → (Led × Ledc) × EspErr
  | [] => (s, .ok)
  | c :: cs =>
    errCheck ((s.1, s.2.record (.channelConfig c) (errs i)), errs i) fun s =>
      configChannels errs (i + 1) s cs

def init (env : InitEnv) (s : Led × Ledc) : (Led × Ledc) × EspErr :=
  errCheck (configLedTimer s.1.ledcTimer env.timer s) fun s =>
    errCheck (configChannels env.channel 0 s s.1.ledcChannels) fun s =>
      ((s.1, (s.2.fadeFuncInstall env.install).1), (s.2.fadeFuncInstall env.install).2)

def deinit (s : Led × Ledc) : (Led × Ledc) × EspErr :=
  (({ s.1 with ledcChannels := [] }, s.2.fadeFuncUninstall), .ok)

section keeps

variable {P : Led × Ledc → Prop}

theorem configChannels_keeps (hcall : ∀ s c err, P s → P (s.1, s.2.record c err))
    (errs : Nat → EspErr) (i : Nat) (cs : List LedcChannelConfig) {s : Led × Ledc} (hs : P s) :
    P (configChannels errs i s cs).1 := by
  induction cs generalizing i s with
  | nil => exact hs
  | cons c cs ih =>
    have hr : P (s.1, s.2.record (.channelConfig c) (errs i)) := hcall s _ _ hs
    exact errCheck_keeps hr fun s hs => ih (i + 1) hs

/-- What the single LEDC calls keep, and the installation of the service, `init` keeps. -/
theorem init_keeps (hcall : ∀ s c err, P s → P (s.1, s.2.record c err))
    (hinstall : ∀ s err, P s → P (s.1, (s.2.fadeFuncInstall err).1)) (env : InitEnv)
    {s : Led × Ledc} (hs : P s) : P (init env s).1 := by
  have ht : P (configLedTimer s.1.ledcTimer env.timer s).1 := hcall s _ _ hs
  apply errCheck_keeps ht
  intro s hs
  have hc := configChannels_keeps hcall env.channel 0 s.1.ledcChannels hs
  exact errCheck_keeps hc fun s hs => hinstall s env.install hs

end keeps

/-- What the two LEDC calls of an operation on a channel return, and what its `k`-th read of
`ledc_channels` finds where the vector has no element. -/
structure ChannelEnv where
  outside : Nat → LedcChannelConfig
  first : EspErr
  second : EspErr

/-- An operation on a channel at work, with the indices it has read `ledc_channels` at, newest
first. -/
structure Work where
  led : Led
  ledc : Ledc
  reads : List Nat

/-- `ledc_channels[channel_idx]`: the index is not compared with the size. -/
def readChannel (outside : Nat → LedcChannelConfig) (channelIdx : UInt16) (w : Work) :
    Work × LedcChannelConfig :=
  ({ w with reads := channelIdx.toNat :: w.reads },
    w.led.ledcChannels[channelIdx.toNat]?.getD (outside w.reads.length))

/-- An LEDC call with the speed mode and the number of the channel, each read for itself. -/
def callChannel (outside : Nat → LedcChannelConfig) (channelIdx : UInt16)
    (call : Nat → Nat → LedcCall) (err : EspErr) (w : Work) : Work × EspErr :=
  let mode := readChannel outside channelIdx w
  let number := readChannel outside channelIdx mode.1
  ({ number.1 with
      ledc := number.1.ledc.record (call mode.2.speedMode number.2.channel) err }, err)

def drive (first second : Nat → Nat → LedcCall) (channelIdx : UInt16) (env : ChannelEnv)
    (w : Work) : Work × EspErr :=
  errCheck (callChannel env.outside channelIdx first env.first w) fun w =>
    callChannel env.outside channelIdx second env.second w

def fadeLedWithTime (channelIdx : UInt16) (targetDuty : UInt32) (maxFadeTimeMs : Int32)
    (fadeMode : LedcFadeMode) : ChannelEnv → Work → Work × EspErr :=
  drive (fun speedMode channel => .setFadeWithTime speedMode channel targetDuty maxFadeTimeMs)
    (fun speedMode channel => .fadeStart speedMode channel fadeMode) channelIdx

def fadeLedWithStep (channelIdx : UInt16) (targetDuty : UInt32) (scale cycleNum : Int32)
    (fadeMode : LedcFadeMode) : ChannelEnv → Work → Work × EspErr :=
  drive (fun speedMode channel => .setFadeWithStep speedMode channel targetDuty scale cycleNum)
    (fun speedMode channel => .fadeStart speedMode channel fadeMode) channelIdx

def setDuty (channelIdx : UInt16) (targetDuty : UInt32) : ChannelEnv → Work → Work × EspErr :=
  drive (fun speedMode channel => .setDuty speedMode channel targetDuty) .updateDuty channelIdx

inductive ChannelOp where
  | fadeLedWithTime (channelIdx : UInt16) (targetDuty : UInt32) (maxFadeTimeMs : Int32)
      (fadeMode : LedcFadeMode)
  | fadeLedWithStep (channelIdx : UInt16) (targetDuty : UInt32) (scale cycleNum : Int32)
      (fadeMode : LedcFadeMode)
  | setDuty (channelIdx : UInt16) (targetDuty : UInt32)
  deriving DecidableEq, Repr

namespace ChannelOp

def channelIdx : ChannelOp → UInt16
  | .fadeLedWithTime channelIdx _ _ _ => channelIdx
  | .fadeLedWithStep channelIdx _ _ _ _ => channelIdx
  | .setDuty channelIdx _ => channelIdx

def work : ChannelOp → ChannelEnv → Work → Work × EspErr
  | .fadeLedWithTime channelIdx targetDuty maxFadeTimeMs fadeMode =>
    Led.fadeLedWithTime channelIdx targetDuty maxFadeTimeMs fadeMode
  | .fadeLedWithStep channelIdx targetDuty scale cycleNum fadeMode =>
    Led.fadeLedWithStep channelIdx targetDuty scale cycleNum fadeMode
  | .setDuty channelIdx targetDuty => Led.setDuty channelIdx targetDuty

def run (op : ChannelOp) (env : ChannelEnv) (s : Led × Ledc) : Work × EspErr :=
  op.work env ⟨s.1, s.2, []⟩

def apply (op : ChannelOp) (env : ChannelEnv) (s : Led × Ledc) : (Led × Ledc) × EspErr :=
  (((op.run env s).1.led, (op.run env s).1.ledc), (op.run env s).2)

end ChannelOp

end Led

/-- The `LED` objects of the process, and the driver they share. -/
structure Leds where
  leds : Nat → Option Led
  ledc : Ledc

namespace Leds

def start : Leds := ⟨fun _ => none, ⟨false, []⟩⟩

def setLed (s : Leds) (id : Nat) (l : Option Led) : Nat → Option Led :=
  fun i => if i = id then l else s.leds i

/-- A call of a member function of the object `id`. -/
def call (s : Leds) (id : Nat) (f : Led × Ledc → (Led × Ledc) × EspErr) : Leds × EspErr :=
  match s.leds id with
  | none => (s, .fail)
  | some l =>
    let r := f (l, s.ledc)
    (⟨s.setLed id (some r.1.1), r.1.2⟩, r.2)

theorem call_some {s : Leds} {id : Nat} {l : Led} (hl : s.leds id = some l)
    (f : Led × Ledc → (Led × Ledc) × EspErr) :
    (s.call id f).2 = (f (l, s.ledc)).2 ∧ (s.call id f).1.ledc = (f (l, s.ledc)).1.2 := by
  rw [call, hl]
  exact ⟨rfl, rfl⟩

theorem call_none {s : Leds} {id : Nat} (hl : s.leds id = none)
    (f : Led × Ledc → (Led × Ledc) × EspErr) : s.call id f = (s, .fail) := by
  rw [call, hl]

/-- There is no constructor, so the timer is whatever the memory held. -/
def construct (s : Leds) (id : Nat) (ledcTimer : LedcTimerConfig) : Leds :=
  match s.leds id with
  | none => { s with leds := s.setLed id (some ⟨ledcTimer, []⟩) }
  | some _ => s

/-- The destructor calls `deinit`, and the object is gone. -/
def destroy (s : Leds) (id : Nat) : Leds :=
  { (s.call id Led.deinit).1 with leds := s.setLed id none }

inductive Op where
  | construct (id : Nat) (ledcTimer : LedcTimerConfig)
  | configLedTimer (id : Nat) (config : LedcTimerConfig) (err : EspErr)
  | addLedChannelConfig (id : Nat) (config : LedcChannelConfig)
  | init (id : Nat) (env : Led.InitEnv)
  | deinit (id : Nat)
  | destroy (id : Nat)

def apply (s : Leds) : Op → Leds × EspErr
  | .construct id ledcTimer => (s.construct id ledcTimer, .ok)
  | .configLedTimer id config err => s.call id (Led.configLedTimer config err)
  | .addLedChannelConfig id config => s.call id (Led.addLedChannelConfig config)
  | .init id env => s.call id (Led.init env)
  | .deinit id => s.call id Led.deinit
  | .destroy id => (s.destroy id, .ok)

def step (s : Leds) (op : Op) : Leds := (s.apply op).1

end Leds

end LDM
