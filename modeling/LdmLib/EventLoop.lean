import LdmLib.DeviceThread
import LdmLib.WifiPhase

namespace LDM
set_option autoImplicit true

inductive Event where
  | wifi (e : WiFi.WifiEvent)
  | ip (e : WiFi.IpEvent)

namespace Event

/-- The events the handler answers with `esp_wifi_connect`. -/
def connects : Event → Bool
  | .wifi .staStart => true
  | .wifi .staDisconnected => true
  | _ => false

/-- The events that only the driver's own changes of state give rise to. -/
def ofState : Event → Bool
  | .wifi .staStart => true
  | .wifi .staStop => true
  | .wifi .staDisconnected => true
  | .wifi .apStart => true
  | .wifi .apStop => true
  | _ => false

def handler (err : EspErr) : Event → Prog Device Unit
  | .wifi e => WiFi.wifiEventHandler e err
  | .ip e => WiFi.ipEventHandler e

end Event

/-- The default event loop: its queue, and which handlers are registered with it. -/
structure EventLoop where
  queue : List Event
  wifiHandler : Bool
  ipHandler : Bool

namespace EventLoop

def register (l : EventLoop) : EventBase → EventLoop
  | .wifi => { l with wifiHandler := true }
  | .ip => { l with ipHandler := true }

def hears (l : EventLoop) : Event → Bool
  | .wifi _ => l.wifiHandler
  | .ip _ => l.ipHandler

end EventLoop

/-- A device with its driver and event loop. Of the past it keeps the configurations of the station
under which `esp_wifi_connect` was called and the events that were handled, newest first. -/
structure Board where
  device : Device
  phase : Phase
  mode : WifiMode
  loop : Option EventLoop
  attempts : List WifiConfig
  handled : List Event

namespace Board

/-- The Wi-Fi driver is not initialised, and there is no event loop. -/
def down (d : Device) : Board := ⟨d, .notInit, 0, none, [], []⟩

def post (b : Board) (es : List Event) : Board :=
  { b with loop := b.loop.map fun l => { l with queue := l.queue ++ es } }

def startEvents (mode : WifiMode) : List Event :=
  if mode = WifiMode.sta then [.wifi .staStart]
  else if mode = WifiMode.ap then [.wifi .apStart]
  else if mode = WifiMode.apsta then [.wifi .staStart, .wifi .apStart]
  else []

def stopEvents (mode : WifiMode) : List Event :=
  if mode = WifiMode.sta then [.wifi .staStop]
  else if mode = WifiMode.ap then [.wifi .apStop]
  else if mode = WifiMode.apsta then [.wifi .staStop, .wifi .apStop]
  else []

/-- What a call returns that would else return `err`. -/
def answer (b : Board) (c : Call) (err : EspErr) : EspErr :=
  match c with
  | .eventLoopCreateDefault => if b.loop.isSome then .errInvalidState else err
  | .eventLoopDeleteDefault => if b.loop.isSome then err else .errInvalidState
  | _ => b.phase.answer c err

/-- A call that succeeds. What is still queued when the loop is deleted is lost. -/
def succeeded (b : Board) : Call → Board
  | .eventLoopCreateDefault => { b with loop := some ⟨[], false, false⟩ }
  | .eventLoopDeleteDefault => { b with loop := none }
  | .eventHandlerRegister base => { b with loop := b.loop.map (·.register base) }
  | .wifiSetMode mode => { b with mode := mode }
  | .wifiStart => if b.phase = .stopped then b.post (startEvents b.mode) else b
  | .wifiStop =>
    if b.phase = .notInit ∨ b.phase = .stopped then b else b.post (stopEvents b.mode)
  | _ => b

def attempted (b : Board) : Call → List WifiConfig
  | .wifiConnect => b.device.driver.staConfig :: b.attempts
  | _ => b.attempts

def after (b : Board) (c : Call × EspErr) : Board :=
  { (if c.2 = .ok then b.succeeded c.1 else b) with
    phase := b.phase.after c
    attempts := b.attempted c.1 }

def called (b : Board) (c : Call) (err : EspErr) : Board :=
  { b.after (c, err) with device := b.device.record c err }

/-- An action of a task on the board; a call is answered by the driver. -/
def act (a : Action) (b : Board) : Board × a.Reply :=
  match a with
  | Action.call c err => (b.called c (b.answer c err), b.answer c err)
  | Action.modify f => ({ b with device := f b.device }, ())
  | Action.get => (b, b.device)

/-- A handler has run, and made the calls it leaves in the log. -/
def ran (b : Board) (d : Device) : Board :=
  { (Station.callsSince b.device d).foldr (fun c b => b.after c) b with device := d }

/-- The event task takes the first event from the queue and runs its handler to the end. -/
def deliver (b : Board) (err : EspErr) : Board :=
  match b.loop with
  | none => b
  | some l =>
    match l.queue with
    | [] => b
    | e :: queue =>
      let b := { b with loop := some { l with queue := queue } }
      if l.hears e then { b.ran (e.handler err b.device).1 with handled := e :: b.handled } else b

inductive Input where
  | deliver (err : EspErr)
  | associated
  | lost
  | post (e : Event)

/-- What happens while a task is between two actions. -/
def env (b : Board) : Input → Board
  | .deliver err => b.deliver err
  | .associated => { b with phase := b.phase.associated }
  | .lost =>
    if b.phase = .connecting ∨ b.phase = .connected then
      { b with phase := .idle }.post [.wifi .staDisconnected]
    else b
  | .post e => if e.ofState then b else b.post [e]

variable {b : Board} {l : EventLoop} {e : Event} {err : EspErr} {d : Device}

theorem after_handled (b : Board) (c : Call × EspErr) : (b.after c).handled = b.handled := by
  change (if c.2 = .ok then b.succeeded c.1 else b).handled = b.handled
  split
  · unfold succeeded
    split
    · rfl
    · rfl
    · rfl
    · rfl
    · split
      · rfl
      · rfl
    · split
      · rfl
      · rfl
    · rfl
  · rfl

theorem act_handled (a : Action) (b : Board) : (act a b).1.handled = b.handled := by
  cases a with
  | call c err => exact after_handled b _
  | modify f => rfl
  | get => rfl

theorem post_none (hl : b.loop = none) (es : List Event) : (b.post es).loop = none := by
  rw [post, hl]
  rfl

theorem handler_log (e : Event) (err : EspErr) (d : Device) :
    (e.handler err d).1.log = if e.connects then (.wifiConnect, err) :: d.log else d.log := by
  cases e with
  | wifi e => cases e with
    | _ => rfl
  | ip e => cases e with
    | _ => rfl

theorem handler_driver (e : Event) (err : EspErr) (d : Device) :
    (e.handler err d).1.driver = d.driver := by
  cases e with
  | wifi e => cases e with
    | _ => rfl
  | ip e => cases e with
    | _ => rfl

theorem handler_staConfig (e : Event) (err : EspErr) (d : Device) :
    (e.handler err d).1.wifi.staConfig = d.wifi.staConfig := by
  cases e with
  | wifi e => cases e with
    | _ => rfl
  | ip e => cases e with
    | _ => rfl

theorem callsSince_same (h : d'.log = d.log) : Station.callsSince d d' = [] := by
  rw [Station.callsSince, h, Nat.sub_self, List.take_zero]

theorem callsSince_cons (h : d'.log = c :: d.log) : Station.callsSince d d' = [c] := by
  have hn : (c :: d.log).length - d.log.length = 1 := by
    rw [List.length_cons]
    omega
  rw [Station.callsSince, h, hn]
  rfl

theorem ran_connects (hc : e.connects = true) :
    b.ran (e.handler err b.device).1 =
      { b.after (.wifiConnect, err) with device := (e.handler err b.device).1 } := by
  have hl := handler_log e err b.device
  rw [if_pos hc] at hl
  rw [ran, callsSince_cons hl]
  rfl

theorem ran_quiet (hc : e.connects = false) :
    b.ran (e.handler err b.device).1 = { b with device := (e.handler err b.device).1 } := by
  have hl := handler_log e err b.device
  rw [hc] at hl
  rw [ran, callsSince_same hl]
  rfl

/-- All that can happen while a task is between two actions. -/
inductive Happens (b : Board) : Board → Prop where
  | idle : Happens b b
  | associated : Happens b { b with phase := b.phase.associated }
  | lost (hp : b.phase = .connecting ∨ b.phase = .connected) :
      Happens b ({ b with phase := .idle }.post [.wifi .staDisconnected])
  | posted (e : Event) (he : e.ofState = false) : Happens b (b.post [e])
  | dropped (l : EventLoop) (e : Event) (queue : List Event) (hl : b.loop = some l)
      (hq : l.queue = e :: queue) (hh : l.hears e = false) :
      Happens b { b with loop := some { l with queue := queue } }
  | connects (l : EventLoop) (e : Event) (queue : List Event) (err : EspErr)
      (hl : b.loop = some l) (hq : l.queue = e :: queue) (hh : l.hears e = true)
      (hc : e.connects = true) :
      Happens b { b with
        device := (e.handler err b.device).1
        phase := b.phase.after (.wifiConnect, err)
        loop := some { l with queue := queue }
        attempts := b.device.driver.staConfig :: b.attempts
        handled := e :: b.handled }
  | handled (l : EventLoop) (e : Event) (queue : List Event) (err : EspErr)
      (hl : b.loop = some l) (hq : l.queue = e :: queue) (hh : l.hears e = true)
      (hc : e.connects = false) :
      Happens b { b with
        device := (e.handler err b.device).1
        loop := some { l with queue := queue }
        handled := e :: b.handled }

theorem deliver_none (hl : b.loop = none) (err : EspErr) : b.deliver err = b := by
  rw [deliver, hl]

theorem deliver_nil (hl : b.loop = some l) (hq : l.queue = []) (err : EspErr) :
    b.deliver err = b := by
  unfold deliver
  simp only [hl, hq]

theorem deliver_cons (hl : b.loop = some l) (hq : l.queue = e :: queue) (err : EspErr) :
    b.deliver err =
      (let b := { b with loop := some { l with queue := queue } }
      if l.hears e then { b.ran (e.handler err b.device).1 with handled := e :: b.handled }
      else b) := by
  unfold deliver
  simp only [hl, hq]

theorem deliver_happens (b : Board) (err : EspErr) : Happens b (b.deliver err) := by
  cases hl : b.loop with
  | none =>
    rw [deliver_none hl]
    exact .idle
  | some l =>
    cases hq : l.queue with
    | nil =>
      rw [deliver_nil hl hq]
      exact .idle
    | cons e queue =>
      rw [deliver_cons hl hq]
      cases hh : l.hears e with
      | false => exact .dropped l e queue hl hq hh
      | true =>
        dsimp only
        cases hc : e.connects with
        | true =>
          have ha : Happens b _ := .connects l e queue err hl hq hh hc
          rw [if_pos rfl, ran_connects hc]
          unfold after
          split
          · exact ha
          · exact ha
        | false =>
          rw [if_pos rfl, ran_quiet hc]
          exact .handled l e queue err hl hq hh hc

theorem env_happens (b : Board) (i : Input) : Happens b (b.env i) := by
  cases i with
  | deliver err => exact deliver_happens b err
  | associated => exact .associated
  | lost =>
    by_cases hp : b.phase = .connecting ∨ b.phase = .connected
    · have he : b.env .lost = { b with phase := .idle }.post [.wifi .staDisconnected] := if_pos hp
      rw [he]
      exact .lost hp
    · have he : b.env .lost = b := if_neg hp
      rw [he]
      exact .idle
  | post e =>
    cases ho : e.ofState with
    | true =>
      have he : b.env (.post e) = b := if_pos ho
      rw [he]
      exact .idle
    | false =>
      have he : b.env (.post e) = b.post [e] := if_neg (Bool.eq_false_iff.1 ho)
      rw [he]
      exact .posted e ho

section tasks

variable {P : Board → Prop} {I : Board → Prop} {c : Call}

/-- What happens around a task does not disturb the property. -/
abbrev Undisturbed (P : Board → Prop) : Prop := Thread.Stable env P

theorem undisturbed (hp : ∀ b b', P b → Happens b b' → P b') : Undisturbed P :=
  fun b i hb => hp b _ hb (env_happens b i)

abbrev Triple (P : Board → Prop) (t : Task α) (Q : α → Board → Prop) : Prop :=
  Thread.Triple act env P t Q

theorem returns_call {Q : Board → EspErr → Board → Prop} {l : Board} (hp : Undisturbed P)
    (hq : ∀ b, P b → Q b (b.answer c err) (b.called c (b.answer c err))) (hb : P b) :
    (taskCall c err).Returns act env Q l b :=
  Thread.returns_perform hp hq hb

theorem triple_call {Q : EspErr → Board → Prop} (hp : Undisturbed P)
    (hq : ∀ b, P b → Q (b.answer c err) (b.called c (b.answer c err))) :
    Triple P (taskCall c err) Q :=
  Thread.Triple.perform hp hq

theorem triple_modify {Q : Unit → Board → Prop} {f : Device → Device} (hp : Undisturbed P)
    (hq : ∀ b, P b → Q () { b with device := f b.device }) : Triple P (taskModify f) Q :=
  Thread.Triple.perform hp hq

theorem triple_get {Q : Device → Board → Prop} (hp : Undisturbed P)
    (hq : ∀ b, P b → Q b.device b) : Triple P taskGet Q :=
  Thread.Triple.perform hp hq

/-- A checked call goes on only when it was answered with success. -/
theorem triple_errorCheck {Q : Unit → Board → Prop} (hp : Undisturbed P)
    (hq : ∀ b, P b → b.answer c err = .ok → Q () (b.called c .ok)) :
    Triple P (taskErrorCheck c err) Q := by
  let M (e : EspErr) (b : Board) : Prop := e = .ok → Q () b
  have hc : Triple P (taskCall c err) M := by
    apply triple_call hp
    intro b hb he
    rw [he]
    exact hq b hb he
  apply hc.bind
  intro e
  apply Thread.Triple.ite
  · exact fun he => .pure fun b hb => hb he
  · exact fun _ => .abort

abbrev Keeps (I : Board → Prop) (t : Task α) : Prop := t.Keeps act I

theorem keeps_taskCall (hc : ∀ b e, I b → I (b.called c e)) : Keeps I (taskCall c err) :=
  Thread.Keeps.perform fun b hb => hc b _ hb

theorem keeps_taskModify {f : Device → Device} (hf : ∀ b, I b → I { b with device := f b.device }) :
    Keeps I (taskModify f) :=
  Thread.Keeps.perform hf

theorem keeps_taskGet : Keeps I taskGet := Thread.Keeps.perform fun _ hb => hb

theorem keeps_taskErrorCheck (hc : ∀ b e, I b → I (b.called c e)) :
    Keeps I (taskErrorCheck c err) :=
  .bind (keeps_taskCall hc) fun _ => .ite (.pure ()) .abort

end tasks

end Board

namespace WiFi

open Board

variable {I : Board → Prop}

theorem netifCreateTask_keeps
    (hc : ∀ n b e, I b → I (b.called (.netifCreateDefaultWifi i n) e))
    (hn : ∀ b n, I b → I { b with device.netifs := n }) (created : Bool) :
    Keeps I (netifCreateTask i created) := by
  apply Thread.Keeps.bind keeps_taskGet
  intro d
  apply Thread.Keeps.ite
  · refine .bind (keeps_taskCall (hc _)) fun _ => ?_
    exact .bind (keeps_taskModify fun b => hn b _) fun _ => .pure _
  · exact .bind (keeps_taskCall (hc _)) fun _ => .pure _

/-- What the calls of `init` and its own writes do not touch is kept by every action of it. -/
theorem initTask_keeps (hc : ∀ c b e, InitCall setup c → I b → I (b.called c e))
    (hn : ∀ b n, I b → I { b with device.netifs := n })
    (hs : ∀ b n, I b → I { b with device.wifi.netifSta := n })
    (ha : ∀ b n, I b → I { b with device.wifi.netifAp := n }) (k : Kconfig) (env : InitEnv) :
    Keeps I (initTask k setup env) := by
  have hcall (c : Call) (err : EspErr) (h : InitCall setup c) : Keeps I (taskErrorCheck c err) :=
    keeps_taskErrorCheck fun b e => hc c b e h
  have hcreate (i : WifiInterface) (created : Bool) : Keeps I (netifCreateTask i created) :=
    netifCreateTask_keeps (fun n b e => hc _ b e trivial) hn created
  have hsta : Keeps I (initStaTask k env) := by
    refine .bind (hcreate _ _) fun n => .bind (keeps_taskModify fun b => hs b n) fun _ => ?_
    cases n with
    | none => exact .abort
    | some n => exact keeps_taskCall fun b e => hc _ b e trivial
  have hap : Keeps I (initApTask k env) := by
    refine .bind (hcreate _ _) fun n => .bind (keeps_taskModify fun b => ha b n) fun _ => ?_
    cases n with
    | none => exact .abort
    | some n =>
      exact .bind (hcall _ _ trivial) fun _ => .bind (hcall _ _ trivial) fun _ => hcall _ _ trivial
  have hmode : Keeps I (initModeTask setup env) := by
    apply Thread.Keeps.bind keeps_taskGet
    intro d
    cases setup with
    | sta => exact .bind (hcall _ _ trivial) fun _ => hcall _ _ rfl
    | ap => exact .bind (hcall _ _ trivial) fun _ => hcall _ _ rfl
    | apsta =>
      exact .bind (hcall _ _ trivial) fun _ => .bind (hcall _ _ rfl) fun _ => hcall _ _ rfl
  have hdriver : Keeps I (initDriverTask setup env) := by
    refine .bind (hcall _ _ trivial) fun _ => .bind (hcall _ _ trivial) fun _ => ?_
    refine .bind (hcall _ _ trivial) fun _ => .bind hmode fun _ => ?_
    refine .bind (hcall _ _ trivial) fun _ => .bind keeps_taskGet fun d => ?_
    exact .bind (keeps_taskCall fun b e => hc _ b e trivial) fun _ => .pure ()
  refine .bind (hcall _ _ trivial) fun _ => .bind (hcall _ _ trivial) fun _ => ?_
  refine .bind (.ite hsta (.pure _)) fun _ => .bind (.ite hap (.pure _)) fun _ => ?_
  exact .bind hdriver fun _ => .pure _

theorem deinitTask_keeps (hc : ∀ c b e, DeinitCall c → I b → I (b.called c e))
    (hs : ∀ b, I b → I { b with device.wifi.netifSta := none })
    (hf : ∀ b, I b → I { b with device.wifi.connected := false }) (env : DeinitEnv) :
    Keeps I (deinitTask env) := by
  have hcall (c : Call) (err : EspErr) (h : DeinitCall c) : Keeps I (taskCall c err) :=
    keeps_taskCall fun b e => hc c b e h
  have hdispose (n : Nat) (err : EspErr) : Keeps I (netifDisposeTask n err) :=
    .bind (hcall _ _ trivial) fun _ => .bind (hcall _ _ trivial) fun _ => .pure _
  have hsta : Keeps I (deinitStaTask env) := by
    apply Thread.Keeps.bind keeps_taskGet
    intro d
    cases d.wifi.netifSta with
    | none => exact .pure _
    | some n => exact .bind (hdispose _ _) fun _ => .bind (keeps_taskModify hs) fun _ => .pure _
  have hap : Keeps I (deinitApTask env) := by
    apply Thread.Keeps.bind keeps_taskGet
    intro d
    cases d.wifi.netifAp with
    | none => exact .pure _
    | some n => exact .bind (hdispose _ _) fun _ => .bind (keeps_taskModify hs) fun _ => .pure _
  refine .bind (hcall _ _ trivial) fun _ => .ite (.pure _) ?_
  refine .bind (hcall _ _ trivial) fun _ => .ite (.pure _) ?_
  refine .bind hsta fun _ => .bind hap fun _ => ?_
  refine .bind (keeps_taskErrorCheck fun b e => hc _ b e trivial) fun _ => ?_
  exact .bind (keeps_taskModify hf) fun _ => .pure _

end WiFi

end LDM
