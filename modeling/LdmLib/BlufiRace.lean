import LdmLib.EventLoop

namespace LDM.Ble
set_option autoImplicit true

open Bytes Board

/-- `initBlufi(config)` about to run on a device whose Wi-Fi is down. -/
def calling (k : Kconfig) (config : WifiConfig) (profile : EspErr) (env : WiFi.InitEnv)
    (setConfigErr : EspErr) (d : Device) : Task EspErr × Board :=
  (initBlufiWithTask k config profile env setConfigErr, .down d)

/-- An action of the call, or what happens between two of them. -/
def race (p : Task EspErr × Board) (i : Option Board.Input) : Task EspErr × Board :=
  Thread.interleave act Board.env p i

/-- A call that returns `err` and leaves the board as it is has applied the configuration, before
any attempt to connect, or has reported that it did not. -/
def Applied (config : WifiConfig) (err : EspErr) (b : Board) : Prop :=
  (err = .ok → b.device.driver.staConfig = config ∧ ∀ c ∈ b.attempts, c = config) ∧
    ∀ e, b.device.log.head? = some (.wifiSetConfig .sta config, e) → e ≠ .ok → err ≠ .ok

def ReturnsApplied (config : WifiConfig) (p : Task EspErr × Board) (i : Option Board.Input) :
    Prop :=
  i = none → ∀ err, Thread.returning act p = some err → Applied config err (race p i).2

/-- The station's start was posted and has not been delivered. -/
def StartQueued (b : Board) : Prop := ∃ l, b.loop = some l ∧ .wifi .staStart ∈ l.queue

/-- The last call of `initBlufi` succeeds, and comes before the event task gets to connect with the
configuration of the constructor, unless that is the very same. -/
def InTime (config : WifiConfig) (setConfigErr : EspErr) (b : Board) : Prop :=
  b.phase ≠ .connecting ∧ setConfigErr = .ok ∧
    (StartQueued b ∨ toConfig b.device.wifi.staConfig = config)

def CalledInTime (config : WifiConfig) (profile : EspErr) (env : WiFi.InitEnv)
    (setConfigErr : EspErr) (p : Task EspErr × Board) (i : Option Board.Input) : Prop :=
  i = none → (Thread.returning act p).isSome → profile = .ok → env.staHostname = .ok →
    InTime config setConfigErr p.2

variable {m : Mem} {b b' : Board} {e : Event}

/-- The driver is not started, and nothing queued makes the station connect. -/
structure Before (m : Mem) (b : Board) : Prop where
  config : b.device.wifi.staConfig = m
  attempts : b.attempts = []
  quiet : ∀ l, b.loop = some l → ∀ e ∈ l.queue, e.connects = false
  phase : b.phase = .notInit ∨ b.phase = .stopped

theorem connects_of_ofState (he : e.ofState = false) : e.connects = false := by
  cases e with
  | wifi e => cases e with
    | staStart => cases he
    | staDisconnected => cases he
    | _ => rfl
  | ip e => rfl

theorem post_loop (hl : b.loop = some l) (es : List Event) :
    (b.post es).loop = some { l with queue := l.queue ++ es } := by
  rw [post, hl]
  rfl

theorem post_queue {es : List Event} (h : (b.post es).loop = some l') :
    ∃ l, b.loop = some l ∧ l' = { l with queue := l.queue ++ es } := by
  obtain ⟨l, hl, he⟩ := Option.map_eq_some_iff.1 h
  exact ⟨l, hl, he.symm⟩

/-- A driver that is not started, or is idle, neither completes nor loses an association. -/
theorem phase_unlinked {p : Phase} (hp : p = .notInit ∨ p = .stopped ∨ p = .idle) :
    p.associated = p ∧ ¬ (p = .connecting ∨ p = .connected) := by
  rcases hp with rfl | rfl | rfl
  · decide
  · decide
  · decide

/-- What is queued was queued before, or has just been posted. -/
theorem queued_before (h : Happens b b') (hl' : b'.loop = some l') (he : e ∈ l'.queue) :
    (∃ l, b.loop = some l ∧ e ∈ l.queue) ∨ e.ofState = false ∨
      e = .wifi .staDisconnected ∧ (b.phase = .connecting ∨ b.phase = .connected) := by
  have htail {l : EventLoop} {x : Event} {queue : List Event} (hl : b.loop = some l)
      (hq : l.queue = x :: queue) (hx : e ∈ queue) : ∃ l, b.loop = some l ∧ e ∈ l.queue :=
    ⟨l, hl, hq ▸ List.mem_cons_of_mem x hx⟩
  cases h with
  | idle => exact .inl ⟨l', hl', he⟩
  | associated => exact .inl ⟨l', hl', he⟩
  | lost hp =>
    obtain ⟨l, hl, rfl⟩ := post_queue hl'
    rcases List.mem_append.1 he with he | he
    · exact .inl ⟨l, hl, he⟩
    · exact .inr (.inr ⟨List.mem_singleton.1 he, hp⟩)
  | posted x hx =>
    obtain ⟨l, hl, rfl⟩ := post_queue hl'
    rcases List.mem_append.1 he with he | he
    · exact .inl ⟨l, hl, he⟩
    · rw [List.mem_singleton.1 he]
      exact .inr (.inl hx)
  | dropped l x queue hl hq =>
    cases hl'
    exact .inl (htail hl hq he)
  | connects l x queue err hl hq =>
    cases hl'
    exact .inl (htail hl hq he)
  | handled l x queue err hl hq =>
    cases hl'
    exact .inl (htail hl hq he)

def Registered (b : Board) : Prop := ∃ l, b.loop = some l ∧ l.wifiHandler = true

/-- What only the application changes is as before. -/
structure Frame (b b' : Board) : Prop where
  mode : b'.mode = b.mode
  driver : b'.device.driver = b.device.driver
  staConfig : b'.device.wifi.staConfig = b.device.wifi.staConfig
  loop : b.loop.isSome → b'.loop.isSome
  registered : Registered b → Registered b'

theorem frame_post (b : Board) (es : List Event) : Frame b (b.post es) where
  mode := rfl
  driver := rfl
  staConfig := rfl
  loop hs := (Option.isSome_map ..).trans hs
  registered hr := by
    obtain ⟨l, hl, hr⟩ := hr
    exact ⟨_, post_loop hl es, hr⟩

theorem happens_frame (h : Happens b b') : Frame b b' := by
  have htail (l : EventLoop) (hl : b.loop = some l) (hr : Registered b) :
      l.wifiHandler = true := by
    obtain ⟨l', hl', hr⟩ := hr
    rw [hl] at hl'
    cases hl'
    exact hr
  cases h with
  | idle => exact ⟨rfl, rfl, rfl, id, id⟩
  | associated => exact ⟨rfl, rfl, rfl, id, id⟩
  | lost =>
    have hf := frame_post { b with phase := .idle } [.wifi .staDisconnected]
    exact ⟨rfl, rfl, rfl, hf.loop, hf.registered⟩
  | posted e => exact frame_post b [e]
  | dropped l e queue hl =>
    exact ⟨rfl, rfl, rfl, fun _ => rfl, fun hr => ⟨_, rfl, htail l hl hr⟩⟩
  | connects l e queue err hl =>
    exact ⟨rfl, handler_driver e err b.device, handler_staConfig e err b.device, fun _ => rfl,
      fun hr => ⟨_, rfl, htail l hl hr⟩⟩
  | handled l e queue err hl =>
    exact ⟨rfl, handler_driver e err b.device, handler_staConfig e err b.device, fun _ => rfl,
      fun hr => ⟨_, rfl, htail l hl hr⟩⟩

theorem Before.happens (hb : Before m b) (h : Happens b b') : Before m b' ∧ b'.phase = b.phase := by
  have hp : b.phase.associated = b.phase ∧ ¬ (b.phase = .connecting ∨ b.phase = .connected) :=
    phase_unlinked (hb.phase.imp_right .inl)
  have hsame : b'.attempts = b.attempts ∧ b'.phase = b.phase := by
    cases h with
    | associated => exact ⟨rfl, hp.1⟩
    | lost hl => exact absurd hl hp.2
    | connects l e queue err hl hq _ hc =>
      have hn := hb.quiet l hl e (hq ▸ List.mem_cons_self)
      rw [hn] at hc
      cases hc
    | _ => exact ⟨rfl, rfl⟩
  obtain ⟨ha, hph⟩ := hsame
  have hquiet : ∀ l', b'.loop = some l' → ∀ e ∈ l'.queue, e.connects = false := by
    intro l' hl' e he
    obtain ⟨l, hl, he⟩ | ho | ⟨-, hd⟩ := queued_before h hl' he
    · exact hb.quiet l hl e he
    · exact connects_of_ofState ho
    · exact absurd hd hp.2
  exact ⟨⟨(happens_frame h).staConfig.trans hb.config, ha.trans hb.attempts, hquiet,
    hph.symm ▸ hb.phase⟩, hph⟩

theorem before_undisturbed : Undisturbed (Before m) :=
  undisturbed fun _ _ hb h => (hb.happens h).1

theorem before_and_undisturbed {X : Board → Prop}
    (hx : ∀ b b', Happens b b' → b'.phase = b.phase → X b → X b') :
    Undisturbed fun b => Before m b ∧ X b := by
  apply undisturbed
  intro b b' hboth h
  obtain ⟨hb, hxb⟩ := hboth
  obtain ⟨hb', hp⟩ := hb.happens h
  exact ⟨hb', hx b b' h hp hxb⟩

theorem called_plain {c : Call} (err : EspErr) (hs : ∀ b : Board, b.succeeded c = b)
    (hp : ∀ p : Phase, p.after (c, err) = p) (ha : ∀ b : Board, b.attempted c = b.attempts) :
    b.called c err = { b with device := b.device.record c err } := by
  unfold called after
  simp only [hs, ite_self, hp, ha]

/-- The calls of `init` that are nothing to the driver and the event loop. -/
def Plain : Call → Prop
  | .netifInit => True
  | .netifCreateDefaultWifi _ _ => True
  | .netifSetHostname _ _ => True
  | .wifiSetConfig _ _ => True
  | .wifiSetPs _ => True
  | .blufiProfileInit => True
  | _ => False

theorem called_of_plain (c : Call) (hc : Plain c) (err : EspErr) :
    b.called c err = { b with device := b.device.record c err } := by
  cases c with
  | netifInit => exact called_plain err (fun _ => rfl) (fun _ => rfl) (fun _ => rfl)
  | netifCreateDefaultWifi => exact called_plain err (fun _ => rfl) (fun _ => rfl) (fun _ => rfl)
  | netifSetHostname => exact called_plain err (fun _ => rfl) (fun _ => rfl) (fun _ => rfl)
  | wifiSetConfig => exact called_plain err (fun _ => rfl) (fun _ => rfl) (fun _ => rfl)
  | wifiSetPs => exact called_plain err (fun _ => rfl) (fun _ => rfl) (fun _ => rfl)
  | blufiProfileInit => exact called_plain err (fun _ => rfl) (fun _ => rfl) (fun _ => rfl)
  | _ => exact hc.elim

theorem Before.device (hb : Before m b) (hd : d.wifi.staConfig = b.device.wifi.staConfig) :
    Before m { b with device := d } :=
  ⟨hd.trans hb.config, hb.attempts, hb.quiet, hb.phase⟩

theorem Before.plain (hb : Before m b) (c : Call) (hc : Plain c) (err : EspErr) :
    Before m (b.called c err) := by
  rw [called_of_plain c hc]
  exact hb.device rfl

/-- The first part of `init` gives the station its netif; the call that can fail is its last. -/
theorem initStaTask_before (k : Kconfig) (env : WiFi.InitEnv) :
    Triple (fun b => Before m b ∧ b.loop.isSome) (WiFi.initStaTask k env)
      fun err b => err = env.staHostname ∧ Before m b ∧ b.loop.isSome := by
  let P (b : Board) : Prop := Before m b ∧ b.loop.isSome
  have hp : Undisturbed P := before_and_undisturbed fun _ _ h _ => (happens_frame h).loop
  have hplain (c : Call) (hc : Plain c) (b : Board) (e : EspErr) (hb : P b) : P (b.called c e) := by
    refine ⟨hb.1.plain c hc e, ?_⟩
    rw [called_of_plain c hc]
    exact hb.2
  have hcreate : Triple P (WiFi.netifCreateTask .sta env.createSta) fun _ b => P b := by
    apply Thread.Triple.of_keeps hp
    apply WiFi.netifCreateTask_keeps
    · exact fun n => hplain (.netifCreateDefaultWifi .sta n) trivial
    · exact fun b n hb => ⟨hb.1.device rfl, hb.2⟩
  apply hcreate.bind
  intro n
  have hset : Triple P (taskModify fun d => { d with wifi.netifSta := n }) fun _ b => P b :=
    triple_modify hp fun b hb => ⟨hb.1.device rfl, hb.2⟩
  apply hset.bind
  intro _
  cases n with
  | none => exact .abort
  | some n =>
    apply triple_call hp
    intro b hb
    exact ⟨rfl, hplain (.netifSetHostname n k.staHostname) trivial b _ hb⟩

/-- The start was posted and no attempt made, or attempts were made with the configuration of the
constructor. -/
inductive Attempts (m : Mem) (b : Board) : Prop where
  | waiting (ha : b.attempts = []) (hp : b.phase = .idle) (l : EventLoop) (hl : b.loop = some l)
      (hr : l.wifiHandler = true)
      (hq : l.queue.filter (·.connects) = [.wifi .staStart]) : Attempts m b
  | made (hn : b.attempts ≠ []) (ha : ∀ c ∈ b.attempts, c = toConfig m)
      (hq : ∀ l, b.loop = some l → .wifi .staStart ∉ l.queue) : Attempts m b

/-- `init` has started the driver with the configuration of the constructor. -/
structure Started (m : Mem) (b : Board) : Prop where
  config : b.device.wifi.staConfig = m
  driver : b.device.driver.staConfig = toConfig m
  attempts : Attempts m b

theorem filter_connects_cons {queue : List Event} (h : e.connects = false) :
    (e :: queue).filter (·.connects) = queue.filter (·.connects) :=
  List.filter_cons_of_neg (Bool.eq_false_iff.1 h)

theorem Attempts.happens (ha : Attempts m b) (hd : b.device.driver.staConfig = toConfig m)
    (h : Happens b b') : Attempts m b' := by
  cases ha with
  | waiting ha hp l hl hr hq =>
    have hu := phase_unlinked (.inr (.inr hp))
    cases h with
    | idle => exact .waiting ha hp l hl hr hq
    | associated => exact .waiting ha (hu.1.trans hp) l hl hr hq
    | lost hlost => exact absurd hlost hu.2
    | posted e he =>
      have hq' : (l.queue ++ [e]).filter (·.connects) = [.wifi .staStart] := by
        rw [List.filter_append, hq, filter_connects_cons (connects_of_ofState he)]
        rfl
      exact .waiting ha hp _ (post_loop hl [e]) hr hq'
    | dropped l' e queue hl' hq' hh =>
      rw [hl] at hl'
      cases hl'
      have hc : e.connects = false := by
        cases e with
        | wifi e => cases hr.symm.trans hh
        | ip e => rfl
      rw [hq', filter_connects_cons hc] at hq
      exact .waiting ha hp { l with queue := queue } rfl hr hq
    | connects l' e queue err hl' hq' _ hc =>
      rw [hl] at hl'
      cases hl'
      rw [hq', List.filter_cons_of_pos hc] at hq
      obtain ⟨-, hq⟩ := List.cons.inj hq
      apply Attempts.made
      · exact List.cons_ne_nil _ _
      · intro c hm
        rw [ha] at hm
        rw [List.mem_singleton.1 hm]
        exact hd
      · rintro _ ⟨⟩ hs
        exact List.filter_eq_nil_iff.1 hq _ hs rfl
    | handled l' e queue err hl' hq' _ hc =>
      rw [hl] at hl'
      cases hl'
      rw [hq', filter_connects_cons hc] at hq
      exact .waiting ha hp { l with queue := queue } rfl hr hq
  | made hn ha hq =>
    have hq' : ∀ l', b'.loop = some l' → .wifi .staStart ∉ l'.queue := by
      intro l' hl' hs
      obtain ⟨l, hl, hs⟩ | ho | ⟨he, -⟩ := queued_before h hl' hs
      · exact hq l hl hs
      · cases ho
      · cases he
    cases h with
    | connects l e queue err hl =>
      apply Attempts.made
      · exact List.cons_ne_nil _ _
      · intro c hm
        rcases List.mem_cons.1 hm with rfl | hm
        · exact hd
        · exact ha c hm
      · exact hq'
    | _ => exact .made hn ha hq'

theorem Attempts.device (ha : Attempts m b) (d : Device) : Attempts m { b with device := d } := by
  cases ha with
  | waiting ha hp l hl hr hq => exact .waiting ha hp l hl hr hq
  | made hn ha hq => exact .made hn ha hq

theorem started_undisturbed : Undisturbed (Started m) := by
  apply undisturbed
  intro b b' hb h
  have hf := happens_frame h
  have hd : b'.device.driver.staConfig = toConfig m := by
    rw [hf.driver]
    exact hb.driver
  exact ⟨hf.staConfig.trans hb.config, hd, hb.attempts.happens hb.driver h⟩

theorem Started.plain (hb : Started m b) (ps : PowerSave) (err : EspErr) :
    Started m (b.called (.wifiSetPs ps) err) := by
  rw [called_of_plain (.wifiSetPs ps) trivial]
  exact ⟨hb.config, hb.driver, hb.attempts.device _⟩

theorem Before.created (hb : Before m b) :
    Before m (b.called .eventLoopCreateDefault .ok) ∧
      (b.called .eventLoopCreateDefault .ok).loop.isSome := by
  have hquiet (l : EventLoop)
      (hl : (b.called .eventLoopCreateDefault .ok).loop = some l) :
      ∀ e ∈ l.queue, e.connects = false := by
    cases hl
    intro e he
    cases he
  exact ⟨⟨hb.config, hb.attempts, hquiet, hb.phase⟩, rfl⟩

theorem Before.wifiInit (hb : Before m b) :
    Before m (b.called .wifiInit .ok) ∧ (b.called .wifiInit .ok).loop = b.loop ∧
      (b.called .wifiInit .ok).phase = .stopped := by
  have hp : (b.called .wifiInit .ok).phase = .stopped := by
    change (if EspErr.ok = .ok ∧ b.phase = .notInit then Phase.stopped else b.phase) = .stopped
    rcases hb.phase with hp | hp
    · rw [hp]
      rfl
    · rw [hp]
      rfl
  exact ⟨⟨hb.config, hb.attempts, hb.quiet, .inr hp⟩, rfl, hp⟩

theorem Before.register (hb : Before m b) (hs : b.loop.isSome) (base : EventBase) :
    Before m (b.called (.eventHandlerRegister base) .ok) ∧
      (base = .wifi → Registered (b.called (.eventHandlerRegister base) .ok)) ∧
      (Registered b → Registered (b.called (.eventHandlerRegister base) .ok)) := by
  obtain ⟨l, hl⟩ := Option.isSome_iff_exists.1 hs
  have hl' : (b.called (.eventHandlerRegister base) .ok).loop = some (l.register base) := by
    change b.loop.map _ = _
    rw [hl]
    rfl
  refine ⟨⟨hb.config, hb.attempts, ?_, hb.phase⟩, ?_, ?_⟩
  · intro l' h e he
    rw [hl'] at h
    cases h
    cases base with
    | wifi => exact hb.quiet l hl e he
    | ip => exact hb.quiet l hl e he
  · intro hbase
    subst hbase
    exact ⟨_, hl', rfl⟩
  · intro hreg
    obtain ⟨l', h, hr⟩ := hreg
    rw [hl] at h
    cases h
    cases base with
    | wifi => exact ⟨_, hl', rfl⟩
    | ip => exact ⟨_, hl', hr⟩

/-- All is set for the driver to start as a station. -/
structure Primed (m : Mem) (b : Board) : Prop extends Before m b where
  stopped : b.phase = .stopped
  registered : Registered b
  mode : b.mode = WifiMode.sta
  driver : b.device.driver.staConfig = toConfig m

theorem Primed.start (hb : Primed m b) : Started m (b.called .wifiStart .ok) := by
  obtain ⟨l, hl, hr⟩ := hb.registered
  have hpost : (b.called .wifiStart .ok).loop =
      some { l with queue := l.queue ++ [.wifi .staStart] } := by
    change (if b.phase = .stopped then b.post (startEvents b.mode) else b).loop = _
    rw [if_pos hb.stopped, hb.mode]
    exact post_loop hl [.wifi .staStart]
  have hphase : (b.called .wifiStart .ok).phase = .idle := by
    change (if EspErr.ok = .ok ∧ b.phase = .stopped then Phase.idle else b.phase) = .idle
    rw [hb.stopped]
    rfl
  have hquiet : l.queue.filter (·.connects) = [] := by
    apply List.filter_eq_nil_iff.2
    intro e he
    exact Bool.eq_false_iff.1 (hb.quiet l hl e he)
  refine ⟨hb.config, hb.driver, .waiting hb.attempts hphase _ hpost hr ?_⟩
  rw [List.filter_append, hquiet]
  rfl

theorem primed_undisturbed : Undisturbed (Primed m) := by
  apply undisturbed
  intro b b' hb h
  obtain ⟨hb', hp⟩ := hb.toBefore.happens h
  have hf := happens_frame h
  have hd : b'.device.driver.staConfig = toConfig m := by
    rw [hf.driver]
    exact hb.driver
  exact ⟨hb', hp.trans hb.stopped, hf.registered hb.registered, hf.mode.trans hb.mode, hd⟩

theorem initModeTask_primed (env : WiFi.InitEnv) :
    Triple (fun b => Before m b ∧ b.phase = .stopped ∧ Registered b) (WiFi.initModeTask .sta env)
      fun _ b => Primed m b := by
  let P (b : Board) : Prop := Before m b ∧ b.phase = .stopped ∧ Registered b
  let P' (b : Board) : Prop := Before m b ∧ b.phase = .stopped ∧ Registered b ∧
    b.mode = WifiMode.sta
  have hp : Undisturbed P := before_and_undisturbed fun b b' h hph hx =>
    ⟨hph.trans hx.1, (happens_frame h).registered hx.2⟩
  have hp' : Undisturbed P' := before_and_undisturbed fun b b' h hph hx =>
    ⟨hph.trans hx.1, (happens_frame h).registered hx.2.1, (happens_frame h).mode.trans hx.2.2⟩
  have hget : Triple P taskGet fun d b => d.wifi.staConfig = m ∧ P b :=
    triple_get hp fun b hb => ⟨hb.1.config, hb⟩
  apply hget.bind
  intro d
  by_cases hd : d.wifi.staConfig = m
  · have hmode : Triple P (taskErrorCheck (.wifiSetMode WifiMode.sta) env.setMode)
        fun _ b => P' b := by
      apply triple_errorCheck hp
      rintro b ⟨hb, hs, hr⟩ _
      exact ⟨⟨hb.config, hb.attempts, hb.quiet, hb.phase⟩, hs, hr, rfl⟩
    have hset : Triple P' (taskErrorCheck (.wifiSetConfig .sta (toConfig d.wifi.staConfig))
        env.setStaConfig) fun _ b => Primed m b := by
      apply triple_errorCheck hp'
      rintro b ⟨hb, hs, hr, hm⟩ _
      have hb' := hb.plain (.wifiSetConfig .sta (toConfig d.wifi.staConfig)) trivial .ok
      rw [called_of_plain (.wifiSetConfig .sta (toConfig d.wifi.staConfig)) trivial] at hb' ⊢
      exact ⟨hb', hs, hr, hm, congrArg toConfig hd⟩
    exact (hmode.bind fun _ => hset).mono (fun _ hb => hb.2) fun _ _ hb => hb
  · exact fun l b hb => absurd hb.1 hd

theorem initDriverTask_started (env : WiFi.InitEnv) :
    Triple (fun b => Before m b ∧ b.loop.isSome) (WiFi.initDriverTask .sta env)
      fun _ b => Started m b := by
  let P1 (b : Board) : Prop := Before m b ∧ b.phase = .stopped ∧ b.loop.isSome
  let P2 (b : Board) : Prop := Before m b ∧ b.phase = .stopped ∧ Registered b
  have hp0 : Undisturbed fun b => Before m b ∧ b.loop.isSome :=
    before_and_undisturbed fun b b' h _ => (happens_frame h).loop
  have hp1 : Undisturbed P1 := before_and_undisturbed fun b b' h hph hx =>
    ⟨hph.trans hx.1, (happens_frame h).loop hx.2⟩
  have hp2 : Undisturbed P2 := before_and_undisturbed fun b b' h hph hx =>
    ⟨hph.trans hx.1, (happens_frame h).registered hx.2⟩
  have hinit : Triple (fun b => Before m b ∧ b.loop.isSome) (taskErrorCheck .wifiInit env.wifiInit)
      fun _ b => P1 b := by
    apply triple_errorCheck hp0
    rintro b ⟨hb, hl⟩ _
    obtain ⟨hb', hl', hs⟩ := hb.wifiInit
    exact ⟨hb', hs, hl'.symm ▸ hl⟩
  have hwifi : Triple P1 (taskErrorCheck (.eventHandlerRegister .wifi) env.registerWifi)
      fun _ b => P2 b := by
    apply triple_errorCheck hp1
    rintro b ⟨hb, hs, hl⟩ _
    obtain ⟨hb', hr, -⟩ := hb.register hl .wifi
    exact ⟨hb', hs, hr rfl⟩
  have hip : Triple P2 (taskErrorCheck (.eventHandlerRegister .ip) env.registerIp)
      fun _ b => P2 b := by
    apply triple_errorCheck hp2
    rintro b ⟨hb, hs, hr⟩ _
    obtain ⟨l, hl, hw⟩ := hr
    obtain ⟨hb', -, hr'⟩ := hb.register (Option.isSome_iff_exists.2 ⟨l, hl⟩) .ip
    exact ⟨hb', hs, hr' ⟨l, hl, hw⟩⟩
  have hstart : Triple (Primed m) (taskErrorCheck .wifiStart env.start) fun _ b => Started m b :=
    triple_errorCheck primed_undisturbed fun b hb _ => hb.start
  have hget : Triple (Started m) taskGet fun _ b => Started m b :=
    triple_get started_undisturbed fun b hb => hb
  apply hinit.bind
  intro _
  apply hwifi.bind
  intro _
  apply hip.bind
  intro _
  apply (initModeTask_primed env).bind
  intro _
  apply hstart.bind
  intro _
  apply hget.bind
  intro d
  have hps : Triple (Started m) (taskCall (.wifiSetPs d.wifi.powerSaveMode) env.setPs)
      fun _ b => Started m b :=
    triple_call started_undisturbed fun b hb => hb.plain _ _
  exact hps.bind fun _ => .pure fun _ hb => hb

theorem initTask_started (k : Kconfig) (env : WiFi.InitEnv) :
    Triple (Before m) (WiFi.initTask k .sta env)
      fun err b => err = env.staHostname ∧ Started m b := by
  have hnetif : Triple (Before m) (taskErrorCheck .netifInit env.netifInit) fun _ b => Before m b :=
    triple_errorCheck before_undisturbed fun b hb _ => hb.plain .netifInit trivial .ok
  have hcreate : Triple (Before m) (taskErrorCheck .eventLoopCreateDefault env.eventLoopCreate)
      fun _ b => Before m b ∧ b.loop.isSome :=
    triple_errorCheck before_undisturbed fun b hb _ => hb.created
  apply hnetif.bind
  intro _
  apply hcreate.bind
  intro _
  apply (initStaTask_before k env).bind
  intro err
  by_cases he : err = env.staHostname
  · exact ((initDriverTask_started env).mono (fun _ hb => hb.2) fun _ _ hb => hb).bind fun _ =>
      .pure fun b hb => ⟨he, hb⟩
  · exact fun l b hb => absurd hb.1 he

/-- With an event loop already there `init` never returns, since it cannot create another. -/
theorem initTask_refused (k : Kconfig) (setup : WifiSetup) (env : WiFi.InitEnv) :
    Triple (fun b => b.loop.isSome) (WiFi.initTask k setup env) fun _ _ => False := by
  have hp : Undisturbed fun b => b.loop.isSome :=
    undisturbed fun _ _ hb h => (happens_frame h).loop hb
  have hnetif : Triple (fun b => b.loop.isSome) (taskErrorCheck .netifInit env.netifInit)
      fun _ b => b.loop.isSome :=
    triple_errorCheck hp fun b hb _ => by
      rw [called_of_plain .netifInit trivial]
      exact hb
  have hcreate : Triple (fun b => b.loop.isSome)
      (taskErrorCheck .eventLoopCreateDefault env.eventLoopCreate) fun _ _ => False := by
    apply triple_errorCheck hp
    intro b hb ha
    have hr : b.answer .eventLoopCreateDefault env.eventLoopCreate = .errInvalidState := if_pos hb
    exact EspErr.errInvalidState_ne_ok (hr.symm.trans ha)
  apply hnetif.bind
  intro _
  apply hcreate.bind
  exact fun _ _ _ hb => hb.elim

theorem answer_setConfig (b : Board) (config : WifiConfig) (err : EspErr) :
    b.answer (.wifiSetConfig .sta config) err = .ok ↔ b.phase ≠ .connecting ∧ err = .ok := by
  change (if b.phase = .connecting then EspErr.errWifiState else err) = .ok ↔ _
  by_cases hp : b.phase = .connecting
  · rw [if_pos hp]
    exact iff_of_false EspErr.errWifiState_ne_ok fun h => h.1 hp
  · rw [if_neg hp]
    exact (and_iff_right hp).symm

/-- The call that ends `initBlufi` when all before it succeeded. -/
theorem applied_iff_inTime (hb : Started m b) (config : WifiConfig) (err : EspErr) :
    let c := Call.wifiSetConfig .sta config
    Applied config .ok (b.called c (b.answer c err)) ↔ InTime config err b := by
  intro c
  rw [called_of_plain c trivial]
  unfold InTime
  rw [← and_assoc, ← answer_setConfig b config err]
  by_cases he : b.answer c err = .ok
  · rw [he]
    have hdrv : (b.device.record c .ok).driver.staConfig = config := rfl
    have happlied : Applied config .ok { b with device := b.device.record c .ok } ↔
        ∀ x ∈ b.attempts, x = config := by
      apply Iff.intro
      · exact fun h => (h.1 rfl).2
      · intro h
        refine ⟨fun _ => ⟨hdrv, h⟩, ?_⟩
        rintro e ⟨⟩ hne
        exact absurd rfl hne
    rw [happlied, and_iff_right rfl, hb.config]
    cases hb.attempts with
    | waiting ha hp l hl hr hq =>
      apply iff_of_true
      · intro x hx
        rw [ha] at hx
        cases hx
      · have hmem : .wifi .staStart ∈ l.queue.filter (·.connects) := by
          rw [hq]
          exact List.mem_singleton_self _
        exact .inl ⟨l, hl, (List.mem_filter.1 hmem).1⟩
    | made hn ha hq =>
      obtain ⟨x, hx⟩ := List.exists_mem_of_ne_nil _ hn
      apply Iff.intro
      · exact fun h => .inr ((ha x hx).symm.trans (h x hx))
      · intro hin
        rcases hin with ⟨l, hl, hs⟩ | hc
        · exact absurd hs (hq l hl)
        · exact fun y hy => (ha y hy).trans hc
  · apply iff_of_false
    · exact fun h => h.2 _ rfl he rfl
    · exact fun h => he h.1

theorem applied_of_error (he : err ≠ .ok) (config : WifiConfig) (b : Board) :
    Applied config err b :=
  ⟨fun h => absurd h he, fun _ _ _ => he⟩

/-- Whatever comes between its actions, the value `initBlufi` returns is right exactly when its last
action is in time. -/
theorem initBlufiWithTask_returns (k : Kconfig) (config : WifiConfig) (profile : EspErr)
    (env : WiFi.InitEnv) (setConfigErr : EspErr) (d : Device) :
    (initBlufiWithTask k config profile env setConfigErr).Returns act Board.env
      (fun b err b' => Applied config err b' ↔
        (profile = .ok → env.staHostname = .ok → InTime config setConfigErr b))
      (.down d) (.down d) := by
  let m := d.wifi.staConfig
  have h0 : Before m (.down d) := ⟨rfl, rfl, (fun _ h => nomatch h), .inl rfl⟩
  have hprofile : Triple (Before m) (taskCall .blufiProfileInit profile)
      fun err b => err = profile ∧ Before m b :=
    triple_call before_undisturbed fun b hb => ⟨rfl, hb.plain .blufiProfileInit trivial _⟩
  apply (hprofile _ _ h0).bind
  rintro l err b ⟨rfl, hb⟩
  apply Thread.Returns.ite
  · intro he
    exact iff_of_true (applied_of_error he config b) fun h => absurd h he
  · intro he
    have hok : err = .ok := not_not.1 he
    apply (initTask_started k env l b hb).bind
    rintro l err' b ⟨rfl, hb⟩
    have hlast (b : Board) (hb : Started m b) :
        let c := Call.wifiSetConfig .sta config
        Applied config env.staHostname (b.called c (b.answer c setConfigErr)) ↔
          (err = .ok → env.staHostname = .ok → InTime config setConfigErr b) := by
      intro c
      by_cases hs : env.staHostname = .ok
      · have hiff := applied_iff_inTime hb config setConfigErr
        rw [hs]
        exact hiff.trans ⟨fun h _ _ => h, fun h => h hok rfl⟩
      · exact iff_of_true (applied_of_error hs config _) fun _ h => absurd h hs
    have hcall : (taskCall (.wifiSetConfig .sta config) setConfigErr).Returns act Board.env
        (fun b _ b' => Applied config env.staHostname b' ↔
          (err = .ok → env.staHostname = .ok → InTime config setConfigErr b)) l b :=
      returns_call started_undisturbed hlast hb
    exact hcall.bind fun _ _ _ h => h

/-- In every interleaving `initBlufi(config)` reports success only for a configuration that is in
force and under which alone the station tried to connect, exactly when its last call is in time. -/
theorem configuration_applied_iff (k : Kconfig) (config : WifiConfig) (profile : EspErr)
    (env : WiFi.InitEnv) (setConfigErr : EspErr) (d : Device) (inputs : List (Option Board.Input)) :
    Run.Guarded race (ReturnsApplied config) (calling k config profile env setConfigErr d) inputs ↔
      Run.Guarded race (CalledInTime config profile env setConfigErr)
        (calling k config profile env setConfigErr d) inputs := by
  let Q (b : Board) (err : EspErr) (b' : Board) : Prop := Applied config err b' ↔
    (profile = .ok → env.staHostname = .ok → InTime config setConfigErr b)
  have h0 : Thread.Pending act Board.env Q (calling k config profile env setConfigErr d) :=
    .of_returns (initBlufiWithTask_returns k config profile env setConfigErr d)
  apply Run.Guarded.congr_invariant h0
  · exact fun p i hp => hp.step i
  · intro p i hp
    apply imp_congr_right
    rintro rfl
    cases hr : Thread.returning act p with
    | none => exact iff_of_true (fun _ h => nomatch h) fun h => nomatch h
    | some err =>
      have hq : Q p.2 err (race p none).2 := hp.returning hr
      apply Iff.intro
      · exact fun h _ => hq.1 (h err rfl)
      · rintro h _ ⟨⟩
        exact hq.2 (h rfl)

/-- The start is delivered before the last call, which the connecting driver then refuses: success
is reported all the same. -/
theorem configuration_refused :
    ¬ Run.Guarded race (ReturnsApplied fun _ => 1)
      (calling Kconfig.defaults (fun _ => 1) .ok WiFi.initOk .ok
        (Device.boot Kconfig.defaults ⟨fun _ => 0, fun _ => 0⟩))
      (List.replicate 17 none ++ [some (.deliver .ok), none]) := by
  intro h
  have ha := h (List.replicate 17 none ++ [some (.deliver .ok)]) none List.prefix_rfl rfl .ok rfl
  exact ha.2 .errWifiState rfl EspErr.errWifiState_ne_ok rfl

end LDM.Ble
