import LdmLib.BlufiRace
import LdmLib.WifiHosting

namespace LDM
set_option autoImplicit true

namespace Phase

/-- Of the phases of the driver, those that it does not leave of its own accord, nor by an attempt
to connect. -/
structure Steady (ph : Phase → Prop) : Prop where
  associated : ∀ p, ph p → ph p.associated
  lost : ∀ p, ph p → p = .connecting ∨ p = .connected → ph .idle
  connect : ∀ p err, ph p → ph (p.after (.wifiConnect, err))

def Inited (p : Phase) : Prop := p ≠ .notInit

def Started (p : Phase) : Prop := p ≠ .notInit ∧ p ≠ .stopped

theorem steady_true : Steady fun _ => True := ⟨fun _ _ => trivial, fun _ _ _ => trivial,
  fun _ _ _ => trivial⟩

theorem after_connect (p : Phase) (err : EspErr) :
    p.after (.wifiConnect, err) = p ∨ p.after (.wifiConnect, err) = .connecting := by
  by_cases h : err = .ok ∧ p = .idle
  · exact .inr (if_pos h)
  · exact .inl (if_neg h)

theorem steady_inited : Steady Inited where
  associated p h := by
    cases p with
    | notInit => exact absurd rfl h
    | _ => exact nofun
  lost p h hp := nofun
  connect p err h := by
    rcases p.after_connect err with hp | hp
    · rwa [hp]
    · rw [hp]
      exact nofun

theorem steady_started : Steady Started where
  associated p h := by
    cases p with
    | notInit => exact absurd rfl h.1
    | stopped => exact absurd rfl h.2
    | _ => exact ⟨nofun, nofun⟩
  lost p h hp := ⟨nofun, nofun⟩
  connect p err h := by
    rcases p.after_connect err with hp | hp
    · rwa [hp]
    · rw [hp]
      exact ⟨nofun, nofun⟩

end Phase

namespace Board

/-- There is an event loop, with as many handlers as `init` has registered so far. -/
structure Stage (wifi ip : Bool) (ph : Phase → Prop) (b : Board) : Prop where
  loop : ∃ l, b.loop = some l ∧ (wifi = true → l.wifiHandler = true) ∧
    (ip = true → l.ipHandler = true)
  phase : ph b.phase

/-- The calls of `init` that do not concern the driver's phase and the event loop. -/
def Setting : Call → Prop
  | .netifInit => True
  | .netifCreateDefaultWifi _ _ => True
  | .netifSetHostname _ _ => True
  | .netifDhcpsStop _ => True
  | .netifSetIpInfo _ _ _ _ => True
  | .wifiSetMode _ => True
  | .wifiSetConfig _ _ => True
  | .wifiSetPs _ => True
  | _ => False

variable {b b' : Board} {wifi ip : Bool} {ph : Phase → Prop} {c : Call}

theorem setting_called (hc : Setting c) (b : Board) (e : EspErr) :
    (b.called c e).loop = b.loop ∧ (b.called c e).phase = b.phase := by
  have hs : (b.succeeded c).loop = b.loop := by cases c <;> first | rfl | exact hc.elim
  have hp : b.phase.after (c, e) = b.phase := by cases c <;> first | rfl | exact hc.elim
  refine ⟨?_, hp⟩
  change (if e = .ok then b.succeeded c else b).loop = b.loop
  split
  · exact hs
  · rfl

theorem Stage.congr (h : Stage wifi ip ph b) (hl : b'.loop = b.loop) (hp : b'.phase = b.phase) :
    Stage wifi ip ph b' :=
  ⟨hl.symm ▸ h.loop, hp.symm ▸ h.phase⟩

theorem Stage.setting (h : Stage wifi ip ph b) (c : Call) (e : EspErr) (hc : Setting c) :
    Stage wifi ip ph (b.called c e) := by
  obtain ⟨hl, hp⟩ := setting_called hc b e
  exact h.congr hl hp

/-- Events come and go; the handlers stay. -/
theorem Stage.happens (hs : Phase.Steady ph) (h : Stage wifi ip ph b) (hh : Happens b b') :
    Stage wifi ip ph b' := by
  obtain ⟨⟨l, hl, hw, hi⟩, hp⟩ := h
  cases hh with
  | idle => exact ⟨⟨l, hl, hw, hi⟩, hp⟩
  | associated => exact ⟨⟨l, hl, hw, hi⟩, hs.associated _ hp⟩
  | lost hc =>
    have hl' : ({ b with phase := .idle } : Board).loop = some l := hl
    exact ⟨⟨_, Ble.post_loop hl' _, hw, hi⟩, hs.lost _ hp hc⟩
  | posted e => exact ⟨⟨_, Ble.post_loop hl _, hw, hi⟩, hp⟩
  | dropped l' e queue hl' =>
    cases hl.symm.trans hl'
    exact ⟨⟨_, rfl, hw, hi⟩, hp⟩
  | connects l' e queue err hl' =>
    cases hl.symm.trans hl'
    exact ⟨⟨_, rfl, hw, hi⟩, hs.connect _ err hp⟩
  | handled l' e queue err hl' =>
    cases hl.symm.trans hl'
    exact ⟨⟨_, rfl, hw, hi⟩, hp⟩

theorem Stage.undisturbed (hs : Phase.Steady ph) : Undisturbed (Stage wifi ip ph) :=
  Board.undisturbed fun _ _ h hh => h.happens hs hh

end Board

namespace WiFi

open Board

variable {wifi ip : Bool} {ph : Phase → Prop}

theorem stage_check (c : Call) (err : EspErr) (hc : Setting c) :
    Keeps (Stage wifi ip ph) (taskErrorCheck c err) :=
  keeps_taskErrorCheck fun _ e hb => hb.setting c e hc

theorem stage_call (c : Call) (err : EspErr) (hc : Setting c) :
    Keeps (Stage wifi ip ph) (taskCall c err) :=
  keeps_taskCall fun _ e hb => hb.setting c e hc

theorem stage_modify (f : Device → Device) : Keeps (Stage wifi ip ph) (taskModify f) :=
  keeps_taskModify fun _ hb => hb.congr rfl rfl

theorem netifCreateTask_stage (i : WifiInterface) (created : Bool) :
    Keeps (Stage wifi ip ph) (netifCreateTask i created) :=
  netifCreateTask_keeps (fun _ _ e hb => hb.setting _ e trivial) (fun _ _ hb => hb.congr rfl rfl)
    created

theorem initStaTask_stage (k : Kconfig) (env : InitEnv) :
    Keeps (Stage wifi ip ph) (initStaTask k env) := by
  refine .bind (netifCreateTask_stage _ _) fun n => .bind (stage_modify _) fun _ => ?_
  cases n with
  | none => exact .abort
  | some n => exact stage_call _ _ trivial

theorem initApTask_stage (k : Kconfig) (env : InitEnv) :
    Keeps (Stage wifi ip ph) (initApTask k env) := by
  refine .bind (netifCreateTask_stage _ _) fun n => .bind (stage_modify _) fun _ => ?_
  cases n with
  | none => exact .abort
  | some n =>
    refine .bind (stage_check _ _ trivial) fun _ => .bind (stage_check _ _ trivial) fun _ => ?_
    exact stage_check _ _ trivial

theorem initModeTask_stage (setup : WifiSetup) (env : InitEnv) :
    Keeps (Stage wifi ip ph) (initModeTask setup env) := by
  refine .bind keeps_taskGet fun d => ?_
  cases setup with
  | sta => exact .bind (stage_check _ _ trivial) fun _ => stage_check _ _ trivial
  | ap => exact .bind (stage_check _ _ trivial) fun _ => stage_check _ _ trivial
  | apsta =>
    refine .bind (stage_check _ _ trivial) fun _ => .bind (stage_check _ _ trivial) fun _ => ?_
    exact stage_check _ _ trivial

/-- A part of `init` that changes no stage. -/
theorem stays (hs : Phase.Steady ph) {t : Task α} (h : Keeps (Stage wifi ip ph) t) :
    Triple (Stage wifi ip ph) t fun _ b => Stage wifi ip ph b :=
  Thread.Triple.of_keeps (Stage.undisturbed hs) h

theorem created_stage (env : InitEnv) :
    Triple (fun _ => True) (taskErrorCheck .eventLoopCreateDefault env.eventLoopCreate)
      fun _ b => Stage false false (fun _ => True) b :=
  triple_errorCheck (fun _ _ _ => trivial) fun _ _ _ => ⟨⟨_, rfl, nofun, nofun⟩, trivial⟩

theorem inited_stage (env : InitEnv) :
    Triple (Stage false false fun _ => True) (taskErrorCheck .wifiInit env.wifiInit)
      fun _ b => Stage false false Phase.Inited b := by
  apply triple_errorCheck (Stage.undisturbed Phase.steady_true)
  intro b hb _
  refine ⟨hb.loop, ?_⟩
  change (if EspErr.ok = .ok ∧ b.phase = .notInit then Phase.stopped else b.phase) ≠ .notInit
  by_cases hp : b.phase = .notInit
  · rw [if_pos ⟨rfl, hp⟩]
    exact nofun
  · rw [if_neg fun h => hp h.2]
    exact hp

/-- One more handler is registered with the loop. -/
theorem registered_stage (base : EventBase) (err : EspErr) :
    Triple (Stage wifi ip Phase.Inited) (taskErrorCheck (.eventHandlerRegister base) err)
      fun _ b => Stage (wifi || base = .wifi) (ip || base = .ip) Phase.Inited b := by
  apply triple_errorCheck (Stage.undisturbed Phase.steady_inited)
  intro b hb _
  obtain ⟨⟨l, hl, hw, hi⟩, hp⟩ := hb
  have hl' : (b.called (.eventHandlerRegister base) .ok).loop = some (l.register base) := by
    change b.loop.map _ = _
    rw [hl]
    rfl
  refine ⟨⟨_, hl', ?_, ?_⟩, hp⟩
  · cases base with
    | wifi => exact fun _ => rfl
    | ip => simpa [EventLoop.register] using hw
  · cases base with
    | wifi => simpa [EventLoop.register] using hi
    | ip => exact fun _ => rfl

theorem started_stage (env : InitEnv) :
    Triple (Stage true true Phase.Inited) (taskErrorCheck .wifiStart env.start)
      fun _ b => Stage true true Phase.Started b := by
  apply triple_errorCheck (Stage.undisturbed Phase.steady_inited)
  intro b hb _
  obtain ⟨⟨l, hl, hw, hi⟩, hp⟩ := hb
  by_cases hs : b.phase = .stopped
  · have hc : b.called .wifiStart .ok =
        { (b.post (startEvents b.mode)) with
          phase := .idle
          device := b.device.record .wifiStart .ok } := by
      simp only [called, after, succeeded, attempted, hs, if_pos, Phase.after, and_self]
      rfl
    rw [hc]
    exact ⟨⟨_, Ble.post_loop hl _, hw, hi⟩, nofun, nofun⟩
  · have hc : b.called .wifiStart .ok = { b with device := b.device.record .wifiStart .ok } := by
      simp only [called, after, succeeded, attempted, hs, if_pos, if_false, Phase.after, and_false]
    rw [hc]
    exact ⟨⟨l, hl, hw, hi⟩, hp, hs⟩

/-- An `init` that returns leaves both handlers registered and the driver started, whatever
happened in the meantime. -/
theorem initTask_returns (k : Kconfig) (setup : WifiSetup) (env : InitEnv) :
    Triple (fun _ => True) (initTask k setup env) fun _ b => Stage true true Phase.Started b := by
  have hnetif : Triple (fun _ => True) (taskErrorCheck .netifInit env.netifInit)
      fun _ _ => True :=
    fun l s _ => Thread.returns_true _ l s
  have hsta : Triple (Stage false false fun _ => True)
      (taskOnlyIf (setup = .sta ∨ setup = .apsta) .ok (initStaTask k env))
      fun _ b => Stage false false (fun _ => True) b :=
    stays Phase.steady_true (.ite (initStaTask_stage k env) (.pure _))
  have hap : Triple (Stage false false fun _ => True)
      (taskOnlyIf (setup = .ap ∨ setup = .apsta) () (initApTask k env))
      fun _ b => Stage false false (fun _ => True) b :=
    stays Phase.steady_true (.ite (initApTask_stage k env) (.pure _))
  refine hnetif.bind fun _ => (created_stage env).bind fun _ => hsta.bind fun err => ?_
  refine hap.bind fun _ => Thread.Triple.bind ?_ fun _ => .pure fun _ hb => hb
  refine (inited_stage env).bind fun _ => (registered_stage .wifi _).bind fun _ => ?_
  refine (registered_stage .ip _).bind fun _ => ?_
  refine (stays Phase.steady_inited (initModeTask_stage setup env)).bind fun _ => ?_
  refine (started_stage env).bind fun _ => ?_
  refine (stays Phase.steady_started keeps_taskGet).bind fun d => ?_
  have hps : Triple (Stage true true Phase.Started)
      (taskCall (.wifiSetPs d.wifi.powerSaveMode) env.setPs)
      fun _ b => Stage true true Phase.Started b :=
    stays Phase.steady_started (stage_call _ _ trivial)
  exact hps.bind fun _ => .pure fun _ hb => hb

end WiFi

namespace App

open Board

/-- Whether there was an event loop when the latest call began, and whether since `init` returned
no call has begun. -/
structure Session where
  found : Bool
  up : Bool
  deriving DecidableEq, Repr

def seeSession (q : Session) (s : App) : Input → Session
  | .begin _ => if s.running.isNone then ⟨s.board.loop.isSome, false⟩ else q
  | .step =>
    match s.returns with
    | some (.init _ _, _) => { q with up := true }
    | _ => q
  | .event _ => q

/-- An `init` that returns found no event loop. -/
def FoundNone (p : App × Session) (i : Input) : Prop :=
  i = .step → ∀ setup env err, p.1.returns = some (.init setup env, err) → p.2.found = false

def Hears (p : App × Session) : Prop :=
  p.2.up = true → ∃ l, p.1.board.loop = some l ∧ l.wifiHandler = true ∧ l.ipHandler = true ∧
    p.1.board.phase ≠ .notInit ∧ p.1.board.phase ≠ .stopped

structure SessionInv (p : App × Session) : Prop where
  up : p.2.up = true → p.1.running = none ∧ Stage true true Phase.Started p.1.board
  underway : ∀ setup env t, p.1.running = some (.init setup env, t) →
    Thread.Pending act Board.env
      (fun _ _ b => p.2.found = false ∧ Stage true true Phase.Started b) (t, p.1.board)

variable {p : App × Session}

theorem boot_session (k : Kconfig) (r : Driver) : SessionInv (boot k r, ⟨false, false⟩) where
  up h := by cases h
  underway _ _ _ h := by cases h

theorem init_underway (k : Kconfig) (setup : WifiSetup) (env : WiFi.InitEnv) (b : Board) :
    Thread.Pending act Board.env
      (fun _ _ b' => b.loop.isSome = false ∧ Stage true true Phase.Started b')
      (WiFi.initTask k setup env, b) := by
  apply Thread.Pending.of_returns (l := b)
  cases hl : b.loop.isSome with
  | true => exact (Ble.initTask_refused k setup env b b hl).mono fun _ _ _ h => h.elim
  | false => exact (WiFi.initTask_returns k setup env b b trivial).mono fun _ _ _ h => ⟨rfl, h⟩

theorem SessionInv.event (hi : SessionInv p) (k : Kconfig) (i : Board.Input) :
    SessionInv (Run.watch (step k) seeSession p (.event i)) where
  up hu := by
    obtain ⟨hr, hs⟩ := hi.up hu
    exact ⟨hr, Stage.undisturbed Phase.steady_started p.1.board i hs⟩
  underway setup env t h := (hi.underway setup env t h).step (some i)

theorem SessionInv.begin (hi : SessionInv p) (k : Kconfig) (c : WifiCall) :
    SessionInv (Run.watch (step k) seeSession p (.begin c)) := by
  obtain ⟨s, q⟩ := p
  cases hr : s.running with
  | some r =>
    have he : Run.watch (step k) seeSession (s, q) (.begin c) = (s, q) := by
      simp only [Run.watch, step, seeSession, hr, Option.isNone_some, if_neg Bool.false_ne_true]
    rw [he]
    exact hi
  | none =>
    simp only [Run.watch, step, seeSession, hr, Option.isNone_none, if_pos]
    constructor
    case up =>
      intro h
      cases h
    case underway =>
      intro setup env t h
      cases h
      exact init_underway k setup env s.board

theorem seeSession_otherwise {s : App} (h : ∀ setup env err, s.returns ≠ some (.init setup env, err))
    (q : Session) : seeSession q s .step = q := by
  unfold seeSession
  dsimp only
  split
  · next setup env err he => exact absurd he (h setup env err)
  · rfl

theorem SessionInv.step (hi : SessionInv p) (k : Kconfig) :
    SessionInv (Run.watch (App.step k) seeSession p .step) := by
  obtain ⟨s, q⟩ := p
  by_cases hret : ∃ setup env err, s.returns = some (.init setup env, err)
  · obtain ⟨setup, env, err, hret⟩ := hret
    obtain ⟨t, ht, hv⟩ := returns_eq_some hret
    have hq := (hi.underway setup env t ht).returning hv
    have hdone := Thread.interleave_returning Board.env hv
    have hs : s.step k .step = ⟨(Thread.interleave act Board.env (t, s.board) none).2, none⟩ := by
      rw [step_running ht, hdone]
      rfl
    unfold Run.watch
    dsimp only
    rw [hs]
    constructor
    case up => exact fun _ => ⟨rfl, hq.2⟩
    case underway => exact fun _ _ _ h => nomatch h
  · have hq : seeSession q s .step = q :=
      seeSession_otherwise (fun setup env err h => hret ⟨setup, env, err, h⟩) q
    unfold Run.watch
    dsimp only
    rw [hq]
    cases hr : s.running with
    | none =>
      rw [step_waiting hr]
      exact hi
    | some r =>
      obtain ⟨c, t⟩ := r
      rw [step_running hr]
      constructor
      case up =>
        intro hu
        have hn := (hi.up hu).1
        cases hr.symm.trans hn
      case underway =>
        intro setup env t' h
        obtain ⟨rfl, rfl⟩ := remains_eq_some h
        exact (hi.underway setup env t hr).step none

theorem SessionInv.watch (hi : SessionInv p) (k : Kconfig) (i : Input) :
    SessionInv (Run.watch (App.step k) seeSession p i) := by
  cases i with
  | begin c => exact hi.begin k c
  | step => exact hi.step k
  | event i => exact hi.event k i

/-- In every run, whatever is delivered when: an `init` that finds an event loop never returns, and
from the return of one to the next call both handlers hear of every event and the driver is
started. -/
theorem sessions_follow (k : Kconfig) (r : Driver) (inputs : List Input) :
    Run.Guarded (Run.watch (step k) seeSession) FoundNone (boot k r, ⟨false, false⟩) inputs ∧
      Run.Always (Run.watch (step k) seeSession) Hears (boot k r, ⟨false, false⟩) inputs := by
  apply And.intro
  · refine Run.guarded_of_invariant (boot_session k r) (fun p i hi => hi.watch k i) ?_ inputs
    rintro p i hi rfl setup env err hret
    obtain ⟨t, ht, hv⟩ := returns_eq_some hret
    exact ((hi.underway setup env t ht).returning hv).1
  · intro pre _ hu
    have hi : SessionInv (Run.run (Run.watch (step k) seeSession) (boot k r, ⟨false, false⟩) pre) :=
      Run.run_invariant (boot_session k r) (fun p i hi => hi.watch k i) pre
    obtain ⟨⟨l, hl, hw, hp⟩, hs, hn⟩ := (hi.up hu).2
    exact ⟨l, hl, hw rfl, hp rfl, hs, hn⟩

end App

end LDM
