import LdmLib.EventLoop

namespace LDM
set_option autoImplicit true

/-- The calls of an application that brings the Wi-Fi up and down. -/
inductive WifiCall where
  | init (setup : WifiSetup) (env : WiFi.InitEnv)
  | deinit (env : WiFi.DeinitEnv)

def WifiCall.task (k : Kconfig) : WifiCall → Task EspErr
  | .init setup env => WiFi.initTask k setup env
  | .deinit env => WiFi.deinitTask env

/-- An application on its board, with the call it is in and what of it is still to do. -/
structure App where
  board : Board
  running : Option (WifiCall × Task EspErr)

namespace App

inductive Input where
  | begin (c : WifiCall)
  | step
  | event (i : Board.Input)

def boot (k : Kconfig) (r : Driver) : App := ⟨.down (Device.boot k r), none⟩

/-- A call that returns is over; one that aborts is never over. -/
def remains (c : WifiCall) : Task EspErr → Option (WifiCall × Task EspErr)
  | .done _ => none
  | t => some (c, t)

def step (k : Kconfig) (s : App) : Input → App
  | .begin c =>
    match s.running with
    | none => { s with running := some (c, c.task k) }
    | some _ => s
  | .step =>
    match s.running with
    | none => s
    | some (c, t) =>
      let r := Thread.interleave Board.act Board.env (t, s.board) none
      ⟨r.2, remains c r.1⟩
  | .event i => { s with board := s.board.env i }

/-- The call that returns with its next action, and what it returns. -/
def returns (s : App) : Option (WifiCall × EspErr) :=
  match s.running with
  | none => none
  | some (c, t) =>
    match Thread.returning Board.act (t, s.board) with
    | none => none
    | some err => some (c, err)

/-- Since `deinit` returned `ESP_OK` no `init` has begun. -/
def seeDown (u : Bool) (s : App) : Input → Bool
  | .begin (.init _ _) => if s.running.isNone then false else u
  | .step =>
    match s.returns with
    | some (.deinit _, err) => if err = .ok then true else u
    | _ => u
  | _ => u

def FlagsDown (p : App × Bool) : Prop :=
  p.2 = true → p.1.board.device.wifi.isConnected = false ∧ p.1.board.device.wifi.isHosting = false

def apAfter : Event → Bool → Bool
  | .wifi .apStart, _ => true
  | .wifi .apStop, _ => false
  | _, up => up

/-- Of the events of the access point that were handled, the latest is its start. -/
def apUp (handled : List Event) : Bool := handled.foldr apAfter false

/-- When `deinit` returns `ESP_OK`, the stop of an access point was handled like its start. -/
def StopHandled (p : App × Bool) (i : Input) : Prop :=
  i = .step → ∀ env, p.1.returns = some (.deinit env, .ok) → apUp p.1.board.handled = false

end App

namespace Board

variable {b b' : Board}

/-- Without an event loop the station's flag is down, and nothing is there to raise it. -/
def Silent (b : Board) : Prop := b.loop = none ∧ b.device.wifi.connected = false

theorem happens_without_loop (h : Happens b b') (hl : b.loop = none) :
    b'.loop = none ∧ b'.device = b.device ∧ b'.handled = b.handled := by
  cases h with
  | idle => exact ⟨hl, rfl, rfl⟩
  | associated => exact ⟨hl, rfl, rfl⟩
  | lost => exact ⟨post_none hl _, rfl, rfl⟩
  | posted e => exact ⟨post_none hl _, rfl, rfl⟩
  | dropped l e queue hs => rw [hl] at hs; cases hs
  | connects l e queue err hs => rw [hl] at hs; cases hs
  | handled l e queue err hs => rw [hl] at hs; cases hs

theorem silent_undisturbed : Undisturbed Silent := by
  apply undisturbed
  intro b b' hb h
  obtain ⟨hl, hd, -⟩ := happens_without_loop h hb.1
  rw [Silent, hl, hd]
  exact ⟨rfl, hb.2⟩

theorem noLoop_undisturbed : Undisturbed fun b => b.loop = none :=
  undisturbed fun _ _ hb h => (happens_without_loop h hb).1

/-- Only its creation brings a loop about. -/
theorem called_loop_none (hl : b.loop = none) (hc : c ≠ .eventLoopCreateDefault) (e : EspErr) :
    (b.called c e).loop = none := by
  change (if e = .ok then b.succeeded c else b).loop = none
  split
  · cases c with
    | eventLoopCreateDefault => exact absurd rfl hc
    | eventHandlerRegister base =>
      change b.loop.map _ = none
      rw [hl]
      rfl
    | eventLoopDeleteDefault => rfl
    | wifiStart =>
      change (if b.phase = .stopped then b.post (startEvents b.mode) else b).loop = none
      split
      · exact post_none hl _
      · exact hl
    | wifiStop =>
      change (if b.phase = .notInit ∨ b.phase = .stopped then b
        else b.post (stopEvents b.mode)).loop = none
      split
      · exact hl
      · exact post_none hl _
    | _ => exact hl
  · exact hl

theorem called_delete : (b.called .eventLoopDeleteDefault .ok).loop = none := rfl

end Board

namespace WiFi

open Board

theorem deinitTask_silent (env : DeinitEnv) : Keeps Silent (deinitTask env) := by
  apply deinitTask_keeps
  · intro c b e hc hb
    have hne : c ≠ .eventLoopCreateDefault := by
      rintro rfl
      exact hc
    exact ⟨called_loop_none hb.1 hne e, hb.2⟩
  · exact fun b hb => hb
  · exact fun b hb => ⟨hb.1, rfl⟩

/-- A `deinit` that succeeds has deleted the loop and then taken the flag down. -/
theorem deinitTask_returns (env : DeinitEnv) :
    Triple (fun _ => True) (deinitTask env) fun err b => err = .ok → Silent b := by
  have hcall (c : Call) (err : EspErr) :
      Triple (fun _ => True) (taskCall c err) fun _ _ => True :=
    fun l s _ => Thread.returns_true _ l s
  have hearly {err : EspErr} (he : err ≠ .ok) :
      Triple (fun _ => True) (pure err) fun err b => err = .ok → Silent b :=
    .pure fun _ _ h => absurd h he
  have hsta : Triple (fun _ => True) (deinitStaTask env) fun _ _ => True :=
    fun l s _ => Thread.returns_true _ l s
  have hap : Triple (fun _ => True) (deinitApTask env) fun _ _ => True :=
    fun l s _ => Thread.returns_true _ l s
  have hdel : Triple (fun _ => True) (taskErrorCheck .eventLoopDeleteDefault env.eventLoopDelete)
      fun _ b => b.loop = none :=
    triple_errorCheck (fun _ _ _ => trivial) fun b _ _ => called_delete
  have hflag : Triple (fun b => b.loop = none)
      (taskModify fun d => { d with wifi.connected := false }) fun _ b => Silent b :=
    triple_modify noLoop_undisturbed fun b hl => ⟨hl, rfl⟩
  apply (hcall _ _).bind
  intro err
  apply Thread.Triple.ite hearly
  intro _
  apply (hcall _ _).bind
  intro err
  apply Thread.Triple.ite hearly
  intro _
  apply hsta.bind
  intro errSta
  apply hap.bind
  intro errAp
  apply hdel.bind
  intro _
  exact hflag.bind fun _ => .pure fun b hb _ => hb

end WiFi

namespace App

open Board

theorem handler_hosting (e : Event) (err : EspErr) (d : Device) :
    (e.handler err d).1.wifi.hosting = apAfter e d.wifi.hosting := by
  cases e with
  | wifi e => cases e with
    | _ => rfl
  | ip e => cases e with
    | _ => rfl

theorem happens_hosting (h : Happens b b') (hb : b.device.wifi.hosting = apUp b.handled) :
    b'.device.wifi.hosting = apUp b'.handled := by
  have hcons (e : Event) (err : EspErr) :
      (e.handler err b.device).1.wifi.hosting = apUp (e :: b.handled) := by
    rw [handler_hosting, hb]
    rfl
  cases h with
  | connects l e queue err => exact hcons e err
  | handled l e queue err => exact hcons e err
  | _ => exact hb

/-- No call of the application writes the flag. -/
theorem task_hosting (k : Kconfig) (c : WifiCall) (v : Bool) :
    Keeps (fun b => b.device.wifi.hosting = v) (c.task k) := by
  cases c with
  | init setup env =>
    exact WiFi.initTask_keeps (fun _ _ _ _ hb => hb) (fun _ _ hb => hb) (fun _ _ hb => hb)
      (fun _ _ hb => hb) k env
  | deinit env =>
    exact WiFi.deinitTask_keeps (fun _ _ _ _ hb => hb) (fun _ hb => hb) (fun _ hb => hb) env

/-- A call that can still return, and what holds of the board if it is `deinit` and succeeds. -/
structure Underway (u : Bool) (b : Board) (c : WifiCall) (t : Task EspErr) : Prop where
  hosting : ∀ v, Keeps (fun b => b.device.wifi.hosting = v) t
  silent : u = true → Keeps Silent t
  returns : ∀ env, c = .deinit env →
    Thread.Pending act Board.env (fun _ err b => err = .ok → Silent b) (t, b)

structure Inv (p : App × Bool) : Prop where
  hosting : p.1.board.device.wifi.hosting = apUp p.1.board.handled
  down : p.2 = true → Silent p.1.board ∧ p.1.board.device.wifi.hosting = false
  underway : ∀ c t, p.1.running = some (c, t) → Underway p.2 p.1.board c t

theorem task_underway (k : Kconfig) (b : Board) (c : WifiCall)
    (hu : u = true → ∃ env, c = .deinit env) : Underway u b c (c.task k) where
  hosting := task_hosting k c
  silent h := by
    obtain ⟨env, rfl⟩ := hu h
    exact WiFi.deinitTask_silent env
  returns env hc := by
    cases hc
    exact .of_returns (WiFi.deinitTask_returns env b b trivial)

theorem boot_inv (k : Kconfig) (r : Driver) : Inv (boot k r, false) where
  hosting := rfl
  down h := by cases h
  underway c t h := by cases h

variable {p : App × Bool}

theorem Inv.event (hi : Inv p) (k : Kconfig) (i : Board.Input) :
    Inv (Run.watch (step k) seeDown p (.event i)) where
  hosting := happens_hosting (env_happens p.1.board i) hi.hosting
  down hu := by
    obtain ⟨hs, hh⟩ := hi.down hu
    obtain ⟨-, hd, -⟩ := happens_without_loop (env_happens p.1.board i) hs.1
    apply And.intro
    · exact silent_undisturbed p.1.board i hs
    · change (p.1.board.env i).device.wifi.hosting = false
      rw [hd]
      exact hh
  underway c t h := by
    have hc := hi.underway c t h
    exact ⟨hc.hosting, hc.silent, fun env he => (hc.returns env he).step (some i)⟩

theorem Inv.begin (hi : Inv p) (k : Kconfig) (c : WifiCall) :
    Inv (Run.watch (step k) seeDown p (.begin c)) := by
  obtain ⟨s, u⟩ := p
  cases hr : s.running with
  | some r =>
    have he : Run.watch (step k) seeDown (s, u) (.begin c) = (s, u) := by
      cases c with
      | init =>
        simp only [Run.watch, step, seeDown, hr, Option.isNone_some, if_neg Bool.false_ne_true]
      | deinit => simp only [Run.watch, step, seeDown, hr]
    rw [he]
    exact hi
  | none =>
    cases c with
    | init setup env =>
      simp only [Run.watch, step, seeDown, hr, Option.isNone_none, if_pos]
      constructor
      case hosting => exact hi.hosting
      case down => exact fun h => nomatch h
      case underway =>
        intro c t hc
        cases hc
        exact task_underway k s.board (.init setup env) fun h => nomatch h
    | deinit env =>
      simp only [Run.watch, step, seeDown, hr]
      constructor
      case hosting => exact hi.hosting
      case down => exact hi.down
      case underway =>
        intro c t hc
        cases hc
        exact task_underway k s.board (.deinit env) fun _ => ⟨env, rfl⟩

theorem remains_eq_some (h : remains c t = some (c', t')) : c' = c ∧ t' = t := by
  cases t with
  | done => cases h
  | abort => cases h; exact ⟨rfl, rfl⟩
  | act => cases h; exact ⟨rfl, rfl⟩

theorem Underway.action (hw : Underway u b c t) :
    let r := Thread.interleave act Board.env (t, b) none
    Underway u r.2 c r.1 where
  hosting v := (Thread.Keeps.step (p := (t, b)) (hw.hosting v) Board.env).1
  silent hu := (Thread.Keeps.step (p := (t, b)) (hw.silent hu) Board.env).1
  returns env he := (hw.returns env he).step none

/-- What an action of the call in progress leaves of the invariant, whatever it returns. -/
theorem Inv.action {s : App} (hi : Inv (s, u)) (hr : s.running = some (c, t)) :
    let r := Thread.interleave act Board.env (t, s.board) none
    r.2.device.wifi.hosting = s.board.device.wifi.hosting ∧ r.2.handled = s.board.handled ∧
      (u = true → Silent r.2) ∧ Underway u r.2 c r.1 := by
  have hc := hi.underway c t hr
  have hh := Thread.Keeps.step (p := (t, s.board)) (hc.hosting s.board.device.wifi.hosting)
    Board.env
  have hkeeps : t.Keeps act fun b => b.handled = s.board.handled :=
    Thread.Keeps.of_forall (fun a b hb => (act_handled a b).trans hb) t
  have hd := Thread.Keeps.step (p := (t, s.board)) hkeeps Board.env
  have hs (hu : u = true) :=
    (Thread.Keeps.step (p := (t, s.board)) (hc.silent hu) Board.env).2 (hi.down hu).1
  exact ⟨hh.2 rfl, hd.2 rfl, hs, hc.action⟩

theorem seeDown_returned {s : App} {env : WiFi.DeinitEnv}
    (h : s.returns = some (.deinit env, .ok)) (u : Bool) :
    seeDown u s .step = true := by
  simp only [seeDown, h, if_pos]

theorem seeDown_otherwise {s : App} (h : ∀ env, s.returns ≠ some (.deinit env, .ok)) (u : Bool) :
    seeDown u s .step = u := by
  unfold seeDown
  dsimp only
  split
  · next env err he =>
    have hne : err ≠ .ok := by
      rintro rfl
      exact h env he
    rw [if_neg hne]
  · rfl

theorem returns_eq_some {s : App} (h : s.returns = some (c, err)) :
    ∃ t, s.running = some (c, t) ∧ Thread.returning act (t, s.board) = some err := by
  unfold returns at h
  cases hr : s.running with
  | none =>
    rw [hr] at h
    cases h
  | some r =>
    obtain ⟨c', t⟩ := r
    simp only [hr] at h
    cases ht : Thread.returning act (t, s.board) with
    | none =>
      simp only [ht] at h
      cases h
    | some err' =>
      simp only [ht] at h
      cases h
      exact ⟨t, rfl, ht⟩

theorem step_running {s : App} (hr : s.running = some (c, t)) (k : Kconfig) :
    s.step k .step =
      ⟨(Thread.interleave act Board.env (t, s.board) none).2,
        remains c (Thread.interleave act Board.env (t, s.board) none).1⟩ := by
  simp only [step, hr]

theorem step_waiting {s : App} (hr : s.running = none) (k : Kconfig) : s.step k .step = s := by
  simp only [step, hr]

/-- The action with which `deinit` succeeds leaves the board silent and the host's flag alone. -/
theorem Inv.deinit_done {s : App} {env : WiFi.DeinitEnv} (hi : Inv (s, u))
    (hr : s.returns = some (.deinit env, .ok)) (k : Kconfig) :
    (s.step k .step).running = none ∧ Silent (s.step k .step).board ∧
      (s.step k .step).board.handled = s.board.handled ∧
      (s.step k .step).board.device.wifi.hosting = apUp s.board.handled := by
  obtain ⟨t, ht, hret⟩ := returns_eq_some hr
  obtain ⟨hh, hd, -, -⟩ := hi.action ht
  have hs := ((hi.underway _ t ht).returns env rfl).returning hret rfl
  have hdone := Thread.interleave_returning Board.env hret
  rw [step_running ht, hdone]
  exact ⟨rfl, hs, hd, hh.trans hi.hosting⟩

theorem Inv.step (hi : Inv p) (k : Kconfig) (hg : StopHandled p .step) :
    Inv (Run.watch (App.step k) seeDown p .step) := by
  obtain ⟨s, u⟩ := p
  by_cases hret : ∃ env, s.returns = some (.deinit env, .ok)
  · obtain ⟨env, hret⟩ := hret
    obtain ⟨hrun, hs, hd, hh⟩ := hi.deinit_done hret k
    have hf : apUp s.board.handled = false := hg rfl env hret
    constructor
    case hosting =>
      change (s.step k .step).board.device.wifi.hosting = apUp (s.step k .step).board.handled
      rw [hh, hd]
    case down => exact fun _ => ⟨hs, hh.trans hf⟩
    case underway =>
      intro c t hc
      have hc' : (s.step k .step).running = some (c, t) := hc
      rw [hrun] at hc'
      cases hc'
  · have hu : seeDown u s .step = u := seeDown_otherwise (fun env h => hret ⟨env, h⟩) u
    unfold Run.watch
    dsimp only
    rw [hu]
    cases hr : s.running with
    | none =>
      rw [step_waiting hr]
      exact hi
    | some r =>
      obtain ⟨c, t⟩ := r
      obtain ⟨hh, hd, hs, hw⟩ := hi.action hr
      rw [step_running hr]
      constructor
      case hosting => exact hh.trans (hi.hosting.trans (congrArg apUp hd.symm))
      case down => exact fun h => ⟨hs h, hh.trans (hi.down h).2⟩
      case underway =>
        intro c' t' hc
        obtain ⟨rfl, rfl⟩ := remains_eq_some hc
        exact hw

theorem stopHandled_needed (hi : Inv p) (k : Kconfig) (i : Input)
    (hf : FlagsDown (Run.watch (App.step k) seeDown p i)) : StopHandled p i := by
  rintro rfl env hret
  obtain ⟨s, u⟩ := p
  obtain ⟨-, -, -, hh⟩ := hi.deinit_done hret k
  have hd := (hf (seeDown_returned hret u)).2
  exact hh.symm.trans hd

/-- From a successful `deinit` to the next `init` both flags are down, in every run and whatever is
delivered when, exactly when each such `deinit` finds the start of an access point followed by its
stop among the events that were handled. -/
theorem flags_down_iff (k : Kconfig) (r : Driver) (inputs : List Input) :
    Run.Always (Run.watch (step k) seeDown) FlagsDown (boot k r, false) inputs ↔
      Run.Guarded (Run.watch (step k) seeDown) StopHandled (boot k r, false) inputs := by
  apply Run.always_iff_guarded (boot_inv k r)
  · intro p hi hu
    obtain ⟨hs, hh⟩ := hi.down hu
    exact ⟨hs.2, hh⟩
  · intro p i hi hg
    cases i with
    | begin c => exact hi.begin k c
    | step => exact hi.step k hg
    | event i => exact hi.event k i
  · exact fun p i hi hf => stopHandled_needed hi k i hf

/-- The start of the access point was handled; its stop is still queued when `deinit` deletes the
loop. -/
theorem stop_discarded :
    ¬ Run.Always (Run.watch (step Kconfig.defaults) seeDown) FlagsDown
      (boot Kconfig.defaults ⟨fun _ => 0, fun _ => 0⟩, false)
      (.begin (.init .ap WiFi.initOk) :: List.replicate 18 .step ++
        .event (.deliver .ok) :: .begin (.deinit WiFi.deinitOk) :: List.replicate 9 .step) := by
  intro h
  have hd := (h.last (by decide)).2
  revert hd
  decide

end App

end LDM
