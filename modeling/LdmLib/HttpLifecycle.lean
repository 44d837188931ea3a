import LdmLib.HttpServer

namespace LDM.HttpServer
set_option autoImplicit true

open Ledger

variable {desc : UriPtr → HttpdUri} {s : HttpServer}

/-- A call that does nothing to the server but pass its handle `h` to `n` calls. -/
structure Uses (s t : HttpServer) (h n : Nat) : Prop where
  started : t.started = s.started
  server : t.server = s.server
  instances : t.httpd.instances = s.httpd.instances
  events : t.httpd.events = List.replicate n (.use h) ++ s.httpd.events

theorem unregisterEach_instances (h : Nat) (u : HttpdUri) (r : Httpd × EspErr)
    (ps : List UriPtr) : (unregisterEach h u r ps).1.instances = r.1.instances := by
  induction ps generalizing r with
  | nil => rfl
  | cons p ps ih => exact ih _

theorem unregisterEach_events (h : Nat) (u : HttpdUri) (r : Httpd × EspErr) (ps : List UriPtr) :
    (unregisterEach h u r ps).1.events = List.replicate ps.length (.use h) ++ r.1.events := by
  induction ps generalizing r with
  | nil => rfl
  | cons p ps ih =>
    rw [unregisterEach, ih, Httpd.events_unregisterUriHandler, List.length_cons,
      List.replicate_succ', List.append_assoc, List.singleton_append]

theorem unregisterUris_instances (h : Nat) (r : Httpd × EspErr) (ps : List UriPtr) :
    (unregisterUris desc h r ps).1.instances = r.1.instances := by
  induction ps generalizing r with
  | nil => rfl
  | cons p ps ih => exact ih _

theorem unregisterUris_events (h : Nat) (r : Httpd × EspErr) (ps : List UriPtr) :
    (unregisterUris desc h r ps).1.events = List.replicate ps.length (.use h) ++ r.1.events := by
  induction ps generalizing r with
  | nil => rfl
  | cons p ps ih =>
    rw [unregisterUris, ih, Httpd.events_unregisterUri, List.length_cons,
      List.replicate_succ', List.append_assoc, List.singleton_append]

def Silent (s : HttpServer) (op : UriOp) : Prop :=
  op = .unregisterAllUriHandles ∧ s.registeredUri = []

variable (desc) in
theorem applyUri_uses (hs : s.server = some h) (op : UriOp) :
    ∃ n, Uses s (s.applyUri desc op).1 h n ∧ (n = 0 ↔ Silent s op) := by
  cases op with
  | registerUriHandle p err =>
    refine ⟨1, ?_, by simp [Silent]⟩
    rw [applyUri, registerUriHandle_some hs]
    exact ⟨rfl, rfl, rfl, rfl⟩
  | unregisterUriHandle uri method =>
    refine ⟨s.registeredUri.length + 1, ?_, by simp [Silent]⟩
    rw [applyUri, unregisterUriHandle_some hs]
    refine ⟨rfl, rfl, unregisterEach_instances _ _ _ _, ?_⟩
    rw [unregisterEach_events, Httpd.events_unregisterUriHandler, List.replicate_succ',
      List.append_assoc, List.singleton_append]
  | unregisterAllUriHandles =>
    refine ⟨s.registeredUri.length, ?_, by simp [Silent]⟩
    rw [applyUri, unregisterAllUriHandles_some hs]
    exact ⟨rfl, rfl, unregisterUris_instances _ _ _, unregisterUris_events _ _ _⟩
  | unregisterAllUriHandlesOf uri =>
    refine ⟨1, ?_, by simp [Silent]⟩
    rw [applyUri, unregisterAllUriHandlesOf_some hs]
    exact ⟨rfl, rfl, rfl, rfl⟩

theorem unregisterUriHandlePtr_uses (hs : s.server = some h) (p : UriPtr) :
    Uses s (s.unregisterUriHandlePtr desc p).1 h 1 := by
  rw [unregisterUriHandlePtr_some hs]
  exact ⟨rfl, rfl, rfl, rfl⟩

/-- What a client of the object relies on between calls. -/
structure HandlesSound (s : HttpServer) : Prop where
  disciplined : Disciplined s.httpd.events
  unique : ∀ h h', Live s.httpd.events h → Live s.httpd.events h' → h = h'
  started : s.isStarted = true ↔ ∃ h, Live s.httpd.events h

/-- What holds once the destructor has run: its calls were sound, and if `httpd_stop` succeeded no
instance is left. -/
def EndSound (s : HttpServer) : Prop :=
  ∀ err, Disciplined (s.destroy err).httpd.events ∧
    (err = .ok → ∀ h, ¬ Live (s.destroy err).httpd.events h)

def HandleUsable (s : HttpServer) : Prop := s.server = none ∨ s.started = true

def HandlesGuard (s : HttpServer) : Op → Prop
  | .startServer err _ => s.started = false ∨ err ≠ .ok
  | .stopServer _ => s.HandleUsable
  | .unregisterUriHandlePtr _ => s.HandleUsable
  | .uri op => s.HandleUsable ∨ Silent s op

/-- The invariant that guarded calls keep. -/
structure HandlesInv (s : HttpServer) : Prop extends HandlesSound s where
  fresh : ∀ h, .acquire h ∈ s.httpd.events → h < s.httpd.instances
  server : s.started = true → ∀ h, s.server = some h → Live s.httpd.events h

theorem construct_handles (calloc : Bool) (g : Unassigned)
    (h : calloc = true ∨ g.started = false) : HandlesInv (construct calloc g) := by
  have hs : (construct calloc g).started = false := by
    rcases h with h | h
    · rw [h]
      rfl
    · cases calloc
      · exact h
      · rfl
  have he : (construct calloc g).httpd.events = [] := by
    cases calloc <;> rfl
  constructor
  case toHandlesSound =>
    constructor
    case disciplined =>
      rw [he]
      exact disciplined_nil
    case unique =>
      intro h h' hl
      rw [he] at hl
      exact (not_live_nil h hl).elim
    case started => simp [isStarted, hs, he]
  case fresh => simp [he]
  case server => simp [hs]

/-- A constructor that failed half-way must have found `started` false. -/
theorem construct_needed (h : HandlesSound (construct calloc g)) :
    calloc = true ∨ g.started = false := by
  cases calloc with
  | true => exact .inl rfl
  | false =>
    have hst := h.started
    simp only [isStarted, construct] at hst
    by_contra hn
    obtain ⟨k, hk⟩ := hst.1 (by simpa using hn)
    exact not_live_nil k hk

theorem HandlesInv.uses (hi : HandlesInv s) (hu : Uses s t h n) (hs : s.server = some h)
    (hg : n = 0 ∨ s.started = true) : HandlesInv t where
  disciplined := by
    rw [hu.events, disciplined_uses]
    exact ⟨hg.imp_right fun hg => hi.server hg h hs, hi.disciplined⟩
  unique := by simpa only [hu.events, live_uses] using hi.unique
  started := by simpa only [isStarted, hu.started, hu.events, live_uses] using hi.started
  fresh := by
    rw [hu.events, hu.instances]
    exact Numbered.uses hi.fresh n h
  server := by simpa only [hu.started, hu.server, hu.events, live_uses] using hi.server

theorem HandlesInv.uses_needed (hi : HandlesInv s) (hu : Uses s t h n)
    (ht : HandlesSound t) : n = 0 ∨ s.started = true := by
  have hd := ht.disciplined
  rw [hu.events, disciplined_uses] at hd
  exact hd.1.imp_right fun hl => hi.started.2 ⟨h, hl⟩

theorem HandlesInv.startServer (hi : HandlesInv s) (hg : s.started = false ∨ err ≠ .ok)
    (clears : Bool) : HandlesInv (s.startServer err clears).1 := by
  unfold HttpServer.startServer
  split
  · constructor
    case toHandlesSound => exact ⟨hi.disciplined, hi.unique, hi.started⟩
    case fresh => exact hi.fresh
    case server =>
      intro hs h hh
      cases clears with
      | false => exact hi.server hs h hh
      | true => cases hh
  · rename_i he
    have hs : s.started = false := hg.resolve_right he
    have hn : ∀ h, ¬ Live s.httpd.events h := by
      intro h hl
      have := hi.started.2 ⟨h, hl⟩
      simp [isStarted, hs] at this
    have hl : ∀ h, Live (.acquire s.httpd.instances :: s.httpd.events) h ↔
        h = s.httpd.instances := by
      intro h
      rw [Numbered.live_acquire hi.fresh hi.disciplined]
      simp [hn h]
    constructor
    case toHandlesSound =>
      constructor
      case disciplined => exact ⟨Numbered.not_acquired hi.fresh, hi.disciplined⟩
      case unique =>
        simp only [Httpd.events_start, hl]
        exact fun h h' hh hh' => hh.trans hh'.symm
      case started => simp [isStarted, hl]
    case fresh => exact Numbered.acquire hi.fresh
    case server =>
      simp only [Httpd.events_start, hl]
      exact fun _ h hh => (Option.some.inj hh).symm

theorem HandlesInv.startServer_needed (hi : HandlesInv s)
    (ht : HandlesSound (s.startServer err clears).1) : s.started = false ∨ err ≠ .ok := by
  by_contra hn
  obtain ⟨hs, he⟩ := not_or.1 hn
  obtain ⟨h, hl⟩ := hi.started.1 (by simpa [isStarted] using hs)
  have hlive : ∀ k, Live (s.startServer err clears).1.httpd.events k ↔
      k = s.httpd.instances ∨ Live s.httpd.events k := by
    intro k
    rw [HttpServer.startServer, if_neg he]
    exact Numbered.live_acquire hi.fresh hi.disciplined
  have hk := ht.unique h s.httpd.instances ((hlive h).2 (.inr hl)) ((hlive _).2 (.inl rfl))
  exact Numbered.ne_of_live hi.fresh hl hk

theorem HandlesInv.stopServer (hi : HandlesInv s) (hg : s.HandleUsable) (err : EspErr) :
    HandlesInv (s.stopServer err).1 := by
  cases hs : s.server with
  | none => rwa [stopServer_none hs]
  | some h =>
    have hst : s.started = true := hg.resolve_left (by simp [hs])
    have hl := hi.server hst h hs
    rw [stopServer_some hs]
    by_cases he : err = .ok
    · have hn : ∀ k, ¬ (Live s.httpd.events k ∧ k ≠ h) :=
        fun k hk => hk.2 (hi.unique k h hk.1 hl)
      constructor
      case toHandlesSound =>
        constructor
        case disciplined => simp [he, hl, hi.disciplined]
        case unique =>
          intro k k' hk
          simp only [Httpd.events_stop, if_pos he, live_release] at hk
          exact (hn k hk).elim
        case started => simpa [isStarted, he] using hn
      case fresh =>
        simp only [Httpd.events_stop, if_pos he]
        exact Numbered.release hi.fresh h
      case server => simp [he]
    · have hu : Uses s { s with
          started := if err = .ok then false else s.started
          httpd := s.httpd.stop h err } h 1 :=
        ⟨if_neg he, rfl, rfl, by simp [he]⟩
      exact hi.uses hu hs (.inr hst)

theorem HandlesInv.stop_disciplined (hi : HandlesInv s) (err : EspErr) :
    Disciplined (s.stopServer err).1.httpd.events ↔ s.HandleUsable := by
  cases hs : s.server with
  | none =>
    rw [stopServer_none hs]
    exact iff_of_true hi.disciplined (.inl hs)
  | some h =>
    have hl : Disciplined (s.stopServer err).1.httpd.events ↔ Live s.httpd.events h := by
      rw [stopServer_some hs, Httpd.events_stop]
      split
      · simp [hi.disciplined]
      · simp [hi.disciplined]
    rw [hl]
    apply Iff.intro
    · exact fun hl => .inr (hi.started.2 ⟨h, hl⟩)
    · exact fun hu => hi.server (hu.resolve_left (by simp [hs])) h hs

variable (desc) in
theorem HandlesInv.step (hi : HandlesInv s) (hg : HandlesGuard s op) :
    HandlesInv (s.step desc op) := by
  cases op with
  | startServer err clears => exact hi.startServer hg clears
  | stopServer err => exact hi.stopServer hg err
  | unregisterUriHandlePtr p =>
    cases hs : s.server with
    | none => rwa [HttpServer.step, apply, unregisterUriHandlePtr_none hs]
    | some h =>
      have hst : s.started = true := hg.resolve_left (by simp [hs])
      exact hi.uses (unregisterUriHandlePtr_uses hs p) hs (.inr hst)
  | uri op =>
    cases hs : s.server with
    | none => rwa [HttpServer.step, apply, applyUri_none hs]
    | some h =>
      obtain ⟨n, hu, hn⟩ := applyUri_uses desc hs op
      apply hi.uses hu hs
      rcases hg with hg | hg
      · exact .inr (hg.resolve_left (by simp [hs]))
      · exact .inl (hn.2 hg)

theorem HandlesInv.guard_needed (hi : HandlesInv s) (ht : HandlesSound (s.step desc op)) :
    HandlesGuard s op := by
  cases op with
  | startServer err clears => exact hi.startServer_needed ht
  | stopServer err => exact (hi.stop_disciplined err).1 ht.disciplined
  | unregisterUriHandlePtr p =>
    cases hs : s.server with
    | none => exact .inl hs
    | some h =>
      have hn := hi.uses_needed (unregisterUriHandlePtr_uses hs p) ht
      exact .inr (hn.resolve_left Nat.one_ne_zero)
  | uri op =>
    cases hs : s.server with
    | none => exact .inl (.inl hs)
    | some h =>
      obtain ⟨n, hu, hn⟩ := applyUri_uses desc hs op
      rcases hi.uses_needed hu ht with h0 | hst
      · exact .inr (hn.1 h0)
      · exact .inl (.inr hst)

theorem HandlesInv.destroy_iff (hi : HandlesInv s) :
    EndSound s ↔ (s.server = none ↔ s.started = false) := by
  have hd (err : EspErr) : (s.destroy err).httpd = (s.stopServer err).1.httpd := rfl
  simp only [EndSound, hd, hi.stop_disciplined]
  cases hs : s.server with
  | none =>
    have hl : (∀ h, ¬ Live s.httpd.events h) ↔ s.started = false := by
      rw [← not_exists, ← hi.started, isStarted, Bool.not_eq_true]
    simp [stopServer_none hs, HandleUsable, hs, hl]
  | some h =>
    simp only [HandleUsable, hs, reduceCtorEq, false_or, false_iff, Bool.not_eq_false]
    apply Iff.intro
    · exact fun h => (h .ok).1
    · intro hst err
      apply And.intro hst
      intro he k hk
      rw [stopServer_some hs, Httpd.events_stop, if_pos he, live_release] at hk
      exact hk.2 (hi.unique k h hk.1 (hi.server hst h hs))

structure LifetimeSound (desc : UriPtr → HttpdUri) (calloc : Bool) (g : Unassigned)
    (ops : List Op) (destroyed : Bool) : Prop where
  states : Run.Always (step desc) HandlesSound (construct calloc g) ops
  ended : destroyed = true → EndSound (Run.run (step desc) (construct calloc g) ops)

structure LifetimeGuarded (desc : UriPtr → HttpdUri) (calloc : Bool) (g : Unassigned)
    (ops : List Op) (destroyed : Bool) : Prop where
  constructed : calloc = true ∨ g.started = false
  calls : Run.Guarded (step desc) HandlesGuard (construct calloc g) ops
  ended : destroyed = true →
    ((Run.run (step desc) (construct calloc g) ops).server = none ↔
      (Run.run (step desc) (construct calloc g) ops).started = false)

/-- Every handle passed on is that of the one running instance, `isStarted` tells whether there is
one and the destructor leaves none, exactly when the construction does not fail half-way, no
second instance is started, and nothing is called on a server that was stopped. -/
theorem server_handles_iff (desc : UriPtr → HttpdUri) (calloc : Bool) (g : Unassigned)
    (ops : List Op) (destroyed : Bool) :
    LifetimeSound desc calloc g ops destroyed ↔ LifetimeGuarded desc calloc g ops destroyed := by
  have hiff (h0 : calloc = true ∨ g.started = false) :=
    Run.always_ends_iff_guarded (G := HandlesGuard) ops (construct_handles calloc g h0)
      (fun _ hi => hi.toHandlesSound) (fun _ _ hi hg => hi.step desc hg)
      (fun _ _ hi ht => hi.guard_needed ht)
      (fun _ hi => imp_congr_right fun _ : destroyed = true => hi.destroy_iff)
  apply Iff.intro
  · intro h
    have h0 := construct_needed (h.states [] List.nil_prefix)
    obtain ⟨hcalls, hended⟩ := (hiff h0).1 ⟨h.states, h.ended⟩
    exact ⟨h0, hcalls, hended⟩
  · intro h
    obtain ⟨hstates, hended⟩ := (hiff h.constructed).2 ⟨h.calls, h.ended⟩
    exact ⟨hstates, hended⟩

/-- The second of two `stopServer` calls passes on the handle of a stopped instance. -/
theorem server_stopped_twice : ¬ LifetimeSound (fun _ => ⟨"/", 1⟩) true ⟨false, none⟩
    [.startServer .ok false, .stopServer .ok, .stopServer .ok] false := by
  intro h
  have hd := h.states.last.disciplined
  revert hd
  decide

end LDM.HttpServer
