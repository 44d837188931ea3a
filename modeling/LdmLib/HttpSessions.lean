import LdmLib.HttpRegistry

namespace LDM.HttpServer
set_option autoImplicit true

/-- Whether the server was stopped and has not been started since, whether the last operation
started it again, and what was registered in the session so far. -/
structure Session where
  stopped : Bool
  restarted : Bool
  uris : List UriPtr
  deriving DecidableEq, Repr

section
variable (desc : UriPtr → HttpdUri)

def Session.see (p : Session) (s : HttpServer) : Op → Session
  | .startServer err _ =>
    if err = .ok then
      { stopped := false, restarted := p.stopped, uris := if p.stopped then [] else p.uris }
    else { p with restarted := false }
  | .stopServer err =>
    { p with
      stopped := p.stopped || (s.stopServer err).2 = .ok
      restarted := false }
  | .unregisterUriHandlePtr _ => { p with restarted := false }
  | .uri (.registerUriHandle uri err) =>
    { p with
      restarted := false
      uris := if (s.registerUriHandle desc uri err).2 = .ok then uri :: p.uris else p.uris }
  | .uri _ => { p with restarted := false }

/-- Right after a restart the registry lists the handlers of the new instance, and it never lists
one that was only registered in an earlier session. -/
structure SessionSound (p : HttpServer × Session) : Prop where
  restarted : p.2.restarted = true → Agrees desc p.1
  current : ∀ uri ∈ p.1.registeredUri, uri ∈ p.2.uris

end

/-- The registry is empty when the server is started again. -/
def RestartsEmpty (p : HttpServer × Session) (op : Op) : Prop :=
  ∀ clears, op = .startServer .ok clears → p.2.stopped = true → p.1.registeredUri = []

variable {desc : UriPtr → HttpdUri} {s : HttpServer} {p : HttpServer × Session}

abbrev sessionWatch (desc : UriPtr → HttpdUri) : HttpServer × Session → Op → HttpServer × Session :=
  Run.watch (step desc) (Session.see desc)

theorem startServer_registry (s : HttpServer) (err : EspErr) (clears : Bool) :
    (s.startServer err clears).1.registeredUri = s.registeredUri := by
  unfold startServer
  split
  · rfl
  · rfl

theorem stopServer_registry (s : HttpServer) (err : EspErr) :
    (s.stopServer err).1.registeredUri = s.registeredUri := by
  cases hs : s.server with
  | none => rw [stopServer_none hs]
  | some h => rw [stopServer_some hs]

theorem unregisterUriHandlePtr_registry (u : UriPtr)
    (hu : uri ∈ (s.unregisterUriHandlePtr desc u).1.registeredUri) : uri ∈ s.registeredUri := by
  cases hs : s.server with
  | none => rwa [unregisterUriHandlePtr_none hs] at hu
  | some h =>
    rw [unregisterUriHandlePtr_some hs] at hu
    exact List.mem_of_mem_filter hu

/-- What the registry lists after a call it listed before, or has just been registered. -/
theorem applyUri_registry (op : UriOp) (hu : uri ∈ (s.applyUri desc op).1.registeredUri) :
    uri ∈ s.registeredUri ∨
      ∃ err, op = .registerUriHandle uri err ∧ (s.registerUriHandle desc uri err).2 = .ok := by
  cases hs : s.server with
  | none =>
    rw [applyUri_none hs] at hu
    exact .inl hu
  | some h =>
    cases op with
    | registerUriHandle u err =>
      rw [applyUri, registerUriHandle_some hs] at hu
      by_cases he : err = .ok
      · simp only [if_pos he, List.mem_append, List.mem_singleton] at hu
        rcases hu with hu | rfl
        · exact .inl hu
        · exact .inr ⟨err, rfl, by rw [registerUriHandle_some hs, he]⟩
      · simp only [if_neg he] at hu
        exact .inl hu
    | unregisterUriHandle u method =>
      rw [applyUri, unregisterUriHandle_some hs] at hu
      exact .inl (List.mem_of_mem_filter hu)
    | unregisterAllUriHandles =>
      rw [applyUri, unregisterAllUriHandles_some hs] at hu
      cases hu
    | unregisterAllUriHandlesOf u =>
      rw [applyUri, unregisterAllUriHandlesOf_some hs] at hu
      exact .inl (List.mem_of_mem_filter hu)

theorem SessionSound.startServer (h : SessionSound desc p)
    (hg : p.2.stopped = true → p.1.registeredUri = []) (clears : Bool) :
    SessionSound desc (sessionWatch desc p (.startServer .ok clears)) := by
  have hreg : (p.1.step desc (.startServer .ok clears)).registeredUri = p.1.registeredUri :=
    startServer_registry p.1 .ok clears
  constructor
  case restarted => exact fun hr => startServer_agrees (hg hr) clears
  case current =>
    intro uri hu
    simp only [Run.watch, hreg, Session.see] at hu ⊢
    by_cases hs : p.2.stopped = true
    · rw [hg hs] at hu
      cases hu
    · simpa [hs] using h.current uri hu

theorem SessionSound.applyUri (h : SessionSound desc p) (op : UriOp) :
    SessionSound desc (sessionWatch desc p (.uri op)) := by
  apply SessionSound.mk
  · intro hr
    cases op with
    | _ => cases hr
  · intro uri hu
    rcases applyUri_registry op hu with hu | ⟨err, rfl, he⟩
    · have hc := h.current uri hu
      cases op with
      | registerUriHandle u err =>
        simp only [Run.watch, Session.see]
        split
        · exact List.mem_cons_of_mem _ hc
        · exact hc
      | _ => exact hc
    · simp only [Run.watch, Session.see, if_pos he]
      exact List.mem_cons_self

theorem SessionSound.step (h : SessionSound desc p) (hg : RestartsEmpty p op) :
    SessionSound desc (sessionWatch desc p op) := by
  cases op with
  | startServer err clears =>
    by_cases he : err = .ok
    · subst he
      exact h.startServer (hg clears rfl) clears
    · have hsee : Session.see desc p.2 p.1 (.startServer err clears) =
          { p.2 with restarted := false } := if_neg he
      apply SessionSound.mk
      · intro hr
        simp only [Run.watch, hsee] at hr
        cases hr
      · intro uri hu
        simp only [Run.watch, hsee]
        exact h.current uri ((startServer_registry p.1 err clears) ▸ hu)
  | stopServer err =>
    constructor
    case restarted => exact fun hr => (Bool.false_ne_true hr).elim
    case current => exact fun uri hu => h.current uri ((stopServer_registry p.1 err) ▸ hu)
  | unregisterUriHandlePtr u =>
    constructor
    case restarted => exact fun hr => (Bool.false_ne_true hr).elim
    case current => exact fun uri hu => h.current uri (unregisterUriHandlePtr_registry u hu)
  | uri op => exact h.applyUri op

theorem SessionSound.needed (ht : SessionSound desc (sessionWatch desc p op)) :
    RestartsEmpty p op := by
  intro clears hop hs
  subst hop
  have hreg : (p.1.step desc (.startServer .ok clears)).registeredUri = p.1.registeredUri :=
    startServer_registry p.1 .ok clears
  have hc := ht.current
  simp only [Run.watch, Session.see, hreg] at hc
  apply List.eq_nil_iff_forall_not_mem.2
  intro uri hu
  simpa [hs] using hc uri hu

theorem construct_session (calloc : Bool) (g : Unassigned) :
    SessionSound desc (construct calloc g, ⟨false, false, []⟩) where
  restarted hr := (Bool.false_ne_true hr).elim
  current uri hu := by
    cases calloc with
    | _ => cases hu

/-- Over any number of sessions the registry starts each as empty as the server does, and keeps
nothing of an earlier one, exactly when it is empty whenever the server is started again. -/
theorem session_registry_iff (desc : UriPtr → HttpdUri) (calloc : Bool) (g : Unassigned)
    (ops : List Op) :
    Run.Always (sessionWatch desc) (SessionSound desc) (construct calloc g, ⟨false, false, []⟩) ops ↔
      Run.Guarded (sessionWatch desc) RestartsEmpty (construct calloc g, ⟨false, false, []⟩)
        ops := by
  apply Run.always_iff_guarded (construct_session calloc g)
  · intro p h
    exact h
  · intro p op h hg
    exact h.step hg
  · intro p op _ ht
    exact ht.needed

/-- A handler of the first session is still listed in the second. -/
theorem registry_outlives_session : ¬ Run.Always (sessionWatch fun _ => ⟨"/", 1⟩)
    (SessionSound fun _ => ⟨"/", 1⟩) (construct true ⟨false, none⟩, ⟨false, false, []⟩)
    [.startServer .ok false, .uri (.registerUriHandle 0 .ok), .stopServer .ok,
      .startServer .ok false] := by
  intro h
  have ha : _ = _ := h.last.restarted rfl
  revert ha
  decide

end LDM.HttpServer
