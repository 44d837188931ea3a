import LdmLib.HttpServer

namespace LDM.HttpServer
set_option autoImplicit true

def registered (desc : UriPtr → HttpdUri) (s : HttpServer) : List HttpdUri :=
  s.registeredUri.map desc

def held (s : HttpServer) : Option (List HttpdUri) := s.server.map s.httpd.handlers

/-- The registry describes the running server's handlers, in order and with multiplicity. -/
def Agrees (desc : UriPtr → HttpdUri) (s : HttpServer) : Prop :=
  s.held = some (s.registered desc)

variable {desc : UriPtr → HttpdUri} {s : HttpServer}

theorem agrees_iff : Agrees desc s ↔
    ∃ h, s.server = some h ∧ s.httpd.handlers h = s.registeredUri.map desc := by
  simp only [Agrees, held, registered, Option.map_eq_some_iff]

theorem unregisterEach_handlers (h : Nat) (u : HttpdUri) (r : Httpd × EspErr) (ps : List UriPtr) :
    (unregisterEach h u r ps).1.handlers h =
      (fun l : List HttpdUri => l.erase u)^[ps.length] (r.1.handlers h) := by
  induction ps generalizing r with
  | nil => rfl
  | cons p ps ih =>
    rw [unregisterEach, ih, List.length_cons, Function.iterate_succ_apply]
    simp only [Httpd.unregisterUriHandler, Httpd.setHandlers_self]

theorem unregisterUris_handlers (h : Nat) (r : Httpd × EspErr) (ps : List UriPtr) :
    (unregisterUris desc h r ps).1.handlers h =
      (r.1.handlers h).filter fun u => ps.all fun p => u.uri ≠ (desc p).uri := by
  induction ps generalizing r with
  | nil => simp [unregisterUris]
  | cons p ps ih =>
    rw [unregisterUris, ih]
    simp only [Httpd.unregisterUri, Httpd.setHandlers_self, List.filter_filter, List.all_cons,
      Bool.and_comm]

theorem Agrees.registerUriHandle (ha : Agrees desc s) (p : UriPtr) (err : EspErr) :
    Agrees desc (s.registerUriHandle desc p err).1 := by
  obtain ⟨h, hs, hh⟩ := agrees_iff.1 ha
  rw [registerUriHandle_some hs, agrees_iff]
  refine ⟨h, hs, ?_⟩
  by_cases he : err = .ok
  · simp [Httpd.registerUriHandler, he, hh]
  · simp [Httpd.registerUriHandler, he, hh]

/-- The server forgets one match for each of its `1 + n` calls, which is all of them, since an
agreeing registry has no more than `n` matches. -/
theorem Agrees.unregisterUriHandle (ha : Agrees desc s) (uri : String) (method : HttpdMethod) :
    Agrees desc (s.unregisterUriHandle desc uri method).1 := by
  obtain ⟨h, hs, hh⟩ := agrees_iff.1 ha
  have hcount : (s.httpd.handlers h).count ⟨uri, method⟩ ≤ s.registeredUri.length + 1 := by
    have hc := List.count_le_length (a := (⟨uri, method⟩ : HttpdUri)) (l := s.httpd.handlers h)
    rw [hh, List.length_map] at hc
    rw [hh]
    omega
  have hit : (unregisterEach h ⟨uri, method⟩
      (s.httpd.unregisterUriHandler h ⟨uri, method⟩) s.registeredUri).1.handlers h =
      (s.httpd.handlers h).filter fun u => u ≠ ⟨uri, method⟩ := by
    rw [unregisterEach_handlers, ← TwoPass.iterate_erase _ _ _ hcount,
      Function.iterate_succ_apply]
    simp only [Httpd.unregisterUriHandler, Httpd.setHandlers_self]
  rw [unregisterUriHandle_some hs, agrees_iff]
  refine ⟨h, hs, ?_⟩
  rw [hit, hh, List.filter_map]
  rfl

theorem Agrees.unregisterAllUriHandles (ha : Agrees desc s) :
    Agrees desc (s.unregisterAllUriHandles desc).1 := by
  obtain ⟨h, hs, hh⟩ := agrees_iff.1 ha
  rw [unregisterAllUriHandles_some hs, agrees_iff]
  refine ⟨h, hs, ?_⟩
  rw [unregisterUris_handlers, hh, List.map_nil, List.filter_eq_nil_iff]
  intro u hu
  obtain ⟨p, hp, rfl⟩ := List.mem_map.1 hu
  simp only [List.all_eq_true, decide_eq_true_eq, not_forall]
  exact ⟨p, hp, fun hn => hn rfl⟩

theorem Agrees.unregisterAllUriHandlesOf (ha : Agrees desc s) (uri : String) :
    Agrees desc (s.unregisterAllUriHandlesOf desc uri).1 := by
  obtain ⟨h, hs, hh⟩ := agrees_iff.1 ha
  rw [unregisterAllUriHandlesOf_some hs, agrees_iff]
  refine ⟨h, hs, ?_⟩
  simp only [Httpd.unregisterUri, Httpd.setHandlers_self, hh, List.filter_map]
  rfl

theorem Agrees.applyUri (ha : Agrees desc s) (op : UriOp) : Agrees desc (s.applyUri desc op).1 := by
  cases op with
  | registerUriHandle uri err => exact ha.registerUriHandle uri err
  | unregisterUriHandle uri method => exact ha.unregisterUriHandle uri method
  | unregisterAllUriHandles => exact ha.unregisterAllUriHandles
  | unregisterAllUriHandlesOf uri => exact ha.unregisterAllUriHandlesOf uri

theorem startServer_agrees (hr : s.registeredUri = []) (clears : Bool) :
    Agrees desc (s.startServer .ok clears).1 := by
  rw [agrees_iff]
  exact ⟨s.httpd.instances, rfl, by simp [startServer, Httpd.start, hr]⟩

def uriStep (desc : UriPtr → HttpdUri) (s : HttpServer) (op : UriOp) : HttpServer :=
  (s.applyUri desc op).1

/-- The states of an object before its first successful `startServer`. There is no server yet, so
the calls made so far were refused; a field that the constructor left unassigned is not used. -/
inductive Unstarted (desc : UriPtr → HttpdUri) : HttpServer → Prop where
  | construct (calloc : Bool) (g : Unassigned) : Unstarted desc (construct calloc g)
  | startFailed (ht : Unstarted desc t) (he : err ≠ .ok) (clears : Bool) :
      Unstarted desc (t.startServer err clears).1
  | stop (ht : Unstarted desc t) (hn : t.server = none) (err : EspErr) :
      Unstarted desc (t.stopServer err).1
  | unregisterPtr (ht : Unstarted desc t) (hn : t.server = none) (p : UriPtr) :
      Unstarted desc (t.unregisterUriHandlePtr desc p).1
  | uri (ht : Unstarted desc t) (hn : t.server = none) (op : UriOp) :
      Unstarted desc (t.uriStep desc op)

theorem Unstarted.registry (hs : Unstarted desc s) : s.registeredUri = [] := by
  induction hs with
  | construct calloc g => cases calloc <;> rfl
  | startFailed hs he clears ih => simpa only [startServer, if_pos he] using ih
  | stop hs hn err ih => rwa [stopServer_none hn]
  | unregisterPtr hs hn p ih => rwa [unregisterUriHandlePtr_none hn]
  | uri hs hn op ih => rwa [uriStep, applyUri_none hn]

/-- In the session that the first successful `startServer` opens, the registry lists exactly the
handlers of the server after any calls on them. -/
theorem registry_matches_server (hs : Unstarted desc s) (clears : Bool) (ops : List UriOp) :
    Agrees desc (Run.run (uriStep desc) (s.startServer .ok clears).1 ops) :=
  Run.run_invariant (startServer_agrees hs.registry clears) (fun _ op ha => ha.applyUri op) ops

theorem registry_matches_server_duplicates :
    Agrees (fun p => ⟨if p = 2 then "/b" else "/a", 1⟩)
      (Run.run (uriStep fun p => ⟨if p = 2 then "/b" else "/a", 1⟩)
        ((construct true ⟨false, none⟩).startServer .ok false).1
        [.registerUriHandle 0 .ok, .registerUriHandle 1 .ok, .registerUriHandle 2 .ok,
          .registerUriHandle 2 .fail, .unregisterUriHandle "/a" 1]) :=
  registry_matches_server (.construct true ⟨false, none⟩) false _

end LDM.HttpServer
