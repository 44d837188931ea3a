import LdmLib.Esp
import LdmLib.Run
import LdmLib.Ledger
import LdmLib.TwoPass

namespace LDM
set_option autoImplicit true

/-- `httpd_method_t`, by its number: the library only compares methods. -/
abbrev HttpdMethod := Nat

/-- The part of a `httpd_uri_t` that a handler is found by. -/
structure HttpdUri where
  uri : String
  method : HttpdMethod
  deriving DecidableEq, Repr

abbrev UriPtr := Nat

/-- The `httpd_*` calls, with the handle each is given. -/
inductive HttpdCall where
  | start (h : Nat)
  | startFailed
  | stop (h : Nat) (err : EspErr)
  | registerUriHandler (h : Nat) (d : HttpdUri)
  | unregisterUriHandler (h : Nat) (d : HttpdUri)
  | unregisterUri (h : Nat) (uri : String)
  deriving DecidableEq, Repr

def HttpdCall.event : HttpdCall → Option (Ledger.Event Nat)
  | .start h => some (.acquire h)
  | .startFailed => none
  | .stop h err => some (if err = .ok then .release h else .use h)
  | .registerUriHandler h _ => some (.use h)
  | .unregisterUriHandler h _ => some (.use h)
  | .unregisterUri h _ => some (.use h)

/-- ESP-IDF's side: how many instances were started, the handlers each holds in the order they were
registered, and the calls made so far, newest first. -/
structure Httpd where
  instances : Nat
  handlers : Nat → List HttpdUri
  log : List HttpdCall

namespace Httpd

def setHandlers (d : Httpd) (h : Nat) (l : List HttpdUri) : Nat → List HttpdUri :=
  fun i => if i = h then l else d.handlers i

@[simp] theorem setHandlers_self (d : Httpd) (h : Nat) (l : List HttpdUri) :
    d.setHandlers h l h = l := if_pos rfl

def start (d : Httpd) : Httpd where
  instances := d.instances + 1
  handlers := d.setHandlers d.instances []
  log := .start d.instances :: d.log

def startFailed (d : Httpd) : Httpd := { d with log := .startFailed :: d.log }

def stop (d : Httpd) (h : Nat) (err : EspErr) : Httpd :=
  { d with
    handlers := if err = .ok then d.setHandlers h [] else d.handlers
    log := .stop h err :: d.log }

def registerUriHandler (d : Httpd) (h : Nat) (u : HttpdUri) (err : EspErr) : Httpd :=
  { d with
    handlers := if err = .ok then d.setHandlers h (d.handlers h ++ [u]) else d.handlers
    log := .registerUriHandler h u :: d.log }

def unregisterUriHandler (d : Httpd) (h : Nat) (u : HttpdUri) : Httpd × EspErr :=
  ({ d with
      handlers := d.setHandlers h ((d.handlers h).erase u)
      log := .unregisterUriHandler h u :: d.log },
    if u ∈ d.handlers h then .ok else .errNotFound)

def unregisterUri (d : Httpd) (h : Nat) (uri : String) : Httpd × EspErr :=
  ({ d with
      handlers := d.setHandlers h ((d.handlers h).filter fun u => u.uri ≠ uri)
      log := .unregisterUri h uri :: d.log },
    if ∃ u ∈ d.handlers h, u.uri = uri then .ok else .errNotFound)

def events (d : Httpd) : List (Ledger.Event Nat) := d.log.filterMap HttpdCall.event

@[simp] theorem events_start (d : Httpd) : d.start.events = .acquire d.instances :: d.events := rfl

@[simp] theorem events_startFailed (d : Httpd) : d.startFailed.events = d.events := rfl

@[simp] theorem events_stop (d : Httpd) (h : Nat) (err : EspErr) : (d.stop h err).events =
    (if err = .ok then .release h else .use h) :: d.events := rfl

@[simp] theorem events_registerUriHandler (d : Httpd) (h : Nat) (u : HttpdUri) (err : EspErr) :
    (d.registerUriHandler h u err).events = .use h :: d.events := rfl

@[simp] theorem events_unregisterUriHandler (d : Httpd) (h : Nat) (u : HttpdUri) :
    (d.unregisterUriHandler h u).1.events = .use h :: d.events := rfl

@[simp] theorem events_unregisterUri (d : Httpd) (h : Nat) (uri : String) :
    (d.unregisterUri h uri).1.events = .use h :: d.events := rfl

end Httpd

/-- An object of class `HTTP_Server` with the ESP-IDF servers under it. -/
structure HttpServer where
  started : Bool
  server : Option Nat
  registeredUri : List UriPtr
  httpd : Httpd

namespace HttpServer

/-- What the fields that the constructor has not assigned happen to hold. -/
structure Unassigned where
  started : Bool
  server : Option Nat
  deriving DecidableEq, Repr

/-- Without memory for the context the constructor returns before it assigns the fields. -/
def construct (calloc : Bool) (g : Unassigned) : HttpServer :=
  let s : HttpServer :=
    { started := g.started, server := g.server, registeredUri := [], httpd := ⟨0, fun _ => [], []⟩ }
  if calloc then { s with server := none, started := false } else s

def stopServer (s : HttpServer) (err : EspErr) : HttpServer × EspErr :=
  match s.server with
  | some h =>
    let s := { s with httpd := s.httpd.stop h err }
    if err ≠ .ok then (s, err) else ({ s with started := false }, err)
  | none => (s, .ok)

/-- The destructor; the object is gone afterwards. -/
def destroy (s : HttpServer) (err : EspErr) : HttpServer :=
  { (s.stopServer err).1 with registeredUri := [] }

/-- An `httpd_start` that fails may clear the handle it was given the address of, or leave it. -/
def startServer (s : HttpServer) (err : EspErr) (clears : Bool) : HttpServer × EspErr :=
  if err ≠ .ok then
    ({ s with server := if clears then none else s.server, httpd := s.httpd.startFailed }, err)
  else ({ s with server := some s.httpd.instances, httpd := s.httpd.start, started := true }, .ok)

def isStarted (s : HttpServer) : Bool := s.started

section
variable (desc : UriPtr → HttpdUri)

def registerUriHandle (s : HttpServer) (uri : UriPtr) (err : EspErr) : HttpServer × EspErr :=
  match s.server with
  | none => (s, .fail)
  | some h =>
    let s := { s with httpd := s.httpd.registerUriHandler h (desc uri) err }
    if err ≠ .ok then (s, err) else ({ s with registeredUri := s.registeredUri ++ [uri] }, err)

/-- `unregisterUriHandle(httpd_uri_t *)`: the registry is searched for the pointer itself. -/
def unregisterUriHandlePtr (s : HttpServer) (uri : UriPtr) : HttpServer × EspErr :=
  match s.server with
  | none => (s, .fail)
  | some h =>
    let r := s.httpd.unregisterUriHandler h (desc uri)
    ({ s with httpd := r.1, registeredUri := s.registeredUri.filter fun p => p ≠ uri }, r.2)

def unregisterEach (h : Nat) (u : HttpdUri) (r : Httpd × EspErr) : List UriPtr → Httpd × EspErr
  | [] => r
  | _ :: ps =>
    let c := r.1.unregisterUriHandler h u
    unregisterEach h u (c.1, r.2 ||| c.2) ps

def eraseMatching (s : HttpServer) (p : UriPtr → Bool) : HttpServer :=
  { s with registeredUri := (TwoPass.eraseShifted s.registeredUri 0
      (TwoPass.matching p 0 s.registeredUri)).getD s.registeredUri }

def unregisterUriHandle (s : HttpServer) (uri : String) (method : HttpdMethod) :
    HttpServer × EspErr :=
  match s.server with
  | none => (s, .fail)
  | some h =>
    let r := unregisterEach h ⟨uri, method⟩ (s.httpd.unregisterUriHandler h ⟨uri, method⟩)
      s.registeredUri
    (({ s with httpd := r.1 }).eraseMatching
      fun p => (desc p).method = method && (desc p).uri = uri, r.2)

def unregisterUris (h : Nat) (r : Httpd × EspErr) : List UriPtr → Httpd × EspErr
  | [] => r
  | p :: ps =>
    let c := r.1.unregisterUri h (desc p).uri
    unregisterUris h (c.1, r.2 ||| c.2) ps

def unregisterAllUriHandles (s : HttpServer) : HttpServer × EspErr :=
  match s.server with
  | none => (s, .fail)
  | some h =>
    let r := unregisterUris desc h (s.httpd, .ok) s.registeredUri
    ({ s with httpd := r.1, registeredUri := [] }, r.2)

def unregisterAllUriHandlesOf (s : HttpServer) (uri : String) : HttpServer × EspErr :=
  match s.server with
  | none => (s, .fail)
  | some h =>
    let r := s.httpd.unregisterUri h uri
    (({ s with httpd := r.1 }).eraseMatching fun p => (desc p).uri = uri, r.2)

inductive UriOp where
  | registerUriHandle (uri : UriPtr) (err : EspErr)
  | unregisterUriHandle (uri : String) (method : HttpdMethod)
  | unregisterAllUriHandles
  | unregisterAllUriHandlesOf (uri : String)
  deriving DecidableEq, Repr

inductive Op where
  | startServer (err : EspErr) (clears : Bool)
  | stopServer (err : EspErr)
  | unregisterUriHandlePtr (uri : UriPtr)
  | uri (op : UriOp)
  deriving DecidableEq, Repr

def applyUri (s : HttpServer) : UriOp → HttpServer × EspErr
  | .registerUriHandle uri err => s.registerUriHandle desc uri err
  | .unregisterUriHandle uri method => s.unregisterUriHandle desc uri method
  | .unregisterAllUriHandles => s.unregisterAllUriHandles desc
  | .unregisterAllUriHandlesOf uri => s.unregisterAllUriHandlesOf desc uri

def apply (s : HttpServer) : Op → HttpServer × EspErr
  | .startServer err clears => s.startServer err clears
  | .stopServer err => s.stopServer err
  | .unregisterUriHandlePtr uri => s.unregisterUriHandlePtr desc uri
  | .uri op => s.applyUri desc op

def step (s : HttpServer) (op : Op) : HttpServer := (s.apply desc op).1

variable {desc} {s : HttpServer}

theorem stopServer_some (hs : s.server = some h) (err : EspErr) : s.stopServer err =
    ({ s with
      started := if err = .ok then false else s.started
      httpd := s.httpd.stop h err }, err) := by
  obtain ⟨st, sv, ru, hd⟩ := s
  obtain rfl : sv = some h := hs
  by_cases he : err = .ok
  · simp [stopServer, he]
  · simp [stopServer, he]

theorem stopServer_none (hs : s.server = none) (err : EspErr) : s.stopServer err = (s, .ok) := by
  simp only [stopServer, hs]

theorem registerUriHandle_some (hs : s.server = some h) (p : UriPtr) (err : EspErr) :
    s.registerUriHandle desc p err =
      ({ s with
        registeredUri := if err = .ok then s.registeredUri ++ [p] else s.registeredUri
        httpd := s.httpd.registerUriHandler h (desc p) err }, err) := by
  obtain ⟨st, sv, ru, hd⟩ := s
  obtain rfl : sv = some h := hs
  by_cases he : err = .ok
  · simp [registerUriHandle, he]
  · simp [registerUriHandle, he]

theorem unregisterUriHandlePtr_some (hs : s.server = some h) (p : UriPtr) :
    s.unregisterUriHandlePtr desc p =
      ({ s with
        httpd := (s.httpd.unregisterUriHandler h (desc p)).1
        registeredUri := s.registeredUri.filter fun q => q ≠ p },
      (s.httpd.unregisterUriHandler h (desc p)).2) := by
  obtain ⟨st, sv, ru, hd⟩ := s
  obtain rfl : sv = some h := hs
  rfl

/-- Collecting the indices and erasing them one by one filters the registry. -/
theorem eraseMatching_eq (s : HttpServer) (p : UriPtr → Bool) :
    s.eraseMatching p = { s with registeredUri := s.registeredUri.filter fun q => !p q } := by
  rw [eraseMatching, TwoPass.eraseShifted_matching, Option.getD_some]

theorem unregisterUriHandle_some (hs : s.server = some h) (uri : String) (method : HttpdMethod) :
    s.unregisterUriHandle desc uri method =
      ({ s with
        httpd := (unregisterEach h ⟨uri, method⟩
          (s.httpd.unregisterUriHandler h ⟨uri, method⟩) s.registeredUri).1
        registeredUri := s.registeredUri.filter fun p => desc p ≠ ⟨uri, method⟩ },
      (unregisterEach h ⟨uri, method⟩
        (s.httpd.unregisterUriHandler h ⟨uri, method⟩) s.registeredUri).2) := by
  obtain ⟨st, sv, ru, hd⟩ := s
  obtain rfl : sv = some h := hs
  have hf : (ru.filter fun p => !((desc p).method = method && (desc p).uri = uri : Bool)) =
      ru.filter fun p => desc p ≠ ⟨uri, method⟩ := by
    apply List.filter_congr
    intro p _
    cases hd : desc p with
    | mk u m => simp [and_comm]
  simp only [unregisterUriHandle, eraseMatching_eq, hf]

theorem unregisterAllUriHandles_some (hs : s.server = some h) : s.unregisterAllUriHandles desc =
    ({ s with
      httpd := (unregisterUris desc h (s.httpd, .ok) s.registeredUri).1
      registeredUri := [] }, (unregisterUris desc h (s.httpd, .ok) s.registeredUri).2) := by
  obtain ⟨st, sv, ru, hd⟩ := s
  obtain rfl : sv = some h := hs
  rfl

theorem unregisterAllUriHandlesOf_some (hs : s.server = some h) (uri : String) :
    s.unregisterAllUriHandlesOf desc uri =
      ({ s with
        httpd := (s.httpd.unregisterUri h uri).1
        registeredUri := s.registeredUri.filter fun p => (desc p).uri ≠ uri },
      (s.httpd.unregisterUri h uri).2) := by
  obtain ⟨st, sv, ru, hd⟩ := s
  obtain rfl : sv = some h := hs
  simp only [unregisterAllUriHandlesOf, eraseMatching_eq, decide_not]

theorem applyUri_none (hs : s.server = none) (op : UriOp) :
    s.applyUri desc op = (s, .fail) := by
  cases op with
  | registerUriHandle => simp only [applyUri, registerUriHandle, hs]
  | unregisterUriHandle => simp only [applyUri, unregisterUriHandle, hs]
  | unregisterAllUriHandles => simp only [applyUri, unregisterAllUriHandles, hs]
  | unregisterAllUriHandlesOf => simp only [applyUri, unregisterAllUriHandlesOf, hs]

theorem unregisterUriHandlePtr_none (hs : s.server = none) (p : UriPtr) :
    s.unregisterUriHandlePtr desc p = (s, .fail) := by
  simp only [unregisterUriHandlePtr, hs]

end

end HttpServer

end LDM
