import LdmLib.HttpRegistry
import LdmLib.LastWriter
import Mathlib.Data.List.Nodup

namespace LDM.HttpServer
set_option autoImplicit true

abbrev Routes := KeyedStore String HttpdMethod Unit

abbrev RouteWrite := KeyedStore.Write String HttpdMethod Unit

def routesOf (l : List HttpdUri) : Routes := fun uri method =>
  if ⟨uri, method⟩ ∈ l then some () else none

def routes (s : HttpServer) : Routes :=
  match s.server with
  | some h => routesOf (s.httpd.handlers h)
  | none => routesOf []

/-- What an operation asks of the server that runs. -/
def Op.route (desc : UriPtr → HttpdUri) : Op → Option RouteWrite
  | .startServer _ _ => none
  | .stopServer _ => none
  | .unregisterUriHandlePtr p => some (.remove (desc p).uri (desc p).method)
  | .uri (.registerUriHandle p err) =>
    if err = .ok then some (.put (desc p).uri (desc p).method ()) else none
  | .uri (.unregisterUriHandle u method) => some (.remove u method)
  | .uri .unregisterAllUriHandles => some .format
  | .uri (.unregisterAllUriHandlesOf u) => some (.clear u)

/-- Operations between a start and the next stop. A server refuses a second handler for a URI and a
method. -/
def InSession (desc : UriPtr → HttpdUri) (s : HttpServer) : Op → Prop
  | .startServer _ _ => False
  | .stopServer _ => False
  | .unregisterUriHandlePtr _ => True
  | .uri (.registerUriHandle p err) =>
    err = .ok → s.routes (desc p).uri (desc p).method = none
  | .uri (.unregisterUriHandle _ _) => True
  | .uri .unregisterAllUriHandles => True
  | .uri (.unregisterAllUriHandlesOf _) => True

def rewrite (l : List HttpdUri) : RouteWrite → List HttpdUri
  | .put uri method _ => l ++ [⟨uri, method⟩]
  | .remove uri method => l.filter fun u => u ≠ ⟨uri, method⟩
  | .clear uri => l.filter fun u => u.uri ≠ uri
  | .format => []

/-- No handler is there twice, and none is missing in the registry, which may list more. -/
structure Served (desc : UriPtr → HttpdUri) (h : Nat) (s : HttpServer) : Prop where
  server : s.server = some h
  nodup : (s.httpd.handlers h).Nodup
  listed : s.httpd.handlers h ⊆ s.registered desc

variable {desc : UriPtr → HttpdUri} {s : HttpServer} {l : List HttpdUri}

theorem routesOf_eq_none : routesOf l uri method = none ↔ ⟨uri, method⟩ ∉ l := by
  unfold routesOf
  split <;> simp [*]

theorem routes_some (hs : s.server = some h) : s.routes = routesOf (s.httpd.handlers h) := by
  rw [routes, hs]

theorem routesOf_rewrite (l : List HttpdUri) (w : RouteWrite) :
    routesOf (rewrite l w) = w.apply (routesOf l) := by
  funext uri method
  rw [KeyedStore.Write.apply_at]
  cases w with
  | put u m v =>
    by_cases he : uri = u ∧ method = m
    · simp [routesOf, rewrite, KeyedStore.Write.written, he]
    · simp [routesOf, rewrite, KeyedStore.Write.written, he]
  | remove u m =>
    by_cases he : uri = u ∧ method = m
    · simp [routesOf, rewrite, KeyedStore.Write.written, he]
    · simp [routesOf, rewrite, KeyedStore.Write.written, he]
  | clear u =>
    by_cases he : uri = u
    · simp [routesOf, rewrite, KeyedStore.Write.written, he]
    · simp [routesOf, rewrite, KeyedStore.Write.written, he]
  | format => rfl

theorem registered_filter (s : HttpServer) (u : HttpdUri) (hu : u ∈ s.registered desc)
    (keep : UriPtr → Bool) (hk : ∀ p, desc p = u → keep p = true) :
    u ∈ (s.registeredUri.filter keep).map desc := by
  obtain ⟨p, hp, he⟩ := List.mem_map.1 hu
  exact List.mem_map.2 ⟨p, List.mem_filter.2 ⟨hp, hk p he⟩, he⟩

theorem Served.filter (hs : Served desc h s) (keep : HttpdUri → Bool) (keepPtr : UriPtr → Bool)
    (hk : ∀ p, keep (desc p) = true → keepPtr p = true) {t : HttpServer}
    (ht : t.server = some h) (hh : t.httpd.handlers h = (s.httpd.handlers h).filter keep)
    (hr : t.registeredUri = s.registeredUri.filter keepPtr) : Served desc h t := by
  constructor
  case server => exact ht
  case nodup =>
    rw [hh]
    exact hs.nodup.filter keep
  case listed =>
    intro u hu
    rw [hh] at hu
    obtain ⟨hl, hku⟩ := List.mem_filter.1 hu
    rw [registered, hr]
    exact registered_filter s u (hs.listed hl) keepPtr fun p hp => hk p (hp ▸ hku)

theorem Served.registerUriHandle (hs : Served desc h s) (p : UriPtr) (err : EspErr)
    (hg : InSession desc s (.uri (.registerUriHandle p err))) :
    let t := (s.registerUriHandle desc p err).1
    Served desc h t ∧ t.httpd.handlers h =
      if err = .ok then s.httpd.handlers h ++ [desc p] else s.httpd.handlers h := by
  rw [registerUriHandle_some hs.server]
  by_cases he : err = .ok
  · have hnew : desc p ∉ s.httpd.handlers h := by
      have hn := hg he
      rwa [routes_some hs.server, routesOf_eq_none] at hn
    simp only [he, if_pos, Httpd.registerUriHandler, Httpd.setHandlers_self]
    refine ⟨⟨hs.server, ?_, ?_⟩, trivial⟩
    · simpa using List.Nodup.concat hnew hs.nodup
    · intro u hu
      simp only [Httpd.setHandlers_self] at hu
      rw [registered, List.map_append]
      rcases List.mem_append.1 hu with hu | hu
      · exact List.mem_append_left _ (hs.listed hu)
      · exact List.mem_append_right _ hu
  · simp only [if_neg he, Httpd.registerUriHandler]
    exact ⟨⟨hs.server, hs.nodup, hs.listed⟩, trivial⟩

/-- One call is enough for a handler that is there once; those of the loop find nothing more. -/
theorem Served.unregisterUriHandle (hs : Served desc h s) (uri : String) (method : HttpdMethod) :
    let t := (s.unregisterUriHandle desc uri method).1
    Served desc h t ∧
      t.httpd.handlers h = (s.httpd.handlers h).filter fun u => u ≠ ⟨uri, method⟩ := by
  have hcount : (s.httpd.handlers h).count ⟨uri, method⟩ ≤ s.registeredUri.length + 1 :=
    (List.nodup_iff_count_le_one.1 hs.nodup _).trans (Nat.le_add_left _ _)
  have hit : (unregisterEach h ⟨uri, method⟩
      (s.httpd.unregisterUriHandler h ⟨uri, method⟩) s.registeredUri).1.handlers h =
      (s.httpd.handlers h).filter fun u => u ≠ ⟨uri, method⟩ := by
    rw [unregisterEach_handlers, ← TwoPass.iterate_erase _ _ _ hcount,
      Function.iterate_succ_apply]
    simp only [Httpd.unregisterUriHandler, Httpd.setHandlers_self]
  rw [unregisterUriHandle_some hs.server]
  exact ⟨hs.filter _ _ (fun _ hk => hk) hs.server hit rfl, hit⟩

/-- Of the registry only the entries of the descriptor itself go, of the server any equal one. -/
theorem Served.unregisterUriHandlePtr (hs : Served desc h s) (p : UriPtr) :
    let t := (s.unregisterUriHandlePtr desc p).1
    Served desc h t ∧ t.httpd.handlers h = (s.httpd.handlers h).filter fun u => u ≠ desc p := by
  have hit : (s.httpd.unregisterUriHandler h (desc p)).1.handlers h =
      (s.httpd.handlers h).filter fun u => u ≠ desc p := by
    simp only [Httpd.unregisterUriHandler, Httpd.setHandlers_self]
    exact TwoPass.iterate_erase _ 1 _ (List.nodup_iff_count_le_one.1 hs.nodup _)
  have hk (q : UriPtr) (hq : decide (desc q ≠ desc p) = true) : decide (q ≠ p) = true :=
    decide_eq_true fun he => of_decide_eq_true hq (congrArg desc he)
  rw [unregisterUriHandlePtr_some hs.server]
  exact ⟨hs.filter _ _ hk hs.server hit rfl, hit⟩

theorem Served.unregisterAllUriHandles (hs : Served desc h s) :
    let t := (s.unregisterAllUriHandles desc).1
    Served desc h t ∧ t.httpd.handlers h = [] := by
  have hit : (unregisterUris desc h (s.httpd, .ok) s.registeredUri).1.handlers h = [] := by
    rw [unregisterUris_handlers, List.filter_eq_nil_iff]
    intro u hu hall
    obtain ⟨p, hp, rfl⟩ := List.mem_map.1 (hs.listed hu)
    exact of_decide_eq_true (List.all_eq_true.1 hall p hp) rfl
  rw [unregisterAllUriHandles_some hs.server]
  refine ⟨⟨hs.server, ?_, ?_⟩, hit⟩
  · rw [hit]
    exact List.nodup_nil
  · rw [hit]
    exact List.nil_subset _

theorem Served.unregisterAllUriHandlesOf (hs : Served desc h s) (uri : String) :
    let t := (s.unregisterAllUriHandlesOf desc uri).1
    Served desc h t ∧ t.httpd.handlers h = (s.httpd.handlers h).filter fun u => u.uri ≠ uri := by
  have hit : (s.httpd.unregisterUri h uri).1.handlers h =
      (s.httpd.handlers h).filter fun u => u.uri ≠ uri := by
    simp only [Httpd.unregisterUri, Httpd.setHandlers_self]
  rw [unregisterAllUriHandlesOf_some hs.server]
  exact ⟨hs.filter _ _ (fun _ hk => hk) hs.server hit rfl, hit⟩

theorem Served.step (hs : Served desc h s) (hg : InSession desc s op) :
    Served desc h (s.step desc op) ∧
      (s.step desc op).routes = (op.route desc).elim s.routes fun w => w.apply s.routes := by
  have hroutes {t : HttpServer} {w : RouteWrite} (ht : Served desc h t)
      (hh : t.httpd.handlers h = rewrite (s.httpd.handlers h) w) :
      Served desc h t ∧ t.routes = w.apply s.routes := by
    rw [routes_some ht.server, routes_some hs.server, hh, routesOf_rewrite]
    exact ⟨ht, rfl⟩
  cases op with
  | startServer => exact hg.elim
  | stopServer => exact hg.elim
  | unregisterUriHandlePtr p =>
    obtain ⟨ht, hh⟩ := hs.unregisterUriHandlePtr p
    exact hroutes ht hh
  | uri op =>
    cases op with
    | registerUriHandle p err =>
      obtain ⟨ht, hh⟩ := hs.registerUriHandle p err hg
      rw [Op.route]
      by_cases he : err = .ok
      · rw [if_pos he] at hh ⊢
        exact hroutes ht hh
      · rw [if_neg he] at hh ⊢
        refine ⟨ht, ?_⟩
        change (s.registerUriHandle desc p err).1.routes = _
        rw [routes_some ht.server, hh]
        exact (routes_some hs.server).symm
    | unregisterUriHandle uri method =>
      obtain ⟨ht, hh⟩ := hs.unregisterUriHandle uri method
      exact hroutes ht hh
    | unregisterAllUriHandles =>
      obtain ⟨ht, hh⟩ := hs.unregisterAllUriHandles
      exact hroutes ht hh
    | unregisterAllUriHandlesOf uri =>
      obtain ⟨ht, hh⟩ := hs.unregisterAllUriHandlesOf uri
      exact hroutes ht hh

theorem Served.run (hs : Served desc h s)
    (hg : Run.Guarded (HttpServer.step desc) (InSession desc) s ops) :
    (Run.run (HttpServer.step desc) s ops).routes =
      Run.run (fun t w => KeyedStore.Write.apply t w) s.routes (ops.filterMap (Op.route desc)) := by
  induction ops generalizing s with
  | nil => rfl
  | cons op ops ih =>
    obtain ⟨hop, hops⟩ := Run.guarded_cons.1 hg
    obtain ⟨ht, hr⟩ := hs.step hop
    rw [Run.run_cons, ih ht hops, hr, List.filterMap_cons]
    cases op.route desc with
    | none => rfl
    | some w => rfl

/-- A start opens an empty table, whatever the registry was left with. -/
theorem served_start (s : HttpServer) (clears : Bool) :
    Served desc s.httpd.instances (s.startServer .ok clears).1 := by
  have hh : (s.startServer .ok clears).1.httpd.handlers s.httpd.instances = [] := by
    simp [startServer, Httpd.start]
  constructor
  case server => rfl
  case nodup =>
    rw [hh]
    exact List.nodup_nil
  case listed =>
    rw [hh]
    exact List.nil_subset _

/-- In every session the running server answers a URI and a method exactly when the last operation
about them has registered a handler, however much of earlier sessions the registry still lists. -/
theorem routes_last_written (s : HttpServer) (clears : Bool)
    (h : Run.Guarded (step desc) (InSession desc) (s.startServer .ok clears).1 ops)
    (uri : String) (method : HttpdMethod) :
    (Run.run (step desc) (s.startServer .ok clears).1 ops).routes uri method =
      LastWriter.last (KeyedStore.Write.written uri method) none
        (ops.filterMap (Op.route desc)) := by
  have hs : Served desc s.httpd.instances (s.startServer .ok clears).1 := served_start s clears
  have hempty : (s.startServer .ok clears).1.routes uri method = none := by
    rw [routes_some hs.server, routesOf_eq_none]
    simp [startServer, Httpd.start]
  rw [hs.run h, KeyedStore.run_at, hempty]

def twoPaths (p : UriPtr) : HttpdUri := ⟨if p % 2 = 0 then "/a" else "/b", 1⟩

def stopped : HttpServer :=
  Run.run (step twoPaths) (construct true ⟨false, none⟩)
    [.startServer .ok false, .uri (.registerUriHandle 0 .ok), .stopServer .ok]

/-- The handler is unregistered by a pointer that is not in the registry. -/
theorem routes_last_written_restarted :
    (Run.run (step twoPaths) (stopped.startServer .ok false).1
        [.uri (.registerUriHandle 2 .ok), .uri (.registerUriHandle 1 .ok),
          .unregisterUriHandlePtr 4]).routes "/a" 1 = none ∧
      (Run.run (step twoPaths) (stopped.startServer .ok false).1
        [.uri (.registerUriHandle 2 .ok), .uri (.registerUriHandle 1 .ok),
          .unregisterUriHandlePtr 4]).routes "/b" 1 = some () := by
  have h : Run.Guarded (step twoPaths) (InSession twoPaths) (stopped.startServer .ok false).1
      [.uri (.registerUriHandle 2 .ok), .uri (.registerUriHandle 1 .ok),
        .unregisterUriHandlePtr 4] := by
    refine Run.guarded_cons.2 ⟨fun _ => by decide, Run.guarded_cons.2 ⟨fun _ => by decide, ?_⟩⟩
    exact Run.guarded_cons.2 ⟨trivial, Run.guarded_nil _ _⟩
  apply And.intro
  · rw [routes_last_written stopped false h "/a" 1]
    decide
  · rw [routes_last_written stopped false h "/b" 1]
    decide

end LDM.HttpServer
