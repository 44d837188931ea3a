import LdmLib.HttpRegistry

namespace LDM.HttpServer
set_option autoImplicit true

/-- The registry lists the running server's handlers with multiplicity, in whatever order. -/
def Lists (desc : UriPtr → HttpdUri) (s : HttpServer) : Prop :=
  ∃ h, s.server = some h ∧ (s.httpd.handlers h).Perm (s.registered desc)

variable {desc : UriPtr → HttpdUri} {s : HttpServer}

theorem Agrees.lists (ha : Agrees desc s) : Lists desc s := by
  obtain ⟨h, hs, hh⟩ := agrees_iff.1 ha
  exact ⟨h, hs, .of_eq hh⟩

theorem unregisterEach_ok_iff (h : Nat) (u : HttpdUri) (r : Httpd × EspErr) (ps : List UriPtr) :
    (unregisterEach h u r ps).2 = .ok ↔ r.2 = .ok ∧ ps.length ≤ (r.1.handlers h).count u := by
  induction ps generalizing r with
  | nil => exact (and_iff_left (Nat.zero_le _)).symm
  | cons p ps ih =>
    have hcall : (r.1.unregisterUriHandler h u).2 = .ok ↔ 0 < (r.1.handlers h).count u := by
      rw [List.count_pos_iff]
      exact ite_eq_left_iff.trans (by simp)
    have hleft : ((r.1.unregisterUriHandler h u).1.handlers h).count u =
        (r.1.handlers h).count u - 1 := by
      simp only [Httpd.unregisterUriHandler, Httpd.setHandlers_self, List.count_erase_self]
    rw [unregisterEach, ih, EspErr.or_eq_ok, hcall, hleft, List.length_cons, and_assoc]
    apply and_congr_right
    intro _
    omega

/-- The call before the loop and those in the loop are one more than the registry has entries. -/
theorem unregisterUriHandle_ok_iff (hs : s.server = some h) (uri : String) (method : HttpdMethod) :
    (s.unregisterUriHandle desc uri method).2 = .ok ↔
      s.registeredUri.length + 1 ≤ (s.httpd.handlers h).count ⟨uri, method⟩ := by
  let start : Httpd × EspErr := (s.httpd, .ok)
  have hall : unregisterEach h ⟨uri, method⟩
      (s.httpd.unregisterUriHandler h ⟨uri, method⟩) s.registeredUri =
      unregisterEach h ⟨uri, method⟩ start (0 :: s.registeredUri) := by
    rw [unregisterEach, EspErr.ok_or]
  rw [unregisterUriHandle_some hs, hall, unregisterEach_ok_iff]
  exact and_iff_right rfl

theorem Lists.unregisterUriHandle_fails (hl : Lists desc s) (uri : String) (method : HttpdMethod) :
    (s.unregisterUriHandle desc uri method).2 ≠ .ok := by
  obtain ⟨h, hs, hp⟩ := hl
  intro he
  have hcount := (unregisterUriHandle_ok_iff hs uri method).1 he
  have hle := List.count_le_length (a := (⟨uri, method⟩ : HttpdUri)) (l := s.httpd.handlers h)
  have hlen : (s.httpd.handlers h).length = s.registeredUri.length := by
    rw [hp.length_eq, registered, List.length_map]
  omega

def ReportsMatch (desc : UriPtr → HttpdUri) (s : HttpServer) (uri : String)
    (method : HttpdMethod) : Prop :=
  (s.unregisterUriHandle desc uri method).2 = .ok ↔ ⟨uri, method⟩ ∈ s.registered desc

/-- The result is an error in any case, so it is right when nothing matches. -/
theorem reports_match_iff (hl : Lists desc s) (uri : String) (method : HttpdMethod) :
    ReportsMatch desc s uri method ↔ ⟨uri, method⟩ ∉ s.registered desc := by
  have hfail := hl.unregisterUriHandle_fails uri method
  exact ⟨fun h hm => hfail (h.2 hm), fun hm => iff_of_false hfail hm⟩

def oneHandler : HttpServer :=
  Run.run (step fun _ => ⟨"/a", 1⟩) (construct true ⟨false, none⟩)
    [.startServer .ok false, .uri (.registerUriHandle 0 .ok)]

theorem oneHandler_lists : Lists (fun _ => ⟨"/a", 1⟩) oneHandler :=
  ⟨0, rfl, .refl _⟩

theorem reports_match_nothing : ReportsMatch (fun _ => ⟨"/a", 1⟩) oneHandler "/b" 1 ↔
    ⟨"/b", 1⟩ ∉ oneHandler.registered fun _ => ⟨"/a", 1⟩ :=
  reports_match_iff oneHandler_lists "/b" 1

theorem match_not_reported : ¬ ReportsMatch (fun _ => ⟨"/a", 1⟩) oneHandler "/a" 1 := by
  unfold ReportsMatch
  decide

/-- The first call for a URI takes all its handlers, so another with the same URI finds none. -/
theorem unregisterUris_ok_iff (h : Nat) (r : Httpd × EspErr) (ps : List UriPtr) :
    (unregisterUris desc h r ps).2 = .ok ↔
      r.2 = .ok ∧ (ps.map fun p => (desc p).uri).Nodup ∧
        ∀ p ∈ ps, ∃ u ∈ r.1.handlers h, u.uri = (desc p).uri := by
  induction ps generalizing r with
  | nil => simp [unregisterUris]
  | cons p ps ih =>
    have hcall : (r.1.unregisterUri h (desc p).uri).2 = .ok ↔
        ∃ u ∈ r.1.handlers h, u.uri = (desc p).uri :=
      ite_eq_left_iff.trans (by simp)
    have hleft (q : UriPtr) :
        (∃ u ∈ (r.1.unregisterUri h (desc p).uri).1.handlers h, u.uri = (desc q).uri) ↔
          (desc p).uri ≠ (desc q).uri ∧ ∃ u ∈ r.1.handlers h, u.uri = (desc q).uri := by
      simp only [Httpd.unregisterUri, Httpd.setHandlers_self, List.mem_filter, decide_eq_true_eq]
      apply Iff.intro
      · intro hex
        obtain ⟨u, ⟨hu, hne⟩, he⟩ := hex
        exact ⟨fun hpq => hne (he.trans hpq.symm), u, hu, he⟩
      · intro hex
        obtain ⟨hne, u, hu, he⟩ := hex
        exact ⟨u, ⟨hu, fun hp => hne (hp.symm.trans he)⟩, he⟩
    rw [unregisterUris, ih, EspErr.or_eq_ok, hcall, List.map_cons, List.nodup_cons,
      List.forall_mem_cons]
    simp only [hleft, List.mem_map, not_exists, not_and]
    apply Iff.intro
    · intro hrest
      obtain ⟨⟨hr, hp⟩, hn, hall⟩ := hrest
      exact ⟨hr, ⟨fun q hq he => (hall q hq).1 he.symm, hn⟩, hp, fun q hq => (hall q hq).2⟩
    · intro hrest
      obtain ⟨hr, ⟨hne, hn⟩, hp, hall⟩ := hrest
      exact ⟨⟨hr, hp⟩, hn, fun q hq => ⟨fun he => hne q hq he.symm, hall q hq⟩⟩

structure Clears (desc : UriPtr → HttpdUri) (s : HttpServer) : Prop where
  result : (s.unregisterAllUriHandles desc).2 = .ok
  registry : (s.unregisterAllUriHandles desc).1.registeredUri = []
  server : (s.unregisterAllUriHandles desc).1.held = some []

theorem Lists.unregisterAll_held (hl : Lists desc s) :
    (s.unregisterAllUriHandles desc).1.held = some [] := by
  obtain ⟨h, hs, hp⟩ := hl
  have hnone : ((s.httpd.handlers h).filter fun u =>
      s.registeredUri.all fun p => u.uri ≠ (desc p).uri) = [] := by
    apply List.filter_eq_nil_iff.2
    intro u hu hall
    obtain ⟨p, hr, rfl⟩ := List.mem_map.1 (hp.mem_iff.1 hu)
    exact of_decide_eq_true (List.all_eq_true.1 hall p hr) rfl
  have hheld : (s.unregisterAllUriHandles desc).1.held = some
      ((unregisterUris desc h (s.httpd, .ok) s.registeredUri).1.handlers h) := by
    rw [unregisterAllUriHandles_some hs, held, hs]
    rfl
  rw [hheld, unregisterUris_handlers, hnone]

/-- The registry and the server are emptied always, with `ESP_OK` exactly when no two of the
handlers share a URI. -/
theorem clears_iff (hl : Lists desc s) :
    Clears desc s ↔ ((s.registered desc).map HttpdUri.uri).Nodup := by
  have hheld := hl.unregisterAll_held
  obtain ⟨h, hs, hp⟩ := hl
  have hall : ∀ p ∈ s.registeredUri, ∃ u ∈ s.httpd.handlers h, u.uri = (desc p).uri := by
    intro p hr
    exact ⟨desc p, hp.mem_iff.2 (List.mem_map_of_mem hr), rfl⟩
  have hresult : (s.unregisterAllUriHandles desc).2 = .ok ↔
      ((s.registered desc).map HttpdUri.uri).Nodup := by
    rw [unregisterAllUriHandles_some hs, unregisterUris_ok_iff, registered, List.map_map]
    exact (and_iff_right rfl).trans (and_iff_left hall)
  rw [← hresult]
  apply Iff.intro
  · exact fun hc => hc.result
  · intro hr
    constructor
    case result => exact hr
    case registry => rw [unregisterAllUriHandles_some hs]
    case server => exact hheld

theorem clears_one : Clears (fun _ => ⟨"/a", 1⟩) oneHandler ↔
    ((oneHandler.registered fun _ => ⟨"/a", 1⟩).map HttpdUri.uri).Nodup :=
  clears_iff oneHandler_lists

def twoMethods (p : UriPtr) : HttpdUri := ⟨"/a", p⟩

theorem second_method_not_found :
    Lists twoMethods (Run.run (step twoMethods) (construct true ⟨false, none⟩)
        [.startServer .ok false, .uri (.registerUriHandle 1 .ok),
          .uri (.registerUriHandle 3 .ok)]) ∧
      ¬ Clears twoMethods (Run.run (step twoMethods) (construct true ⟨false, none⟩)
        [.startServer .ok false, .uri (.registerUriHandle 1 .ok),
          .uri (.registerUriHandle 3 .ok)]) := by
  apply And.intro
  · exact ⟨0, rfl, .refl _⟩
  · intro h
    have hr := h.result
    revert hr
    decide

structure OverloadsAgree (desc : UriPtr → HttpdUri) (s : HttpServer) (p : UriPtr) : Prop where
  server : (s.unregisterUriHandlePtr desc p).1.held =
    (s.unregisterUriHandle desc (desc p).uri (desc p).method).1.held
  registry : (s.unregisterUriHandlePtr desc p).1.registered desc =
    (s.unregisterUriHandle desc (desc p).uri (desc p).method).1.registered desc
  result : (s.unregisterUriHandlePtr desc p).2 = .ok ↔
    (s.unregisterUriHandle desc (desc p).uri (desc p).method).2 = .ok

theorem unregisterUriHandlePtr_held (hs : s.server = some h) (p : UriPtr) :
    (s.unregisterUriHandlePtr desc p).1.held = some ((s.httpd.handlers h).erase (desc p)) := by
  rw [unregisterUriHandlePtr_some hs, held, hs]
  exact congrArg some (if_pos rfl)

theorem Lists.unregisterUriHandle_held (hl : Lists desc s) (hs : s.server = some h) (uri : String)
    (method : HttpdMethod) : (s.unregisterUriHandle desc uri method).1.held =
      some ((s.httpd.handlers h).filter fun u => u ≠ ⟨uri, method⟩) := by
  obtain ⟨h', hs', hp⟩ := hl
  obtain rfl : h' = h := Option.some.inj (hs'.symm.trans hs)
  have hcount : (s.httpd.handlers h').count ⟨uri, method⟩ ≤ s.registeredUri.length + 1 := by
    have hc := List.count_le_length (a := (⟨uri, method⟩ : HttpdUri)) (l := s.httpd.handlers h')
    have hlen := hp.length_eq
    rw [registered, List.length_map] at hlen
    omega
  have hit : (unregisterEach h' ⟨uri, method⟩
      (s.httpd.unregisterUriHandler h' ⟨uri, method⟩) s.registeredUri).1.handlers h' =
      (s.httpd.handlers h').filter fun u => u ≠ ⟨uri, method⟩ := by
    rw [unregisterEach_handlers, ← TwoPass.iterate_erase _ _ _ hcount,
      Function.iterate_succ_apply]
    simp only [Httpd.unregisterUriHandler, Httpd.setHandlers_self]
  rw [unregisterUriHandle_some hs, ← hit, held, hs]
  rfl

theorem filter_registered_iff (desc : UriPtr → HttpdUri) (p : UriPtr) (l : List UriPtr) :
    (l.filter fun q => q ≠ p).map desc = (l.filter fun q => desc q ≠ desc p).map desc ↔
      ∀ q ∈ l, desc q = desc p → q = p := by
  apply Iff.intro
  · intro h q hq he
    by_contra hne
    have hm : desc q ∈ (l.filter fun q => desc q ≠ desc p).map desc := by
      rw [← h]
      exact List.mem_map_of_mem (List.mem_filter.2 ⟨hq, decide_eq_true hne⟩)
    obtain ⟨q', hq', he'⟩ := List.mem_map.1 hm
    exact of_decide_eq_true (List.mem_filter.1 hq').2 (he'.trans he)
  · intro h
    have hsame : ∀ q ∈ l, decide (q ≠ p) = decide (desc q ≠ desc p) := by
      intro q hq
      have hiff : q ≠ p ↔ desc q ≠ desc p :=
        ⟨fun hne he => hne (h q hq he), fun hne he => hne (congrArg desc he)⟩
      exact decide_eq_decide.2 hiff
    rw [List.filter_congr hsame]

/-- Leaving the results aside, they do the same as long as no other entry matches the descriptor
and none matches it twice. -/
theorem overloads_same_state_iff (hl : Lists desc s) (p : UriPtr) :
    ((s.unregisterUriHandlePtr desc p).1.held =
        (s.unregisterUriHandle desc (desc p).uri (desc p).method).1.held ∧
      (s.unregisterUriHandlePtr desc p).1.registered desc =
        (s.unregisterUriHandle desc (desc p).uri (desc p).method).1.registered desc) ↔
      (s.registered desc).count (desc p) ≤ 1 ∧ ∀ q ∈ s.registeredUri, desc q = desc p → q = p := by
  obtain ⟨h, hs, hp⟩ := id hl
  rw [unregisterUriHandlePtr_held hs, hl.unregisterUriHandle_held hs, Option.some.injEq,
    TwoPass.erase_eq_filter_iff, hp.count_eq, unregisterUriHandlePtr_some hs,
    unregisterUriHandle_some hs]
  exact and_congr_right fun _ => filter_registered_iff desc p s.registeredUri

/-- Where nothing matches neither overload does anything; else their results differ. -/
theorem overloads_agree_iff (hl : Lists desc s) (p : UriPtr) :
    OverloadsAgree desc s p ↔ desc p ∉ s.registered desc := by
  obtain ⟨h, hs, hp⟩ := id hl
  have hresult : (s.unregisterUriHandlePtr desc p).2 = .ok ↔ desc p ∈ s.registered desc := by
    rw [unregisterUriHandlePtr_some hs, ← hp.mem_iff]
    exact ite_eq_left_iff.trans (by simp)
  have hfail := hl.unregisterUriHandle_fails (desc p).uri (desc p).method
  apply Iff.intro
  · intro ho hm
    exact hfail (ho.result.1 (hresult.2 hm))
  · intro hm
    have hne : ∀ q ∈ s.registeredUri, desc q ≠ desc p := by
      intro q hq he
      exact hm (he ▸ List.mem_map_of_mem hq)
    have hserver : ∀ u ∈ s.httpd.handlers h, u ≠ desc p := by
      intro u hu he
      exact hm (hp.mem_iff.1 (he ▸ hu))
    constructor
    case server =>
      rw [unregisterUriHandlePtr_held hs, hl.unregisterUriHandle_held hs,
        List.erase_of_not_mem fun hu => hserver _ hu rfl]
      exact congrArg some (List.filter_eq_self.2 fun u hu => decide_eq_true (hserver u hu)).symm
    case registry =>
      have hptr : s.registeredUri.filter (fun q => q ≠ p) = s.registeredUri :=
        List.filter_eq_self.2 fun q hq => decide_eq_true fun he => hne q hq (congrArg desc he)
      have hval : s.registeredUri.filter (fun q => desc q ≠ desc p) = s.registeredUri :=
        List.filter_eq_self.2 fun q hq => decide_eq_true (hne q hq)
      rw [unregisterUriHandlePtr_some hs, unregisterUriHandle_some hs, registered, registered]
      exact congrArg (List.map desc) (hptr.trans hval.symm)
    case result => exact iff_of_false (fun h => hm (hresult.1 h)) hfail

theorem overloads_agree_one : OverloadsAgree (fun p => ⟨"/a", p + 1⟩) (Run.run
      (step fun p => ⟨"/a", p + 1⟩) (construct true ⟨false, none⟩)
      [.startServer .ok false, .uri (.registerUriHandle 0 .ok)]) 1 ↔
    ⟨"/a", 2⟩ ∉ (Run.run (step fun p => ⟨"/a", p + 1⟩) (construct true ⟨false, none⟩)
      [.startServer .ok false, .uri (.registerUriHandle 0 .ok)]).registered
        fun p => ⟨"/a", p + 1⟩ :=
  overloads_agree_iff ⟨0, rfl, .refl _⟩ 1

theorem overloads_differ : ¬ OverloadsAgree (fun _ => ⟨"/a", 1⟩) oneHandler 0 := by
  intro h
  have hr := h.result
  revert hr
  decide

end LDM.HttpServer
