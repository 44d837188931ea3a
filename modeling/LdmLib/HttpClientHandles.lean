import LdmLib.HttpClient

namespace LDM.HttpClient
set_option autoImplicit true

open Ledger

variable {c d : HttpClient}

/-- The ways a post can end, by what it does with the handle it asks for. -/
inductive PostEnds (c d : HttpClient) : Prop where
  | notCreated (hc : d.client = none) (hi : d.issued = c.issued) (he : d.events = c.events)
  | cleanedUp (n : Nat) (hc : d.client = none) (hi : d.issued = c.issued + 1)
      (he : d.events = .release c.issued ::
        (List.replicate n (.use c.issued) ++ .acquire c.issued :: c.events))
  | abandoned (n : Nat) (hc : d.client = some c.issued) (hi : d.issued = c.issued + 1)
      (he : d.events = List.replicate n (.use c.issued) ++ .acquire c.issued :: c.events)

structure Posting (c d : HttpClient) (n : Nat) : Prop where
  issued : d.issued = c.issued + 1
  client : d.client = some c.issued
  events : d.events = List.replicate n (.use c.issued) ++ .acquire c.issued :: c.events

theorem espHttpClientInit_created (c : HttpClient) : Posting c (c.espHttpClientInit true) 0 :=
  ⟨rfl, rfl, rfl⟩

theorem Posting.call (hp : Posting c d n) (hk : k.event = some (.use c.issued)) :
    Posting c (d.call k) (n + 1) := by
  have he : (d.call k).events = .use c.issued :: d.events := List.filterMap_cons_some hk
  constructor
  case issued => exact hp.issued
  case client => exact hp.client
  case events => rw [he, hp.events, List.replicate_succ, List.cons_append]

theorem Posting.perform (hp : Posting c d n) (err : EspErr) :
    ∃ m, Posting c (d.espHttpClientPerform c.issued err) m := by
  have h1 := hp.call (k := .on c.issued (.perform err)) rfl
  unfold espHttpClientPerform
  split
  · exact ⟨_, (h1.call rfl).call rfl⟩
  · exact ⟨_, h1⟩

theorem Posting.contentType (hp : Posting c d n) (t : Option String) :
    ∃ m, Posting c (d.setContentType c.issued t) m := by
  cases t with
  | none => exact ⟨n, hp⟩
  | some t =>
    have h1 := hp.call (k := .on c.issued (.setHeader "Content-Type" t)) rfl
    unfold setContentType
    simp only
    split
    · exact ⟨_, h1.call rfl⟩
    · exact ⟨_, h1⟩

theorem Posting.cleanup (hp : Posting c d n) (err : EspErr) :
    PostEnds c (d.espHttpClientCleanup c.issued err).1 := by
  have he : (d.espHttpClientCleanup c.issued err).1.events = .release c.issued :: d.events := rfl
  rw [hp.events] at he
  exact .cleanedUp n rfl hp.issued he

theorem postFormattedJSON_ends (c : HttpClient) (message : Option String) (env : PostEnv) :
    PostEnds c (c.postFormattedJSON message env).1 := by
  cases hcr : env.created with
  | false =>
    rw [postFormattedJSON, hcr]
    exact .notCreated rfl rfl rfl
  | true =>
    have hp := espHttpClientInit_created c
    rw [postFormattedJSON, hcr]
    simp only [hp.client]
    cases message with
    | none => exact hp.cleanup env.cleanup
    | some m =>
      obtain ⟨n, hn⟩ := Posting.perform (((hp.call (k := .on c.issued .setMethodPost) rfl).call
        (k := .on c.issued (.setHeader "Content-Type" "application/json")) rfl).call
        (k := .on c.issued (.setPostField m)) rfl) env.perform
      exact hn.cleanup env.cleanup

theorem postBuffer_ends (c : HttpClient) (buffer : Option (List UInt8)) (len : Int)
    (contentType : Option String) (env : PostBufferEnv) :
    PostEnds c (c.postBuffer buffer len contentType env).1 := by
  cases hcr : env.created with
  | false =>
    rw [postBuffer, hcr]
    exact .notCreated rfl rfl rfl
  | true =>
    have hp := espHttpClientInit_created c
    rw [postBuffer, hcr]
    simp only [hp.client]
    cases buffer with
    | none => exact hp.cleanup env.cleanup
    | some b =>
      obtain ⟨n, hn⟩ := (hp.call (k := .on c.issued .setMethodPost) rfl).contentType contentType
      have ho := hn.call (k := .on c.issued (.openFor len env.openErr)) rfl
      simp only
      split
      · exact .abandoned _ ho.client ho.issued ho.events
      · have hw := ho.call (k := .on c.issued (.write b len env.written)) rfl
        obtain ⟨m, hm⟩ := hw.perform env.perform
        exact hm.cleanup env.cleanup

/-- Every handle passed to a call is live, and `client` is the only handle that is. -/
structure ClientSound (c : HttpClient) : Prop where
  disciplined : Disciplined c.events
  held : ∀ h, Live c.events h → c.client = some h

def Holding (c : HttpClient) : Prop := ∃ h, c.client = some h ∧ Live c.events h

def ClientGuard (c : HttpClient) : Op → Prop
  | .setURL _ _ _ => c.client = none ∨ c.Holding
  | .postJSON message _ _ => message = none ∨ ¬ c.Holding
  | .postFormattedJSON _ _ => ¬ c.Holding
  | .postBuffer _ _ _ _ => ¬ c.Holding
  | .deinit _ => c.client = none ∨ c.Holding

structure ClientInv (c : HttpClient) : Prop extends ClientSound c where
  fresh : ∀ h, .acquire h ∈ c.events → h < c.issued

theorem construct_inv (url : String) (client : Option Nat) : ClientInv (construct url client) where
  disciplined := disciplined_nil
  held h hl := (not_live_nil h hl).elim
  fresh h hh := by cases hh

theorem ClientInv.none_live (hi : ClientInv c) (hn : ¬ c.Holding) (h : Nat) : ¬ Live c.events h :=
  fun hl => hn ⟨h, hi.held h hl, hl⟩

theorem ClientInv.live_next (hi : ClientInv c) (n h : Nat) :
    Live (List.replicate n (.use c.issued) ++ .acquire c.issued :: c.events) h ↔
      h = c.issued ∨ Live c.events h := by
  rw [live_uses, Numbered.live_acquire hi.fresh hi.disciplined]

theorem ClientInv.disciplined_next (hi : ClientInv c) (n : Nat) :
    Disciplined (List.replicate n (.use c.issued) ++ .acquire c.issued :: c.events) := by
  have hl : Live (.acquire c.issued :: c.events) c.issued :=
    (Numbered.live_acquire hi.fresh hi.disciplined).2 (.inl rfl)
  rw [disciplined_uses]
  exact ⟨.inr hl, Numbered.not_acquired hi.fresh, hi.disciplined⟩

theorem ClientInv.fresh_next (hi : ClientInv c) (n : Nat) :
    Numbered (List.replicate n (.use c.issued) ++ .acquire c.issued :: c.events) (c.issued + 1) :=
  (Numbered.acquire hi.fresh).uses n c.issued

theorem ClientInv.post (hi : ClientInv c) (hp : PostEnds c d) (hn : ¬ c.Holding) :
    ClientInv d := by
  cases hp with
  | notCreated hc his he =>
    constructor
    case toClientSound =>
      constructor
      case disciplined => exact he ▸ hi.disciplined
      case held =>
        intro h hl
        exact (hi.none_live hn h (he ▸ hl)).elim
    case fresh =>
      rw [he, his]
      exact hi.fresh
  | cleanedUp n hc his he =>
    constructor
    case toClientSound =>
      constructor
      case disciplined =>
        rw [he, disciplined_release, hi.live_next]
        exact ⟨.inl rfl, hi.disciplined_next n⟩
      case held =>
        intro h hl
        rw [he, live_release, hi.live_next] at hl
        exact (hl.1.elim hl.2 (hi.none_live hn h)).elim
    case fresh =>
      rw [he, his]
      exact (hi.fresh_next n).release c.issued
  | abandoned n hc his he =>
    constructor
    case toClientSound =>
      constructor
      case disciplined => exact he ▸ hi.disciplined_next n
      case held =>
        intro h hl
        rw [he, hi.live_next] at hl
        rcases hl with rfl | hl
        · exact hc
        · exact (hi.none_live hn h hl).elim
    case fresh =>
      rw [he, his]
      exact hi.fresh_next n

theorem ClientInv.post_needed (hi : ClientInv c) (hp : PostEnds c d) (hd : ClientSound d) :
    ¬ c.Holding := by
  intro hold
  obtain ⟨h, hc, hl⟩ := hold
  have hne : h ≠ c.issued := Numbered.ne_of_live hi.fresh hl
  cases hp with
  | notCreated hd' _ he =>
    have hh := hd.held h (he ▸ hl)
    simp [hd'] at hh
  | cleanedUp n hd' _ he =>
    have hh := hd.held h (by rw [he, live_release, hi.live_next]; exact ⟨.inr hl, hne⟩)
    simp [hd'] at hh
  | abandoned n hd' _ he =>
    have hh := hd.held h (by rw [he, hi.live_next]; exact .inr hl)
    rw [hd'] at hh
    exact hne (Option.some.inj hh).symm

theorem deinit_none (hc : c.client = none) (env : DeinitEnv) : c.deinit env = (c, .ok) := by
  rw [deinit, hc]

theorem deinit_events (hc : c.client = some h) (env : DeinitEnv) :
    (c.deinit env).1.events = .release h :: .use h :: c.events ∧
      (c.deinit env).1.client = none ∧ (c.deinit env).1.issued = c.issued := by
  rw [deinit, hc]
  exact ⟨rfl, rfl, rfl⟩

theorem ClientInv.deinit_disciplined (hi : ClientInv c) (env : DeinitEnv) :
    Disciplined (c.deinit env).1.events ↔ c.client = none ∨ c.Holding := by
  cases hc : c.client with
  | none =>
    rw [deinit_none hc]
    exact iff_of_true hi.disciplined (.inl rfl)
  | some h =>
    rw [(deinit_events hc env).1, disciplined_release, disciplined_use, live_use]
    apply Iff.intro
    · exact fun hd => .inr ⟨h, hc, hd.1⟩
    · intro hg
      rcases hg with hn | ⟨h', hc', hl⟩
      · cases hn
      · rw [hc] at hc'
        cases hc'
        exact ⟨hl, hl, hi.disciplined⟩

theorem ClientInv.deinit (hi : ClientInv c) (env : DeinitEnv)
    (hg : c.client = none ∨ c.Holding) :
    ClientInv (c.deinit env).1 ∧ (c.deinit env).1.client = none := by
  have hd := (hi.deinit_disciplined env).2 hg
  cases hc : c.client with
  | none =>
    rw [deinit_none hc]
    exact ⟨hi, hc⟩
  | some h =>
    obtain ⟨he, hn, his⟩ := deinit_events hc env
    apply And.intro _ hn
    constructor
    case toClientSound =>
      constructor
      case disciplined => exact hd
      case held =>
        intro k hl
        rw [he, live_release, live_use] at hl
        have hk := hi.held k hl.1
        rw [hc] at hk
        exact (hl.2 (Option.some.inj hk).symm).elim
    case fresh =>
      rw [he, his]
      exact (Numbered.use hi.fresh h).release h

theorem ClientInv.espHttpClientInit (hi : ClientInv c) (hc : c.client = none) (created : Bool) :
    ClientInv (c.espHttpClientInit created) := by
  have hn (h : Nat) : ¬ Live c.events h := by
    intro hl
    have hh := hi.held h hl
    simp [hc] at hh
  cases created with
  | false => exact ⟨⟨hi.disciplined, fun h hl => (hn h hl).elim⟩, hi.fresh⟩
  | true =>
    have hp := espHttpClientInit_created c
    constructor
    case toClientSound =>
      constructor
      case disciplined => exact hp.events ▸ hi.disciplined_next 0
      case held =>
        intro h hl
        rw [hp.events, hi.live_next] at hl
        rw [hp.client, hl.resolve_right (hn h)]
    case fresh =>
      rw [hp.events, hp.issued]
      exact hi.fresh_next 0

def configured (c : HttpClient) (url : String) : HttpClient :=
  { c with url := url, config := ⟨url, false⟩ }

theorem ClientInv.configured (hi : ClientInv c) (url : String) : ClientInv (c.configured url) :=
  ⟨⟨hi.disciplined, hi.held⟩, hi.fresh⟩

theorem disciplined_espHttpClientInit {created : Bool}
    (hd : Disciplined (c.espHttpClientInit created).events) : Disciplined c.events := by
  cases created with
  | false => exact hd
  | true => exact hd.2

theorem ClientInv.setURL_needed {url : String} (hi : ClientInv c)
    (hd : ClientSound (c.setURL url env created).1) : c.client = none ∨ c.Holding :=
  ((hi.configured url).deinit_disciplined env).1 (disciplined_espHttpClientInit hd.disciplined)

theorem postJSON_some (c : HttpClient) (m : CJson) (size : Nat) (env : PostEnv) :
    PostEnds c (c.postJSON (some m) size env).1 :=
  postFormattedJSON_ends c _ env

theorem ClientInv.step (hi : ClientInv c) (hg : ClientGuard c op) : ClientInv (c.step op) := by
  cases op with
  | setURL url env created =>
    obtain ⟨hd, hn⟩ := (hi.configured url).deinit env hg
    exact hd.espHttpClientInit hn created
  | postJSON message size env =>
    cases message with
    | none => exact hi
    | some m => exact hi.post (postJSON_some c m size env) (hg.resolve_left (by simp))
  | postFormattedJSON message env => exact hi.post (postFormattedJSON_ends c message env) hg
  | postBuffer buffer len contentType env =>
    exact hi.post (postBuffer_ends c buffer len contentType env) hg
  | deinit env => exact (hi.deinit env hg).1

theorem ClientInv.guard_needed (hi : ClientInv c) (hd : ClientSound (c.step op)) :
    ClientGuard c op := by
  cases op with
  | setURL url env created => exact hi.setURL_needed hd
  | postJSON message size env =>
    cases message with
    | none => exact .inl rfl
    | some m => exact .inr (hi.post_needed (postJSON_some c m size env) hd)
  | postFormattedJSON message env => exact hi.post_needed (postFormattedJSON_ends c message env) hd
  | postBuffer buffer len contentType env =>
    exact hi.post_needed (postBuffer_ends c buffer len contentType env) hd
  | deinit env => exact (hi.deinit_disciplined env).1 hd.disciplined

/-- What holds once the destructor has run: its calls were sound, and every handle was cleaned up
exactly once. -/
def EndSound (c : HttpClient) : Prop :=
  ∀ env, Disciplined (c.destroy env).events ∧
    ∀ h, .acquire h ∈ (c.destroy env).events → (c.destroy env).events.count (.release h) = 1

theorem ClientInv.destroy_iff (hi : ClientInv c) :
    EndSound c ↔ c.client = none ∨ c.Holding := by
  apply Iff.intro
  · exact fun he => (hi.deinit_disciplined _).1 (he ⟨.ok, .ok⟩).1
  · intro hg env
    obtain ⟨hd, hn⟩ := hi.deinit env hg
    apply And.intro hd.disciplined
    intro h ha
    apply hd.disciplined.released_once ha
    intro hl
    have hh := hd.held h hl
    simp [hn] at hh

structure LifetimeSound (url : String) (client : Option Nat) (ops : List Op)
    (destroyed : Bool) : Prop where
  states : Run.Always step ClientSound (construct url client) ops
  ended : destroyed = true → EndSound (Run.run step (construct url client) ops)

structure LifetimeGuarded (url : String) (client : Option Nat) (ops : List Op)
    (destroyed : Bool) : Prop where
  calls : Run.Guarded step ClientGuard (construct url client) ops
  ended : destroyed = true →
    (Run.run step (construct url client) ops).client = none ∨
      (Run.run step (construct url client) ops).Holding

/-- Only live handles are passed on, one at a time, and the destructor leaves none, exactly when
every post starts with no handle held, and the object is given a new URL, deinitialised and
destroyed only while `client` is `NULL` or a handle that is still live. -/
theorem client_handles_iff (url : String) (client : Option Nat) (ops : List Op)
    (destroyed : Bool) :
    LifetimeSound url client ops destroyed ↔ LifetimeGuarded url client ops destroyed := by
  have hiff := Run.always_ends_iff_guarded (G := ClientGuard) ops (construct_inv url client)
    (fun _ hi => hi.toClientSound) (fun _ _ hi hg => hi.step hg)
    (fun _ _ hi hd => hi.guard_needed hd)
    (fun _ hi => imp_congr_right fun _ : destroyed = true => hi.destroy_iff)
  apply Iff.intro
  · intro h
    obtain ⟨hcalls, hended⟩ := hiff.1 ⟨h.states, h.ended⟩
    exact ⟨hcalls, hended⟩
  · intro h
    obtain ⟨hstates, hended⟩ := hiff.2 ⟨h.calls, h.ended⟩
    exact ⟨hstates, hended⟩

/-- The post that follows a `setURL` overwrites the handle `setURL` obtained. -/
theorem post_after_setURL_leaks : ¬ LifetimeSound "http://a" none
    [.setURL "http://b" ⟨.ok, .ok⟩ true, .postFormattedJSON (some "[]") ⟨true, .ok, .ok⟩] true := by
  intro h
  have hc := (h.ended rfl ⟨.ok, .ok⟩).2 0
  revert hc
  decide

end LDM.HttpClient
