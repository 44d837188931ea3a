import LdmLib.HttpClient
import LdmLib.Transcript

namespace LDM
set_option autoImplicit true

open Transcript

def ClientCall.entry : ClientCall → Option (Entry Nat ClientConfig HandleCall)
  | .init config (some h) => some (.opened h config)
  | .init _ none => none
  | .on h k => some (.made h k)

/-- The calls at which the client library sends something of a request. -/
def HandleCall.sends : HandleCall → Bool
  | .openFor _ _ => true
  | .write _ _ _ => true
  | .perform _ => true
  | _ => false

/-- The client library: what goes out at the last of some calls on a handle. -/
abbrev ClientLib (β : Type) := ClientConfig → List HandleCall → List β

namespace HttpClient

variable (lib : ClientLib β)

/-- All that goes out at the calls of a client, whichever handles they are made on. -/
def traffic (c : HttpClient) : List β :=
  Transcript.traffic HandleCall.sends lib (c.log.filterMap ClientCall.entry)

def contentTypeCalls : Option String → List HandleCall
  | none => []
  | some t =>
    if t = contentTypeImage then
      [.setHeader "Content-Type" t,
        .setHeader "Content-Disposition" "inline; filename=capture.jpg"]
    else [.setHeader "Content-Type" t]

/-- The calls of one request for a text. -/
def textCalls (message : Option String) (env : PostEnv) : List HandleCall :=
  match message with
  | some m =>
    if env.created then
      [.setMethodPost, .setHeader "Content-Type" "application/json", .setPostField m,
        .perform env.perform]
    else []
  | none => []

namespace Op

/-- The calls of the one request that an operation is there to make, on a handle of its own. -/
def calls : Op → List HandleCall
  | .setURL _ _ _ => []
  | .postJSON message size env =>
    textCalls (message.bind fun m =>
      if size = 0 then m.printUnformatted else m.printBuffered size) env
  | .postFormattedJSON message env => textCalls message env
  | .postBuffer buffer len contentType env =>
    match buffer with
    | some b =>
      if env.created then
        .setMethodPost :: contentTypeCalls contentType ++ .openFor len env.openErr ::
          if env.openErr = .ok then [.write b len env.written, .perform env.perform] else []
      else []
    | none => []
  | .deinit _ => []

def configAfter (config : ClientConfig) : Op → ClientConfig
  | .setURL url _ _ => ⟨url, false⟩
  | _ => config

end Op

/-- A client by its purpose: it has a configuration, and makes a request for each post. -/
structure Poster (β : Type) where
  config : ClientConfig
  sent : List β

def Poster.step (p : Poster β) (op : Op) : Poster β :=
  ⟨op.configAfter p.config, p.sent ++ Transcript.sent HandleCall.sends lib p.config op.calls⟩

def poster (c : HttpClient) : Poster β := ⟨c.config, c.traffic lib⟩

variable {lib : ClientLib β} {c d : HttpClient}

/-- What one handle holds in a client. -/
abbrev OnHandle (lib : ClientLib β) (c : HttpClient) (h : Nat) (config : ClientConfig)
    (ks : List HandleCall) (rs : List β) : Prop :=
  Holds HandleCall.sends lib (c.log.filterMap ClientCall.entry) h config ks rs

theorem traffic_silent {k : HandleCall} (hk : k.sends = false) (c : HttpClient) (h : Nat) :
    (c.call (.on h k)).traffic lib = c.traffic lib :=
  Transcript.traffic_silent hk h

theorem onHandle_created (c : HttpClient) :
    OnHandle lib (c.espHttpClientInit true) c.issued c.config [] (c.traffic lib) :=
  Holds.opened c.issued c.config

section request

variable {h : Nat} {config : ClientConfig} {ks : List HandleCall} {rs : List β}

theorem OnHandle.call (hd : OnHandle lib d h config ks rs) (k : HandleCall) :
    OnHandle lib (d.call (.on h k)) h config (ks ++ [k]) rs :=
  hd.made k

theorem OnHandle.contentType (hd : OnHandle lib d h config ks rs) (t : Option String) :
    OnHandle lib (d.setContentType h t) h config (ks ++ contentTypeCalls t) rs := by
  cases t with
  | none =>
    rw [contentTypeCalls, List.append_nil]
    exact hd
  | some t =>
    have h1 := OnHandle.call hd (.setHeader "Content-Type" t)
    unfold setContentType contentTypeCalls
    by_cases ht : t = contentTypeImage
    · simp only [if_pos ht]
      rw [List.append_cons]
      exact OnHandle.call h1 (.setHeader "Content-Disposition" "inline; filename=capture.jpg")
    · simp only [if_neg ht]
      exact h1

/-- The request is performed, and giving the handle back sends nothing more. -/
theorem OnHandle.perform (hd : OnHandle lib d h config ks rs) (err cleanup : EspErr) :
    ((d.espHttpClientPerform h err).espHttpClientCleanup h cleanup).1.traffic lib =
      rs ++ sent HandleCall.sends lib config (ks ++ [.perform err]) := by
  have hp := (OnHandle.call hd (.perform err)).traffic
  have hc : (d.espHttpClientPerform h err).traffic lib =
      (d.call (.on h (.perform err))).traffic lib := by
    unfold espHttpClientPerform
    dsimp only
    split
    · rw [traffic_silent rfl, traffic_silent rfl]
    · rfl
  exact (traffic_silent rfl _ h).trans (hc.trans hp)

theorem postFormattedJSON_traffic (c : HttpClient) (message : Option String) (env : PostEnv) :
    (c.postFormattedJSON message env).1.traffic lib =
      c.traffic lib ++ sent HandleCall.sends lib c.config (textCalls message env) := by
  cases hcr : env.created with
  | false =>
    have hn : textCalls message env = [] := by
      cases message with
      | none => rfl
      | some m => simp [textCalls, hcr]
    rw [postFormattedJSON, hcr, hn]
    exact (List.append_nil _).symm
  | true =>
    rw [postFormattedJSON, hcr]
    have h0 : OnHandle lib (c.espHttpClientInit true) c.issued c.config [] (c.traffic lib) :=
      onHandle_created c
    cases message with
    | none =>
      have hk : (HandleCall.cleanup env.cleanup).sends = false := rfl
      exact (traffic_silent hk _ c.issued).trans h0.traffic
    | some m =>
      have h1 := (h0.call .setMethodPost).call (.setHeader "Content-Type" "application/json")
      have h2 := h1.call (.setPostField m)
      rw [textCalls, if_pos hcr]
      exact h2.perform env.perform env.cleanup

theorem postBuffer_traffic (c : HttpClient) (buffer : Option (List UInt8)) (len : Int)
    (contentType : Option String) (env : PostBufferEnv) :
    (c.postBuffer buffer len contentType env).1.traffic lib =
      c.traffic lib ++ sent HandleCall.sends lib c.config
        (Op.calls (.postBuffer buffer len contentType env)) := by
  cases hcr : env.created with
  | false =>
    have hn : Op.calls (.postBuffer buffer len contentType env) = [] := by
      cases buffer with
      | none => rfl
      | some b => simp [Op.calls, hcr]
    rw [postBuffer, hcr, hn]
    exact (List.append_nil _).symm
  | true =>
    rw [postBuffer, hcr]
    have h0 : OnHandle lib (c.espHttpClientInit true) c.issued c.config [] (c.traffic lib) :=
      onHandle_created c
    cases buffer with
    | none =>
      have hk : (HandleCall.cleanup env.cleanup).sends = false := rfl
      exact (traffic_silent hk _ c.issued).trans h0.traffic
    | some b =>
      have h1 := (h0.call .setMethodPost).contentType contentType
      have h2 := h1.call (.openFor len env.openErr)
      change (if env.openErr ≠ .ok then _ else _ : HttpClient × EspErr).1.traffic lib = _
      rw [Op.calls, if_pos hcr]
      by_cases ho : env.openErr = .ok
      · have h3 := (h2.call (.write b len env.written)).perform env.perform env.cleanup
        rw [if_neg (not_not.2 ho), if_pos ho]
        simpa using h3
      · rw [if_pos ho, if_neg ho]
        exact h2.traffic

end request

theorem deinit_traffic (c : HttpClient) (env : DeinitEnv) :
    (c.deinit env).1.traffic lib = c.traffic lib := by
  unfold deinit
  split
  · rename_i h _
    have hclose : (HandleCall.close env.close).sends = false := rfl
    have hcleanup : (HandleCall.cleanup env.cleanup).sends = false := rfl
    exact (traffic_silent hcleanup _ h).trans (traffic_silent hclose c h)
  · rfl

theorem espHttpClientInit_traffic (c : HttpClient) (created : Bool) :
    (c.espHttpClientInit created).traffic lib = c.traffic lib := by
  cases created with
  | true => rfl
  | false => rfl

theorem espHttpClientInit_config (c : HttpClient) (created : Bool) :
    (c.espHttpClientInit created).config = c.config := by
  cases created with
  | true => rfl
  | false => rfl

theorem perform_config (c : HttpClient) (h : Nat) (err cleanup : EspErr) :
    ((c.espHttpClientPerform h err).espHttpClientCleanup h cleanup).1.config = c.config := by
  unfold espHttpClientPerform
  dsimp only
  split
  · rfl
  · rfl

theorem setContentType_config (c : HttpClient) (h : Nat) (t : Option String) :
    (c.setContentType h t).config = c.config := by
  cases t with
  | none => rfl
  | some t =>
    unfold setContentType
    dsimp only
    split
    · rfl
    · rfl

theorem deinit_config (c : HttpClient) (env : DeinitEnv) :
    (c.deinit env).1.config = c.config := by
  unfold deinit
  split
  · rfl
  · rfl

theorem postFormattedJSON_config (c : HttpClient) (message : Option String) (env : PostEnv) :
    (c.postFormattedJSON message env).1.config = c.config := by
  rw [postFormattedJSON, ← espHttpClientInit_config c env.created]
  generalize c.espHttpClientInit env.created = d
  cases d.client with
  | none => rfl
  | some h =>
    cases message with
    | none => rfl
    | some m => exact perform_config _ _ _ _

theorem postBuffer_config (c : HttpClient) (buffer : Option (List UInt8)) (len : Int)
    (contentType : Option String) (env : PostBufferEnv) :
    (c.postBuffer buffer len contentType env).1.config = c.config := by
  rw [postBuffer, ← espHttpClientInit_config c env.created]
  generalize c.espHttpClientInit env.created = d
  cases d.client with
  | none => rfl
  | some h =>
    cases buffer with
    | none => rfl
    | some b =>
      have ht := setContentType_config (d.call (.on h .setMethodPost)) h contentType
      dsimp only
      split
      · exact ht
      · exact (perform_config _ _ _ _).trans ht

theorem step_config (c : HttpClient) (op : Op) :
    (c.step op).config = op.configAfter c.config := by
  cases op with
  | setURL url env created =>
    exact (espHttpClientInit_config _ created).trans (deinit_config _ env)
  | postJSON message size env =>
    cases message with
    | none => rfl
    | some m => exact postFormattedJSON_config c _ env
  | postFormattedJSON message env => exact postFormattedJSON_config c message env
  | postBuffer buffer len contentType env => exact postBuffer_config c buffer len contentType env
  | deinit env => exact deinit_config c env

theorem step_traffic (c : HttpClient) (op : Op) :
    (c.step op).traffic lib =
      c.traffic lib ++ Transcript.sent HandleCall.sends lib c.config op.calls := by
  cases op with
  | setURL url env created =>
    have hs : (c.setURL url env created).1.traffic lib = c.traffic lib :=
      (espHttpClientInit_traffic _ created).trans (deinit_traffic _ env)
    exact hs.trans (List.append_nil _).symm
  | postJSON message size env =>
    cases message with
    | none => exact (List.append_nil _).symm
    | some m => exact postFormattedJSON_traffic c _ env
  | postFormattedJSON message env => exact postFormattedJSON_traffic c message env
  | postBuffer buffer len contentType env => exact postBuffer_traffic c buffer len contentType env
  | deinit env => exact (deinit_traffic c env).trans (List.append_nil _).symm

/-- Over any use of a client, and whatever the library makes of the calls, what goes out is what
the requests of its posts send, to the URL set last, each once and in order, and nothing besides. -/
theorem requests_sent (lib : ClientLib β) (url : String) (client : Option Nat) (ops : List Op) :
    (Run.run step (construct url client) ops).poster lib =
      Run.run (Poster.step lib) ⟨⟨url, true⟩, []⟩ ops := by
  let Inv (_ : HttpClient) : Prop := True
  have hstep (c : HttpClient) (op : Op) (hc : Inv c) : Inv (c.step op) := hc
  have hsim (c : HttpClient) (op : Op) (_ : Inv c) :
      (c.step op).poster lib = (c.poster lib).step lib (id op) := by
    rw [poster, step_config, step_traffic]
    rfl
  have h := Run.run_simulates (poster lib) id (show Inv (construct url client) from trivial) hstep
    hsim ops
  rwa [List.map_id] at h

end HttpClient

end LDM
