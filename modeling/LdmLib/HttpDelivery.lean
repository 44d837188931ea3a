import LdmLib.HttpClient

namespace LDM.HttpClient
set_option autoImplicit true

/-- What the calls return that set up a request; the functions drop these results. -/
structure SetEnv where
  method : EspErr
  header : String → EspErr
  postField : EspErr

def setOk : SetEnv := ⟨.ok, fun _ => .ok, .ok⟩

structure FormattedDelivered (message : Option String) (env : PostEnv) (set : SetEnv) : Prop where
  message : message.isSome = true
  created : env.created = true
  method : set.method = .ok
  contentType : set.header "Content-Type" = .ok
  body : set.postField = .ok
  performed : env.perform = .ok

structure BufferDelivered (buffer : Option (List UInt8)) (bufferLen : Int)
    (contentType : Option String) (env : PostBufferEnv) (set : SetEnv) : Prop where
  buffer : buffer.isSome = true
  created : env.created = true
  method : set.method = .ok
  header : ∀ t, contentType = some t → set.header "Content-Type" = .ok
  disposition : contentType = some contentTypeImage → set.header "Content-Disposition" = .ok
  opened : env.openErr = .ok
  body : env.written = bufferLen
  performed : env.perform = .ok

def printed (m : CJson) (size : Nat) : Option String :=
  if size = 0 then m.printUnformatted else m.printBuffered size

/-- The other operations post nothing. -/
def Delivered (set : SetEnv) : Op → Prop
  | .postJSON message size env =>
    ∃ m, message = some m ∧ FormattedDelivered (printed m size) env set
  | .postFormattedJSON message env => FormattedDelivered message env set
  | .postBuffer buffer bufferLen contentType env =>
    BufferDelivered buffer bufferLen contentType env set
  | .setURL _ _ _ => True
  | .deinit _ => True

def ReportsFailure (set : SetEnv) (c : HttpClient) (op : Op) : Prop :=
  (c.apply op).2 = .ok → Delivered set op

/-- The failures that the posts do return: of the first call, of opening the connection, and of the
last call. -/
def Surfaces : Op → Prop
  | .postFormattedJSON _ env => env.created = false ∨ env.cleanup ≠ .ok
  | .postBuffer buffer _ _ env =>
    env.created = false ∨ buffer.isSome = true ∧ env.openErr ≠ .ok ∨ env.cleanup ≠ .ok
  | _ => False

variable {c : HttpClient}

theorem espHttpClientInit_client (c : HttpClient) (created : Bool) :
    (c.espHttpClientInit created).client = if created then some c.issued else none := by
  cases created with
  | true => rfl
  | false => rfl

theorem postFormattedJSON_ok_iff (c : HttpClient) (message : Option String) (env : PostEnv) :
    (c.postFormattedJSON message env).2 = .ok ↔ env.created = true ∧ env.cleanup = .ok := by
  have hc := c.espHttpClientInit_client env.created
  unfold postFormattedJSON
  cases hcr : env.created with
  | false =>
    rw [hcr] at hc
    simp [hc]
  | true =>
    rw [hcr] at hc
    cases message with
    | none => simp [hc, espHttpClientCleanup]
    | some m => simp [hc, espHttpClientCleanup]

theorem postBuffer_ok_iff (c : HttpClient) (buffer : Option (List UInt8)) (bufferLen : Int)
    (contentType : Option String) (env : PostBufferEnv) :
    (c.postBuffer buffer bufferLen contentType env).2 = .ok ↔
      env.created = true ∧ (buffer.isSome = true → env.openErr = .ok) ∧ env.cleanup = .ok := by
  have hc := c.espHttpClientInit_client env.created
  unfold postBuffer
  cases hcr : env.created with
  | false =>
    rw [hcr] at hc
    simp [hc]
  | true =>
    rw [hcr] at hc
    cases buffer with
    | none => simp [hc, espHttpClientCleanup]
    | some b =>
      by_cases he : env.openErr = .ok
      · simp [hc, he, espHttpClientCleanup]
      · simp [hc, he]

theorem postJSON_ok (c : HttpClient) (message : Option CJson) (size : Nat) (env : PostEnv) :
    (c.postJSON message size env).2 = .ok := by
  cases message with
  | none => rfl
  | some m => rfl

theorem reportsFailure_iff (set : SetEnv) (hok : (c.apply op).2 = .ok ↔ ¬ Surfaces op) :
    ReportsFailure set c op ↔ Surfaces op ∨ Delivered set op := by
  rw [ReportsFailure, hok]
  exact or_iff_not_imp_left.symm

/-- A failed delivery is reported when it is one of the three failures that surface, and else only
if there is none. -/
theorem failure_reported_iff (set : SetEnv) (c : HttpClient) (op : Op) :
    ReportsFailure set c op ↔ Surfaces op ∨ Delivered set op := by
  cases op with
  | setURL url env created => exact iff_of_true (fun _ => trivial) (.inr trivial)
  | deinit env => exact iff_of_true (fun _ => trivial) (.inr trivial)
  | postJSON message size env =>
    exact reportsFailure_iff set (iff_of_true (c.postJSON_ok message size env) id)
  | postFormattedJSON message env =>
    apply reportsFailure_iff
    rw [apply, postFormattedJSON_ok_iff, Surfaces, not_or, not_not, Bool.not_eq_false]
  | postBuffer buffer bufferLen contentType env =>
    apply reportsFailure_iff
    rw [apply, postBuffer_ok_iff, Surfaces, not_or, not_or, not_and, not_not, not_not,
      Bool.not_eq_false]

/-- The request fails, or only half of the buffer is written, or the message cannot be printed, and
the cleanup succeeds. -/
theorem failure_not_reported :
    ¬ ReportsFailure setOk (construct "http://host/" none)
        (.postFormattedJSON (some "{}") ⟨true, .fail, .ok⟩) ∧
      ¬ ReportsFailure setOk (construct "http://host/" none)
        (.postBuffer (some [1, 2]) 2 none ⟨true, .ok, 1, .ok, .ok⟩) ∧
      ¬ ReportsFailure setOk (construct "http://host/" none)
        (.postJSON (some ⟨none, fun _ => none⟩) 0 ⟨true, .ok, .ok⟩) := by
  apply And.intro
  · intro h
    exact EspErr.fail_ne_ok (h rfl).performed
  · apply And.intro
    · intro h
      have hb : (1 : Int) = 2 := (h rfl).body
      exact absurd hb (by decide)
    · intro h
      obtain ⟨m, hm, hd⟩ := h rfl
      cases hm
      exact Bool.false_ne_true hd.message

end LDM.HttpClient
