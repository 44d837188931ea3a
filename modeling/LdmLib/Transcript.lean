import Mathlib.Data.List.Basic

namespace Transcript
set_option autoImplicit true

/-- A handle is handed out for a configuration, or a call is made on one. -/
inductive Entry (η γ κ : Type) where
  | opened (h : η) (config : γ)
  | made (h : η) (k : κ)
  deriving DecidableEq, Repr

variable [DecidableEq η]

/-- The configuration of a handle and the calls made on it since it was handed out last. A
transcript is kept with the newest entry first, and the calls of a session with the oldest. -/
def session (h : η) : List (Entry η γ κ) → Option (γ × List κ)
  | [] => none
  | .opened h' config :: es => if h' = h then some (config, []) else session h es
  | .made h' k :: es =>
    if h' = h then (session h es).map fun s => (s.1, s.2 ++ [k]) else session h es

section traffic

variable (sends : κ → Bool) (lib : γ → List κ → List β)

/-- What goes out at a call that sends, as `lib` says it of the session up to the call. -/
def output (s : Option (γ × List κ)) (k : κ) : List β :=
  match s with
  | some (config, before) => if sends k then lib config (before ++ [k]) else []
  | none => []

def traffic : List (Entry η γ κ) → List β
  | [] => []
  | .opened _ _ :: es => traffic es
  | .made h k :: es => traffic es ++ output sends lib (session h es) k

/-- What goes out at the calls of one session, after those made before them. -/
def sentAfter (config : γ) (before : List κ) : List κ → List β
  | [] => []
  | k :: ks =>
    output sends lib (some (config, before)) k ++ sentAfter config (before ++ [k]) ks

def sent (config : γ) (ks : List κ) : List β := sentAfter sends lib config [] ks

/-- The session of a handle, and what went out with what it sent last. -/
structure Holds (es : List (Entry η γ κ)) (h : η) (config : γ) (ks : List κ) (rs : List β) :
    Prop where
  session : session h es = some (config, ks)
  traffic : traffic sends lib es = rs ++ sent sends lib config ks

end traffic

variable {sends : κ → Bool} {lib : γ → List κ → List β} {es : List (Entry η γ κ)}

theorem sentAfter_concat (config : γ) (before ks : List κ) (k : κ) :
    sentAfter sends lib config before (ks ++ [k]) =
      sentAfter sends lib config before ks ++
        output sends lib (some (config, before ++ ks)) k := by
  induction ks generalizing before with
  | nil =>
    rw [List.append_nil]
    exact List.append_nil _
  | cons l ks ih =>
    rw [List.cons_append, sentAfter, ih, sentAfter, List.append_assoc, List.append_assoc]
    rfl

theorem output_silent (hk : sends k = false) (s : Option (γ × List κ)) :
    output sends lib s k = [] := by
  cases s with
  | none => rfl
  | some s => exact if_neg (by rw [hk]; exact Bool.false_ne_true)

theorem traffic_silent (hk : sends k = false) (h : η) :
    traffic sends lib (.made h k :: es) = traffic sends lib es := by
  rw [traffic, output_silent hk, List.append_nil]

theorem Holds.opened (h : η) (config : γ) :
    Holds sends lib (.opened h config :: es) h config []
      (Transcript.traffic sends lib es) :=
  ⟨if_pos rfl, (List.append_nil _).symm⟩

theorem Holds.made (hs : Holds sends lib es h config ks rs) (k : κ) :
    Holds sends lib (.made h k :: es) h config (ks ++ [k]) rs := by
  constructor
  case session =>
    rw [Transcript.session, if_pos rfl, hs.session]
    rfl
  case traffic =>
    rw [Transcript.traffic, hs.session, hs.traffic, sent, sent, sentAfter_concat,
      List.append_assoc]
    rfl

end Transcript
