import LdmLib.Run

namespace LastWriter
set_option autoImplicit true

/-- What the last of the inputs that write at all has written, or what was there before. -/
def last (f : α → Option β) (b : β) (as : List α) : β := (as.filterMap f).getLast?.getD b

variable {f : α → Option β} {b : β}

@[simp] theorem last_nil : last f b [] = b := rfl

@[simp] theorem last_concat (as : List α) (a : α) :
    last f b (as ++ [a]) = (f a).getD (last f b as) := by
  unfold last
  cases h : f a with
  | none => simp [List.filterMap_append, h]
  | some c => simp [List.filterMap_append, h]

/-- What each input either leaves or overwrites is what the last input has written that did. -/
theorem run_last {step : σ → α → σ} {P : σ → Prop} {s : σ} {as : List α} (obs : σ → β)
    (hp : Run.Always step P s as)
    (hstep : ∀ s a, P (step s a) → obs (step s a) = (f a).getD (obs s)) :
    obs (Run.run step s as) = last f (obs s) as := by
  induction as using List.reverseRecOn with
  | nil => rfl
  | append_singleton as a ih =>
    have hl := hp.last
    rw [Run.run_concat] at hl ⊢
    rw [last_concat, hstep _ a hl, ih (hp.mono (List.prefix_append _ _))]

end LastWriter

/-- A store that keeps its values in buckets, under keys. -/
abbrev KeyedStore (β κ ν : Type) : Type := β → κ → Option ν

namespace KeyedStore

inductive Write (β κ ν : Type) where
  | put (b : β) (k : κ) (v : ν)
  | remove (b : β) (k : κ)
  | clear (b : β)
  | format
  deriving DecidableEq, Repr

section

variable {β κ ν : Type} [DecidableEq β] [DecidableEq κ]

namespace Write

def written (b : β) (k : κ) : Write β κ ν → Option (Option ν)
  | .put b' k' v => if b = b' ∧ k = k' then some (some v) else none
  | .remove b' k' => if b = b' ∧ k = k' then some none else none
  | .clear b' => if b = b' then some none else none
  | .format => some none

def apply (s : KeyedStore β κ ν) (w : Write β κ ν) : KeyedStore β κ ν :=
  fun b k => (w.written b k).getD (s b k)

@[simp] theorem apply_at (s : KeyedStore β κ ν) (w : Write β κ ν) (b : β) (k : κ) :
    w.apply s b k = (w.written b k).getD (s b k) := rfl

end Write

theorem run_at (s : KeyedStore β κ ν) (ws : List (Write β κ ν)) (b : β) (k : κ) :
    Run.run (fun s w => Write.apply s w) s ws b k =
      LastWriter.last (Write.written b k) (s b k) ws :=
  LastWriter.run_last (P := fun _ => True) (fun s => s b k) (fun _ _ => trivial)
    fun s w _ => Write.apply_at s w b k

end

end KeyedStore
