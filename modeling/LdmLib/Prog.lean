import Mathlib.Logic.Basic

set_option autoImplicit true

/-- A program over a state: the state it leaves, and its value unless it stops there for good. -/
def Prog (σ α : Type) : Type := σ → σ × Option α

namespace Prog

instance : Monad (Prog σ) where
  pure a s := (s, some a)
  bind p f s :=
    match p s with
    | (s, some a) => f a s
    | (s, none) => (s, none)

def abort : Prog σ α := fun s => (s, none)

def get : Prog σ σ := fun s => (s, some s)

def modify (f : σ → σ) : Prog σ Unit := fun s => (f s, some ())

def onlyIf (c : Prop) [Decidable c] (a : α) (p : Prog σ α) : Prog σ α := if c then p else pure a

variable {p : Prog σ α} {f : α → Prog σ β} {I : σ → Prop}

@[simp] theorem pure_apply (a : α) (s : σ) : (pure a : Prog σ α) s = (s, some a) := rfl

@[simp] theorem abort_apply (s : σ) : (abort : Prog σ α) s = (s, none) := rfl

@[simp] theorem get_apply (s : σ) : (get : Prog σ σ) s = (s, some s) := rfl

@[simp] theorem modify_apply (g : σ → σ) (s : σ) : modify g s = (g s, some ()) := rfl

theorem bind_some (h : p s = (s', some a)) : (p >>= f) s = f a s' := by
  change (match p s with | (s, some a) => f a s | (s, none) => (s, none)) = f a s'
  rw [h]

theorem bind_none (h : p s = (s', none)) : (p >>= f) s = (s', none) := by
  change (match p s with | (s, some a) => f a s | (s, none) => (s, none)) = (s', none)
  rw [h]

@[simp] theorem get_bind (f : σ → Prog σ β) (s : σ) : (get >>= f) s = f s s := rfl

@[simp] theorem modify_bind (g : σ → σ) (f : Unit → Prog σ β) (s : σ) :
    (modify g >>= f) s = f () (g s) := rfl

@[simp] theorem pure_bind (a : α) (f : α → Prog σ β) (s : σ) : (pure a >>= f) s = f a s := rfl

theorem bind_pure (p : Prog σ α) : (p >>= pure) = p := by
  funext s
  cases h : p s with
  | mk s' r =>
    cases r with
    | some a => exact bind_some h
    | none => exact bind_none h

theorem bind_assoc (p : Prog σ α) (f : α → Prog σ β) (g : β → Prog σ γ) :
    (p >>= f >>= g) = p >>= fun a => f a >>= g := by
  funext s
  cases h : p s with
  | mk s' r =>
    cases r with
    | some a =>
      rw [bind_some h]
      have hf : (p >>= f) s = f a s' := bind_some h
      change (match (p >>= f) s with | (s, some b) => g b s | (s, none) => (s, none)) = _
      rw [hf]
      rfl
    | none => rw [bind_none h, bind_none (bind_none h)]

/-- A property of states that the program keeps however it ends. -/
def Keeps (I : σ → Prop) (p : Prog σ α) : Prop := ∀ s, I s → I (p s).1

theorem Keeps.pure (a : α) : Keeps I (Pure.pure a : Prog σ α) := fun _ hs => hs

theorem Keeps.abort : Keeps I (Prog.abort : Prog σ α) := fun _ hs => hs

theorem Keeps.modify {g : σ → σ} (h : ∀ s, I s → I (g s)) : Keeps I (Prog.modify g) := h

theorem Keeps.bind (hp : Keeps I p) (hf : ∀ a, Keeps I (f a)) : Keeps I (p >>= f) := by
  intro s hs
  have hs' := hp s hs
  cases h : p s with
  | mk s' r =>
    rw [h] at hs'
    cases r with
    | some a =>
      rw [bind_some h]
      exact hf a s' hs'
    | none =>
      rw [bind_none h]
      exact hs'

theorem Keeps.get {f : σ → Prog σ β} (hf : ∀ s, Keeps I (f s)) : Keeps I (Prog.get >>= f) :=
  fun s hs => hf s s hs

theorem Keeps.ite [Decidable c] (ht : Keeps I p) (he : Keeps I p') :
    Keeps I (if c then p else p') := by
  by_cases hc : c
  · rw [if_pos hc]
    exact ht
  · rw [if_neg hc]
    exact he

theorem Keeps.onlyIf [Decidable c] (h : Keeps I p) : Keeps I (Prog.onlyIf c a p) :=
  .ite h (.pure a)

/-- A program that keeps every value of a component leaves the component as it is. -/
theorem Keeps.frame {g : σ → γ} (h : ∀ c, Keeps (fun s => g s = c) p) (s : σ) :
    g (p s).1 = g s :=
  h (g s) s rfl

/-- Two programs that run in lockstep: from related states they come to related states, and end
alike. -/
def Alike (R : σ → τ → Prop) (p : Prog σ α) (q : Prog τ α) : Prop :=
  ∀ s t, R s t → R (p s).1 (q t).1 ∧ (p s).2 = (q t).2

section Alike

variable {R : σ → τ → Prop} {q : Prog τ α} {g : α → Prog τ β}

theorem Alike.pure (a : α) : Alike R (Pure.pure a : Prog σ α) (Pure.pure a : Prog τ α) :=
  fun _ _ h => ⟨h, rfl⟩

theorem Alike.abort : Alike R (Prog.abort : Prog σ α) (Prog.abort : Prog τ α) :=
  fun _ _ h => ⟨h, rfl⟩

theorem Alike.modify {u : σ → σ} {v : τ → τ} (h : ∀ s t, R s t → R (u s) (v t)) :
    Alike R (Prog.modify u) (Prog.modify v) :=
  fun s t hs => ⟨h s t hs, rfl⟩

theorem Alike.bind (hp : Alike R p q) (hf : ∀ a, Alike R (f a) (g a)) :
    Alike R (p >>= f) (q >>= g) := by
  intro s t h
  obtain ⟨hr, hv⟩ := hp s t h
  cases hs : p s with
  | mk s' a =>
    cases ht : q t with
    | mk t' b =>
      rw [hs, ht] at hr hv
      obtain rfl : a = b := hv
      cases a with
      | some a =>
        rw [bind_some hs, bind_some ht]
        exact hf a s' t' hr
      | none =>
        rw [bind_none hs, bind_none ht]
        exact ⟨hr, rfl⟩

theorem Alike.get {f : σ → Prog σ β} {g : τ → Prog τ β}
    (h : ∀ s t, R s t → Alike R (f s) (g t)) : Alike R (Prog.get >>= f) (Prog.get >>= g) :=
  fun s t hs => h s t hs s t hs

theorem Alike.ite [Decidable c] {p' : Prog σ α} {q' : Prog τ α} (ht : Alike R p q)
    (he : Alike R p' q') : Alike R (if c then p else p') (if c then q else q') := by
  by_cases hc : c
  · rw [if_pos hc, if_pos hc]
    exact ht
  · rw [if_neg hc, if_neg hc]
    exact he

theorem Alike.onlyIf [Decidable c] (h : Alike R p q) :
    Alike R (Prog.onlyIf c a p) (Prog.onlyIf c a q) :=
  .ite h (.pure a)

end Alike

/-- Where the program gets to its end, what holds before it becomes what holds after it. -/
def Leads (P : σ → Prop) (p : Prog σ α) (Q : α → σ → Prop) : Prop :=
  ∀ s, P s → ∀ a, (p s).2 = some a → Q a (p s).1

section Leads

variable {P M : σ → Prop} {Q : α → σ → Prop}

theorem Leads.pure (h : ∀ s, P s → Q a s) : Leads P (Pure.pure a : Prog σ α) Q := by
  intro s hs b hb
  obtain rfl : a = b := Option.some.inj hb
  exact h s hs

theorem Leads.abort : Leads P (Prog.abort : Prog σ α) Q := fun _ _ _ ha => by cases ha

theorem Leads.modify {g : σ → σ} {Q : Unit → σ → Prop} (h : ∀ s, P s → Q () (g s)) :
    Leads P (Prog.modify g) Q :=
  fun s hs _ _ => h s hs

theorem Leads.bind {R : β → σ → Prop} (hp : Leads P p Q) (hf : ∀ a, Leads (Q a) (f a) R) :
    Leads P (p >>= f) R := by
  intro s hs b hb
  cases h : p s with
  | mk s' r =>
    cases r with
    | some a =>
      rw [bind_some h] at hb ⊢
      have hq := hp s hs a (by rw [h])
      rw [h] at hq
      exact hf a s' hq b hb
    | none =>
      rw [bind_none h] at hb
      cases hb

theorem Leads.get {f : σ → Prog σ β} {R : β → σ → Prop}
    (h : ∀ s, P s → Leads P (f s) R) : Leads P (Prog.get >>= f) R :=
  fun s hs => h s hs s hs

theorem Leads.ite [Decidable c] {p' : Prog σ α} (ht : c → Leads P p Q)
    (he : ¬ c → Leads P p' Q) : Leads P (if c then p else p') Q := by
  by_cases hc : c
  · rw [if_pos hc]
    exact ht hc
  · rw [if_neg hc]
    exact he hc

theorem Leads.of_keeps (h : Keeps P p) : Leads P p fun _ => P := fun s hs _ _ => h s hs

end Leads

/-- The program gets to its end just where `c` holds, and leaves `B` where it stops for good. -/
structure Ends (p : Prog σ α) (c : Prop) (B : σ → Prop) : Prop where
  ends : ∀ s, (p s).2.isSome ↔ c
  stopped : ∀ s, (p s).2 = none → B (p s).1

section Ends

variable {c c' : Prop} {B : σ → Prop}

theorem Ends.of_some (h : ∀ s, (p s).2.isSome) : Ends p True B := by
  constructor
  case ends => exact fun s => iff_true_intro (h s)
  case stopped =>
    intro s hs
    have hn := h s
    rw [hs] at hn
    cases hn

theorem Ends.pure (a : α) : Ends (Pure.pure a : Prog σ α) True B := .of_some fun _ => rfl

theorem Ends.modify (g : σ → σ) : Ends (Prog.modify g) True B := .of_some fun _ => rfl

theorem Ends.congr (h : Ends p c B) (hc : c ↔ c') : Ends p c' B :=
  ⟨fun s => (h.ends s).trans hc, h.stopped⟩

theorem Ends.bind (hp : Ends p c B) (hf : ∀ a, Ends (f a) c' B) : Ends (p >>= f) (c ∧ c') B := by
  constructor
  case ends =>
    intro s
    have hc := hp.ends s
    cases h : p s with
    | mk s' r =>
      rw [h] at hc
      cases r with
      | some a =>
        rw [bind_some h, and_iff_right (hc.1 rfl)]
        exact (hf a).ends s'
      | none =>
        rw [bind_none h]
        exact iff_of_false Bool.false_ne_true fun h => Bool.false_ne_true (hc.2 h.1)
  case stopped =>
    intro s hs
    have hb := hp.stopped s
    cases h : p s with
    | mk s' r =>
      rw [h] at hb
      cases r with
      | some a =>
        rw [bind_some h] at hs ⊢
        exact (hf a).stopped s' hs
      | none =>
        rw [bind_none h]
        exact hb rfl

theorem Ends.get {f : σ → Prog σ β} (hf : ∀ s, Ends (f s) c B) : Ends (Prog.get >>= f) c B :=
  ⟨fun s => (hf s).ends s, fun s => (hf s).stopped s⟩

theorem Ends.ite [Decidable d] {p' : Prog σ α} (ht : d → Ends p c B) (he : ¬ d → Ends p' c B) :
    Ends (if d then p else p') c B := by
  by_cases hd : d
  · rw [if_pos hd]
    exact ht hd
  · rw [if_neg hd]
    exact he hd

theorem Ends.onlyIf [Decidable d] (h : Ends p c B) : Ends (Prog.onlyIf d a p) (d → c) B :=
  .ite (fun hd => h.congr ⟨fun hc _ => hc, fun hc => hc hd⟩)
    fun hd => (Ends.pure a).congr (iff_of_true trivial fun h => absurd h hd)

end Ends

/-- The program never gets to its end. -/
def Stops (p : Prog σ α) : Prop := ∀ s, (p s).2 = none

theorem Stops.abort : Stops (Prog.abort : Prog σ α) := fun _ => rfl

theorem Stops.bind (hp : Stops p) (f : α → Prog σ β) : Stops (p >>= f) := by
  intro s
  cases h : p s with
  | mk s' r =>
    have hr : r = none := by
      have hn := hp s
      rwa [h] at hn
    subst hr
    rw [bind_none h]

theorem Stops.after (hf : ∀ a, Stops (f a)) (p : Prog σ α) : Stops (p >>= f) := by
  intro s
  cases h : p s with
  | mk s' r =>
    cases r with
    | some a =>
      rw [bind_some h]
      exact hf a s'
    | none => rw [bind_none h]

end Prog
