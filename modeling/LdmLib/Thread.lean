import LdmLib.Prog
import LdmLib.Run

set_option autoImplicit true

/-- A program that stops between any two of its actions, so that others can act there. An action
`c` is answered by an `ρ c`. -/
inductive Thread (κ : Type) (ρ : κ → Type) (α : Type) where
  | done (a : α)
  | abort
  | act (c : κ) (next : ρ c → Thread κ ρ α)

namespace Thread

variable {κ : Type} {ρ : κ → Type}

def bind (t : Thread κ ρ α) (f : α → Thread κ ρ β) : Thread κ ρ β :=
  match t with
  | .done a => f a
  | .abort => .abort
  | .act c next => .act c fun r => (next r).bind f

instance : Monad (Thread κ ρ) where
  pure := .done
  bind := bind

def perform (c : κ) : Thread κ ρ (ρ c) := .act c .done

/-- The thread alone, when every action is a program on the state. -/
def run (h : ∀ c, Prog σ (ρ c)) : Thread κ ρ α → Prog σ α
  | .done a => pure a
  | .abort => Prog.abort
  | .act c next => h c >>= fun r => (next r).run h

section run

variable (h : ∀ c, Prog σ (ρ c))

@[simp] theorem run_pure (a : α) : (pure a : Thread κ ρ α).run h = pure a := rfl

@[simp] theorem run_abort : (abort : Thread κ ρ α).run h = Prog.abort := rfl

@[simp] theorem run_perform (c : κ) : (perform c : Thread κ ρ (ρ c)).run h = h c := Prog.bind_pure _

@[simp] theorem run_bind (t : Thread κ ρ α) (f : α → Thread κ ρ β) :
    (t >>= f).run h = t.run h >>= fun a => (f a).run h := by
  induction t with
  | done a => rfl
  | abort => rfl
  | act c next ih =>
    change (h c >>= fun r => (next r >>= f).run h) = (h c >>= fun r => (next r).run h) >>= _
    rw [Prog.bind_assoc]
    exact congrArg (h c >>= ·) (funext ih)

theorem run_ite (p : Prop) [Decidable p] (t u : Thread κ ρ α) :
    (if p then t else u).run h = if p then t.run h else u.run h := by
  split
  · rfl
  · rfl

end run

/-- Every action of the thread keeps the property, whatever it is answered. -/
def Keeps (h : ∀ c, σ → σ × ρ c) (I : σ → Prop) : Thread κ ρ α → Prop
  | .done _ => True
  | .abort => True
  | .act c next => (∀ s, I s → I (h c s).1) ∧ ∀ r, (next r).Keeps h I

section Keeps

variable {h : ∀ c, σ → σ × ρ c} {I : σ → Prop}

theorem Keeps.pure (a : α) : (pure a : Thread κ ρ α).Keeps h I := trivial

theorem Keeps.abort : (abort : Thread κ ρ α).Keeps h I := trivial

theorem Keeps.of_forall (hc : ∀ c s, I s → I (h c s).1) (t : Thread κ ρ α) : t.Keeps h I := by
  induction t with
  | done a => trivial
  | abort => trivial
  | act c next ih => exact ⟨hc c, ih⟩

theorem Keeps.perform (hc : ∀ s, I s → I (h c s).1) : (perform c).Keeps h I :=
  ⟨hc, fun _ => trivial⟩

theorem Keeps.bind {t : Thread κ ρ α} {f : α → Thread κ ρ β} (ht : t.Keeps h I)
    (hf : ∀ a, (f a).Keeps h I) : (t >>= f).Keeps h I := by
  induction t with
  | done a => exact hf a
  | abort => trivial
  | act c next ih => exact ⟨ht.1, fun r => ih r (ht.2 r)⟩

theorem Keeps.ite [Decidable p] {t u : Thread κ ρ α} (ht : t.Keeps h I) (hu : u.Keeps h I) :
    (if p then t else u).Keeps h I := by
  split
  · exact ht
  · exact hu

end Keeps

/-- The state where a thread runs next to an environment: before any of its actions, the
environment may take any number of steps. If the thread returns, its value, the state before its
last action and the state after it are in `Q`; `l` is the state before the action taken last. -/
def Returns (h : ∀ c, σ → σ × ρ c) (env : σ → ε → σ) (Q : σ → α → σ → Prop) :
    Thread κ ρ α → σ → σ → Prop
  | .done a, l, s => Q l a s
  | .abort, _, _ => True
  | .act c next, _, s => ∀ es, (next (h c (Run.run env s es)).2).Returns h env Q
      (Run.run env s es) (h c (Run.run env s es)).1

section Returns

variable {h : ∀ c, σ → σ × ρ c} {env : σ → ε → σ} {l s : σ}

theorem Returns.mono {Q Q' : σ → α → σ → Prop} {t : Thread κ ρ α} (ht : t.Returns h env Q l s)
    (hq : ∀ l a s, Q l a s → Q' l a s) : t.Returns h env Q' l s := by
  induction t generalizing l s with
  | done a => exact hq l a s ht
  | abort => trivial
  | act c next ih => exact fun es => ih _ (ht es)

theorem Returns.bind {Q : σ → β → σ → Prop} {M : σ → α → σ → Prop} {t : Thread κ ρ α}
    {f : α → Thread κ ρ β} (ht : t.Returns h env M l s)
    (hf : ∀ l a s, M l a s → (f a).Returns h env Q l s) : (t >>= f).Returns h env Q l s := by
  induction t generalizing l s with
  | done a => exact hf l a s ht
  | abort => trivial
  | act c next ih => exact fun es => ih _ (ht es)

theorem Returns.ite [Decidable p] {Q : σ → α → σ → Prop} {t u : Thread κ ρ α}
    (ht : p → t.Returns h env Q l s) (hu : ¬ p → u.Returns h env Q l s) :
    (if p then t else u).Returns h env Q l s := by
  split
  · next hp => exact ht hp
  · next hp => exact hu hp

/-- The environment does not disturb the property. -/
def Stable (env : σ → ε → σ) (P : σ → Prop) : Prop := ∀ s e, P s → P (env s e)

theorem Stable.run {P : σ → Prop} (hp : Stable env P) (hs : P s) (es : List ε) :
    P (Run.run env s es) :=
  Run.run_invariant hs hp es

theorem returns_perform {P : σ → Prop} {Q : σ → ρ c → σ → Prop} (hp : Stable env P)
    (hq : ∀ s, P s → Q s (h c s).2 (h c s).1) (hs : P s) :
    (perform c : Thread κ ρ (ρ c)).Returns h env Q l s :=
  fun es => hq _ (hp.run hs es)

theorem returns_true (t : Thread κ ρ α) (l s : σ) : t.Returns h env (fun _ _ _ => True) l s := by
  induction t generalizing l s with
  | done a => trivial
  | abort => trivial
  | act c next ih => exact fun es => ih _ _ _

end Returns

/-- From a state in `P` the thread, if it returns, returns `a` in a state in `Q a`. -/
def Triple (h : ∀ c, σ → σ × ρ c) (env : σ → ε → σ) (P : σ → Prop) (t : Thread κ ρ α)
    (Q : α → σ → Prop) : Prop :=
  ∀ l s, P s → t.Returns h env (fun _ a s => Q a s) l s

section Triple

variable {h : ∀ c, σ → σ × ρ c} {env : σ → ε → σ} {P : σ → Prop}

theorem Triple.pure {Q : α → σ → Prop} (hq : ∀ s, P s → Q a s) :
    Triple h env P (pure a : Thread κ ρ α) Q :=
  fun _ s hs => hq s hs

theorem Triple.abort {Q : α → σ → Prop} : Triple h env P (Thread.abort : Thread κ ρ α) Q :=
  fun _ _ _ => trivial

theorem Triple.bind {M : α → σ → Prop} {Q : β → σ → Prop} {t : Thread κ ρ α}
    {f : α → Thread κ ρ β} (ht : Triple h env P t M) (hf : ∀ a, Triple h env (M a) (f a) Q) :
    Triple h env P (t >>= f) Q :=
  fun l s hs => (ht l s hs).bind fun l' a s' hm => hf a l' s' hm

theorem Triple.ite [Decidable p] {Q : α → σ → Prop} {t u : Thread κ ρ α}
    (ht : p → Triple h env P t Q) (hu : ¬ p → Triple h env P u Q) :
    Triple h env P (if p then t else u) Q :=
  fun l s hs => .ite (fun hp => ht hp l s hs) fun hp => hu hp l s hs

theorem Triple.perform {Q : ρ c → σ → Prop} (hp : Stable env P)
    (hq : ∀ s, P s → Q (h c s).2 (h c s).1) :
    Triple h env P (perform c : Thread κ ρ (ρ c)) Q :=
  fun _ _ hs => returns_perform hp hq hs

theorem Triple.mono {P' : σ → Prop} {Q Q' : α → σ → Prop} {t : Thread κ ρ α}
    (ht : Triple h env P t Q) (hp : ∀ s, P' s → P s) (hq : ∀ a s, Q a s → Q' a s) :
    Triple h env P' t Q' :=
  fun l s hs => (ht l s (hp s hs)).mono fun _ a s' => hq a s'

/-- A property that neither the actions nor the environment disturb is there at the end. -/
theorem Triple.of_keeps {t : Thread κ ρ α} (hp : Stable env P) (hk : t.Keeps h P) :
    Triple h env P t fun _ s => P s := by
  induction t with
  | done a => exact .pure fun _ hs => hs
  | abort => exact .abort
  | act c next ih => exact fun l s hs es => ih _ (hk.2 _) _ _ (hk.1 _ (hp.run hs es))

end Triple

/-- One step of the thread, or one of its environment. -/
def interleave (h : ∀ c, σ → σ × ρ c) (env : σ → ε → σ) (p : Thread κ ρ α × σ) :
    Option ε → Thread κ ρ α × σ
  | none =>
    match p.1 with
    | .act c next => (next (h c p.2).2, (h c p.2).1)
    | t => (t, p.2)
  | some e => (p.1, env p.2 e)

/-- The value the thread returns with its next action. -/
def returning (h : ∀ c, σ → σ × ρ c) (p : Thread κ ρ α × σ) : Option α :=
  match p.1 with
  | .act c next =>
    match next (h c p.2).2 with
    | .done a => some a
    | _ => none
  | _ => none

/-- What is still to come when the thread has not returned. -/
def Pending (h : ∀ c, σ → σ × ρ c) (env : σ → ε → σ) (Q : σ → α → σ → Prop)
    (p : Thread κ ρ α × σ) : Prop :=
  (∃ a, p.1 = .done a) ∨ p.1.Returns h env Q p.2 p.2

section interleave

variable {h : ∀ c, σ → σ × ρ c} {env : σ → ε → σ} {Q : σ → α → σ → Prop}
  {p : Thread κ ρ α × σ} {l s : σ}

theorem Pending.of_returns {t : Thread κ ρ α} (hr : t.Returns h env Q l s) :
    Pending h env Q (t, s) := by
  cases t with
  | done a => exact .inl ⟨a, rfl⟩
  | abort => exact .inr trivial
  | act c next => exact .inr hr

theorem Pending.step (hp : Pending h env Q p) (i : Option ε) :
    Pending h env Q (interleave h env p i) := by
  obtain ⟨t, s⟩ := p
  cases t with
  | done a =>
    cases i with
    | none => exact .inl ⟨a, rfl⟩
    | some e => exact .inl ⟨a, rfl⟩
  | abort =>
    cases i with
    | none => exact .inr trivial
    | some e => exact .inr trivial
  | act c next =>
    obtain ⟨a, ha⟩ | hr := hp
    · cases ha
    · cases i with
      | none => exact .of_returns (hr [])
      | some e => exact .inr fun es => hr (e :: es)

theorem interleave_returning (env : σ → ε → σ) (ha : returning h p = some a) :
    (interleave h env p none).1 = .done a := by
  obtain ⟨t, s⟩ := p
  cases t with
  | done b => cases ha
  | abort => cases ha
  | act c next =>
    change next (h c s).2 = .done a
    unfold returning at ha
    cases hd : next (h c s).2 with
    | done b =>
      simp only [hd] at ha
      cases ha
      rfl
    | abort => simp only [hd] at ha; cases ha
    | act c' next' => simp only [hd] at ha; cases ha

theorem Pending.returning (hp : Pending h env Q p) (ha : returning h p = some a) :
    Q p.2 a (Thread.interleave h env p none).2 := by
  have hd := interleave_returning env ha
  obtain ⟨t, s⟩ := p
  cases t with
  | done b => cases ha
  | abort => cases ha
  | act c next =>
    obtain ⟨b, hb⟩ | hr := hp
    · cases hb
    · have hn : (next (h c s).2).Returns h env Q s (h c s).1 := hr []
      have he : next (h c s).2 = .done a := hd
      rw [he] at hn
      exact hn

theorem Keeps.step {I : σ → Prop} (hk : p.1.Keeps h I) (env : σ → ε → σ) :
    (interleave h env p none).1.Keeps h I ∧ (I p.2 → I (interleave h env p none).2) := by
  obtain ⟨t, s⟩ := p
  cases t with
  | done a => exact ⟨trivial, fun hs => hs⟩
  | abort => exact ⟨trivial, fun hs => hs⟩
  | act c next => exact ⟨hk.2 _, hk.1 s⟩

end interleave

end Thread
