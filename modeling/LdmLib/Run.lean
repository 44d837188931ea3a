import Mathlib.Data.List.Infix

namespace Run
set_option autoImplicit true

def run (step : σ → α → σ) (s : σ) (as : List α) : σ := as.foldl step s

@[simp] theorem run_nil (step : σ → α → σ) (s : σ) : run step s [] = s := rfl

@[simp] theorem run_cons (step : σ → α → σ) (s : σ) (a : α) (as : List α) :
    run step s (a :: as) = run step (step s a) as := rfl

theorem run_append (step : σ → α → σ) (s : σ) (as bs : List α) :
    run step s (as ++ bs) = run step (run step s as) bs :=
  List.foldl_append

@[simp] theorem run_concat (step : σ → α → σ) (s : σ) (as : List α) (a : α) :
    run step s (as ++ [a]) = step (run step s as) a :=
  run_append step s as [a]

variable {step : σ → α → σ} {s : σ} {as bs : List α}

/-- A property every input preserves holds at the end of every run. -/
theorem run_invariant {Inv : σ → Prop} (h0 : Inv s)
    (hstep : ∀ s a, Inv s → Inv (step s a)) (as : List α) : Inv (run step s as) := by
  induction as generalizing s with
  | nil => exact h0
  | cons a as ih => exact ih (hstep s a h0)

/-- A machine that follows an abstract one step by step does so in every run. -/
theorem run_simulates {astep : τ → β → τ} {Inv : σ → Prop} (abs : σ → τ) (f : α → β) (h0 : Inv s)
    (hstep : ∀ s a, Inv s → Inv (step s a))
    (hsim : ∀ s a, Inv s → abs (step s a) = astep (abs s) (f a)) (as : List α) :
    abs (run step s as) = run astep (abs s) (as.map f) := by
  induction as generalizing s with
  | nil => rfl
  | cons a as ih =>
    rw [List.map_cons, run_cons, run_cons, ih (hstep s a h0), hsim s a h0]

/-- `P` holds of every state a run passes through, the first and the last included. -/
def Always (step : σ → α → σ) (P : σ → Prop) (s : σ) (as : List α) : Prop :=
  ∀ pre, pre <+: as → P (run step s pre)

def Guarded (step : σ → α → σ) (G : σ → α → Prop) (s : σ) (as : List α) : Prop :=
  ∀ pre a, pre ++ [a] <+: as → G (run step s pre) a

theorem Always.last (h : Always step P s as) : P (run step s as) := h as List.prefix_rfl

theorem Always.mono (h : Always step P s as) (hp : bs <+: as) : Always step P s bs :=
  fun pre hpre => h pre (hpre.trans hp)

theorem guarded_nil (G : σ → α → Prop) (s : σ) : Guarded step G s [] := by
  intro pre a hp
  simp at hp

theorem guarded_cons {G : σ → α → Prop} {a : α} :
    Guarded step G s (a :: as) ↔ G s a ∧ Guarded step G (step s a) as := by
  apply Iff.intro
  · intro h
    apply And.intro
    · exact h [] a (List.prefix_append [a] as)
    · intro pre b hp
      exact h (a :: pre) b (List.cons_prefix_cons.2 ⟨rfl, hp⟩)
  · intro h pre b hp
    obtain ⟨ha, has⟩ := h
    cases pre with
    | nil =>
      obtain ⟨rfl, -⟩ := List.cons_prefix_cons.1 hp
      exact ha
    | cons c pre =>
      obtain ⟨rfl, hpre⟩ := List.cons_prefix_cons.1 hp
      exact has pre b hpre

theorem Guarded.mono (h : Guarded step G s as) (hp : bs <+: as) : Guarded step G s bs :=
  fun pre a hpre => h pre a (hpre.trans hp)

theorem Guarded.congr {G G' : σ → α → Prop} (h : ∀ s a, G s a ↔ G' s a) :
    Guarded step G s as ↔ Guarded step G' s as :=
  forall₂_congr fun pre a => imp_congr_right fun _ => h (run step s pre) a

theorem Guarded.congr_invariant {Inv : σ → Prop} {G G' : σ → α → Prop} (h0 : Inv s)
    (hstep : ∀ s a, Inv s → Inv (step s a)) (h : ∀ s a, Inv s → (G s a ↔ G' s a)) :
    Guarded step G s as ↔ Guarded step G' s as :=
  forall₂_congr fun pre a => imp_congr_right fun _ => h _ a (run_invariant h0 hstep pre)

/-- A machine whose every input stands for some inputs of another one: what one input keeps is kept
by a run. -/
theorem run_follows {astep : τ → β → τ} {R : σ → τ → Prop} {P : σ → Prop} {f : α → List β} {t : τ}
    (h : R s t) (hp : Always step P s as)
    (hstep : ∀ s t a, P (step s a) → R s t → R (step s a) (run astep t (f a))) :
    R (run step s as) (run astep t (as.flatMap f)) := by
  induction as using List.reverseRecOn with
  | nil => exact h
  | append_singleton as a ih =>
    have hr := ih (hp.mono (List.prefix_append _ _))
    have hl := hp.last
    rw [run_concat] at hl ⊢
    rw [List.flatMap_append, List.flatMap_singleton, run_append]
    exact hstep _ _ a hl hr

theorem guarded_of_invariant {Inv : σ → Prop} {G : σ → α → Prop} (h0 : Inv s)
    (hstep : ∀ s a, Inv s → Inv (step s a)) (hg : ∀ s a, Inv s → G s a) (as : List α) :
    Guarded step G s as :=
  fun pre a _ => hg _ a (run_invariant h0 hstep pre)

/-- Guarded inputs keep the invariant, so a guarded run keeps it to its end. -/
theorem Guarded.invariant {Inv : σ → Prop} (hg : Guarded step G s as) (h0 : Inv s)
    (hstep : ∀ s a, Inv s → G s a → Inv (step s a)) : Inv (run step s as) := by
  induction as using List.reverseRecOn with
  | nil => exact h0
  | append_singleton as a ih =>
    rw [run_concat]
    exact hstep _ a (ih (hg.mono (List.prefix_append _ _))) (hg as a List.prefix_rfl)

/-- A property is kept all along a run exactly when every input meets the guard: the guard keeps
an invariant that implies the property, and from the invariant the property needs the guard. -/
theorem always_iff_guarded {Inv P : σ → Prop} {G : σ → α → Prop} (h0 : Inv s)
    (hinv : ∀ s, Inv s → P s) (hstep : ∀ s a, Inv s → G s a → Inv (step s a))
    (hneed : ∀ s a, Inv s → P (step s a) → G s a) :
    Always step P s as ↔ Guarded step G s as := by
  apply Iff.intro
  · intro h
    induction as using List.reverseRecOn with
    | nil => exact guarded_nil G s
    | append_singleton as a ih =>
      have hg := ih (h.mono (List.prefix_append _ _))
      intro pre b hp
      rcases List.prefix_concat_iff.1 hp with he | hp
      · obtain ⟨rfl, rfl⟩ := List.append_singleton_inj.1 he
        have hlast := h.last
        rw [run_concat] at hlast
        exact hneed _ _ (hg.invariant h0 hstep) hlast
      · exact hg pre b hp
  · intro h pre hp
    exact hinv _ ((h.mono hp).invariant h0 hstep)

theorem always_ends_iff_guarded {Inv P E F : σ → Prop} {G : σ → α → Prop} (as : List α)
    (h0 : Inv s)
    (hinv : ∀ s, Inv s → P s) (hstep : ∀ s a, Inv s → G s a → Inv (step s a))
    (hneed : ∀ s a, Inv s → P (step s a) → G s a) (hend : ∀ s, Inv s → (E s ↔ F s)) :
    Always step P s as ∧ E (run step s as) ↔ Guarded step G s as ∧ F (run step s as) := by
  rw [always_iff_guarded h0 hinv hstep hneed]
  apply and_congr_right
  intro hg
  exact hend _ (hg.invariant h0 hstep)

/-- A machine next to an observer that sees every input and the state it is taken from. -/
def watch (step : σ → α → σ) (see : γ → σ → α → γ) (p : σ × γ) (a : α) : σ × γ :=
  (step p.1 a, see p.2 p.1 a)

end Run
