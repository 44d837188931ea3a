import Mathlib.Data.List.Count

namespace Ledger
set_option autoImplicit true

/-- What a client does with a handle: obtain it, pass it to a call, or give it back for good. -/
inductive Event (H : Type u) where
  | acquire (h : H)
  | use (h : H)
  | release (h : H)
  deriving DecidableEq, Repr

/-- A log is kept with the newest event first. A handle is live while it is acquired and not yet
released. -/
def Live (log : List (Event H)) (h : H) : Prop := .acquire h ∈ log ∧ .release h ∉ log

instance [DecidableEq H] (log : List (Event H)) (h : H) : Decidable (Live log h) :=
  inferInstanceAs (Decidable (_ ∧ _))

/-- The events a log may be extended with: a new handle is acquired, a live one used or released. -/
def Allowed (log : List (Event H)) : Event H → Prop
  | .acquire h => .acquire h ∉ log
  | .use h => Live log h
  | .release h => Live log h

instance [DecidableEq H] (log : List (Event H)) : (e : Event H) → Decidable (Allowed log e)
  | .acquire h => inferInstanceAs (Decidable (Event.acquire h ∉ log))
  | .use h => inferInstanceAs (Decidable (Live log h))
  | .release h => inferInstanceAs (Decidable (Live log h))

/-- Every handle that was used or released was live at that point, and none came back twice. -/
def Disciplined : List (Event H) → Prop
  | [] => True
  | e :: log => Allowed log e ∧ Disciplined log

instance decidableDisciplined [DecidableEq H] :
    (log : List (Event H)) → Decidable (Disciplined log)
  | [] => .isTrue trivial
  | e :: log =>
    have := decidableDisciplined log
    inferInstanceAs (Decidable (Allowed log e ∧ Disciplined log))

@[simp] theorem disciplined_nil : Disciplined ([] : List (Event H)) := trivial

@[simp] theorem not_live_nil (h : H) : ¬ Live [] h := by
  simp [Live]

@[simp] theorem disciplined_acquire : Disciplined (.acquire h :: log) ↔
    .acquire h ∉ log ∧ Disciplined log := Iff.rfl

@[simp] theorem disciplined_use : Disciplined (.use h :: log) ↔
    Live log h ∧ Disciplined log := Iff.rfl

@[simp] theorem disciplined_release : Disciplined (.release h :: log) ↔
    Live log h ∧ Disciplined log := Iff.rfl

@[simp] theorem live_use : Live (.use h' :: log) h ↔ Live log h := by
  simp [Live]

@[simp] theorem live_release : Live (.release h' :: log) h ↔ Live log h ∧ h ≠ h' := by
  simp only [Live, List.mem_cons, reduceCtorEq, false_or, Event.release.injEq, not_or]
  tauto

@[simp] theorem live_uses (n : Nat) :
    Live (List.replicate n (.use h') ++ log) h ↔ Live log h := by
  induction n with
  | zero => rfl
  | succ n ih => rw [List.replicate_succ, List.cons_append, live_use, ih]

/-- Using a handle any number of times asks no more than that it is live. -/
theorem disciplined_uses (n : Nat) : Disciplined (List.replicate n (.use h) ++ log) ↔
    (n = 0 ∨ Live log h) ∧ Disciplined log := by
  induction n with
  | zero => simp
  | succ n ih =>
    rw [List.replicate_succ, List.cons_append, disciplined_use, live_uses, ih]
    simp only [Nat.add_one_ne_zero, false_or]
    apply Iff.intro
    · exact fun h => ⟨h.1, h.2.2⟩
    · exact fun h => ⟨h.1, .inr h.1, h.2⟩

theorem Disciplined.acquired (hd : Disciplined log) (hr : .release h ∈ log) :
    .acquire h ∈ log := by
  induction log with
  | nil => simp at hr
  | cons e log ih =>
    rcases List.mem_cons.1 hr with rfl | hr
    · exact List.mem_cons_of_mem _ hd.1.1
    · exact List.mem_cons_of_mem _ (ih hd.2 hr)

theorem Disciplined.live_acquire (hd : Disciplined log) (hn : .acquire h' ∉ log) :
    Live (.acquire h' :: log) h ↔ h = h' ∨ Live log h := by
  have hr : .release h' ∉ log := fun hr => hn (hd.acquired hr)
  simp only [Live, List.mem_cons, Event.acquire.injEq, reduceCtorEq, false_or]
  apply Iff.intro
  · intro hl
    obtain ⟨rfl | ha, hr⟩ := hl
    · exact .inl rfl
    · exact .inr ⟨ha, hr⟩
  · intro hl
    rcases hl with rfl | ⟨ha, hr⟩
    · exact ⟨.inl rfl, hr⟩
    · exact ⟨.inr ha, hr⟩

theorem Disciplined.release_count [DecidableEq H] (hd : Disciplined log) (h : H) :
    log.count (.release h) ≤ 1 := by
  induction log with
  | nil => simp
  | cons e log ih =>
    rw [List.count_cons]
    split
    · rename_i he
      have he : e = .release h := by simpa using he
      subst he
      have hz : log.count (.release h) = 0 := List.count_eq_zero.2 hd.1.2
      omega
    · exact ih hd.2

/-- An acquired handle that is not live any more was released exactly once. -/
theorem Disciplined.released_once [DecidableEq H] (hd : Disciplined log)
    {h : H} (ha : .acquire h ∈ log) (hl : ¬ Live log h) : log.count (.release h) = 1 := by
  have hr : .release h ∈ log := by
    by_contra hr
    exact hl ⟨ha, hr⟩
  have hpos := List.count_pos_iff.2 hr
  have hle := hd.release_count h
  omega

/-- Handles that a counter gives out: those acquired so far are below it. -/
def Numbered (log : List (Event Nat)) (n : Nat) : Prop := ∀ h, .acquire h ∈ log → h < n

section numbered

variable {log : List (Event Nat)} {n h k : Nat}

theorem Numbered.not_acquired (hn : Numbered log n) : .acquire n ∉ log :=
  fun ha => Nat.lt_irrefl n (hn n ha)

theorem Numbered.acquire (hn : Numbered log n) : Numbered (.acquire n :: log) (n + 1) := by
  intro h hh
  rcases List.mem_cons.1 hh with he | hh
  · cases he
    exact Nat.lt_succ_self _
  · exact Nat.lt_succ_of_lt (hn h hh)

theorem Numbered.use (hn : Numbered log n) (k : Nat) : Numbered (.use k :: log) n := by
  intro h hh
  exact hn h ((List.mem_cons.1 hh).resolve_left (by simp))

theorem Numbered.release (hn : Numbered log n) (k : Nat) : Numbered (.release k :: log) n := by
  intro h hh
  exact hn h ((List.mem_cons.1 hh).resolve_left (by simp))

theorem Numbered.uses (hn : Numbered log n) (m k : Nat) :
    Numbered (List.replicate m (.use k) ++ log) n := by
  induction m with
  | zero => exact hn
  | succ m ih =>
    rw [List.replicate_succ, List.cons_append]
    exact ih.use k

theorem Numbered.live_acquire (hn : Numbered log n) (hd : Disciplined log) :
    Live (.acquire n :: log) h ↔ h = n ∨ Live log h :=
  hd.live_acquire hn.not_acquired

theorem Numbered.ne_of_live (hn : Numbered log n) (hl : Live log h) : h ≠ n :=
  Nat.ne_of_lt (hn h hl.1)

end numbered

end Ledger
