import Mathlib.Data.List.Infix

namespace Plan
set_option autoImplicit true

/-- The steps of a plan are taken in order, up to the first that fails: what was made of the plan,
with the results, and the last result. -/
inductive Carried {κ ε : Type} (ok : ε) : List κ → List (κ × ε) → ε → Prop where
  | nil : Carried ok [] [] ok
  | stop (he : e ≠ ok) (c : κ) (cs : List κ) : Carried ok (c :: cs) [(c, e)] e
  | next (h : Carried ok cs made e) (c : κ) : Carried ok (c :: cs) ((c, ok) :: made) e

variable {κ ε : Type} {ok e r : ε} {cs ds : List κ} {made made' : List (κ × ε)}

theorem Carried.one (ok e : ε) (c : κ) : Carried ok [c] [(c, e)] e := by
  by_cases he : e = ok
  · rw [he]
    exact .next .nil c
  · exact .stop he c []

theorem Carried.append (h : Carried ok cs made e) (he : e = ok) (h' : Carried ok ds made' r) :
    Carried ok (cs ++ ds) (made ++ made') r := by
  induction h with
  | nil => exact h'
  | stop hne c cs => exact absurd he hne
  | next h c ih => exact .next (ih he) c

theorem Carried.append_stop (h : Carried ok cs made e) (he : e ≠ ok) (ds : List κ) :
    Carried ok (cs ++ ds) made e := by
  induction h with
  | nil => exact absurd rfl he
  | stop he c cs => exact .stop he c (cs ++ ds)
  | next h c ih => exact .next (ih he) c

theorem Carried.isPrefix (h : Carried ok cs made e) : made.map Prod.fst <+: cs := by
  induction h with
  | nil => exact List.prefix_rfl
  | stop he c cs => exact List.cons_prefix_cons.2 ⟨rfl, List.nil_prefix⟩
  | next h c ih => exact List.cons_prefix_cons.2 ⟨rfl, ih⟩

/-- Only the last step that was taken can have failed. -/
theorem Carried.dropLast_ok (h : Carried ok cs made e) : ∀ m ∈ made.dropLast, m.2 = ok := by
  induction h with
  | nil => exact fun m hm => by cases hm
  | stop he c cs => exact fun m hm => by cases hm
  | @next cs made e h c ih =>
    intro m hm
    cases made with
    | nil => cases hm
    | cons n made =>
      rcases List.mem_cons.1 hm with rfl | hm
      · rfl
      · exact ih m hm

theorem Carried.last (h : Carried ok cs made e) (he : e ≠ ok) :
    ∃ c, made.getLast? = some (c, e) := by
  induction h with
  | nil => exact absurd rfl he
  | stop he c cs => exact ⟨c, rfl⟩
  | next h c ih =>
    obtain ⟨c', hc⟩ := ih he
    exact ⟨c', by rw [List.getLast?_cons, hc, Option.getD_some]⟩

theorem Carried.ok_iff (h : Carried ok cs made e) :
    e = ok ↔ made = cs.map fun c => (c, ok) := by
  induction h with
  | nil => exact iff_of_true rfl rfl
  | stop he c cs => exact iff_of_false he fun hm => he (Prod.mk.inj (List.cons.inj hm).1).2
  | next h c ih =>
    rw [ih, List.map_cons, List.cons.injEq]
    exact (and_iff_right rfl).symm

end Plan
