import Mathlib.Data.List.Count
import Mathlib.Logic.Function.Iterate
import LdmLib.Run

namespace TwoPass
set_option autoImplicit true

/-- The first pass of a removal: the indices of the matching elements, counted from `i`. -/
def matching (p : α → Bool) (i : Nat) : List α → List Nat
  | [] => []
  | a :: l => if p a then i :: matching p (i + 1) l else matching p (i + 1) l

/-- The second pass: each collected index is corrected by the number of erasures before it. The
result is `none` when an erasure falls outside the list. -/
def eraseShifted (l : List α) (cnt : Nat) : List Nat → Option (List α)
  | [] => some l
  | i :: is =>
    if cnt ≤ i ∧ i - cnt < l.length then eraseShifted (l.eraseIdx (i - cnt)) (cnt + 1) is
    else none

def eraseStep (v : List α × Nat) (i : Nat) : List α × Nat := (v.1.eraseIdx (i - v.2), v.2 + 1)

def Inside (v : List α × Nat) (i : Nat) : Prop := v.2 ≤ i ∧ i - v.2 < v.1.length

theorem eraseShifted_eq_some {l l' : List α} {cnt : Nat} {is : List Nat} :
    eraseShifted l cnt is = some l' ↔
      Run.Guarded eraseStep Inside (l, cnt) is ∧ (Run.run eraseStep (l, cnt) is).1 = l' := by
  induction is generalizing l cnt with
  | nil =>
    rw [eraseShifted, Option.some.injEq]
    exact (and_iff_right (Run.guarded_nil Inside (l, cnt))).symm
  | cons i is ih =>
    rw [eraseShifted, Run.guarded_cons, Run.run_cons, and_assoc]
    by_cases hi : cnt ≤ i ∧ i - cnt < l.length
    · rw [if_pos hi, ih]
      exact (and_iff_right hi).symm
    · rw [if_neg hi]
      exact iff_of_false (Option.some_ne_none l').symm fun h => hi h.1

/-- The loop invariant of the second pass: `cnt` erasures have left `kept`, and the indices still
to come are those of the matches in the rest. -/
theorem eraseShifted_append (p : α → Bool) (kept l : List α) (cnt : Nat) :
    eraseShifted (kept ++ l) cnt (matching p (kept.length + cnt) l) =
      some (kept ++ l.filter fun a => !p a) := by
  induction l generalizing kept cnt with
  | nil => simp [matching, eraseShifted]
  | cons a l ih =>
    by_cases ha : p a = true
    · have hi : kept.length + cnt - cnt = kept.length := by omega
      have he : (kept ++ a :: l).eraseIdx kept.length = kept ++ l := by
        rw [List.eraseIdx_append_of_length_le (Nat.le_refl _), Nat.sub_self, List.eraseIdx_cons_zero]
      have hlt : kept.length < (kept ++ a :: l).length := by
        rw [List.length_append, List.length_cons]
        omega
      have hf : (a :: l).filter (fun a => !p a) = l.filter fun a => !p a := by simp [ha]
      rw [matching, if_pos ha, eraseShifted, hi, if_pos ⟨by omega, hlt⟩, he, hf, Nat.add_assoc]
      exact ih kept (cnt + 1)
    · have hf : (a :: l).filter (fun a => !p a) = a :: l.filter fun a => !p a := by simp [ha]
      have hk := ih (kept ++ [a]) cnt
      rw [List.length_append, List.length_singleton, List.append_assoc, List.singleton_append,
        List.append_assoc, List.singleton_append, Nat.add_right_comm] at hk
      rw [matching, if_neg ha, hf]
      exact hk

theorem eraseShifted_matching (p : α → Bool) (l : List α) :
    eraseShifted l 0 (matching p 0 l) = some (l.filter fun a => !p a) :=
  eraseShifted_append p [] l 0

theorem filter_erase [DecidableEq α] (a : α) (l : List α) :
    (l.erase a).filter (fun b => b ≠ a) = l.filter fun b => b ≠ a := by
  induction l with
  | nil => rfl
  | cons b l ih =>
    by_cases hb : b = a
    · subst hb
      rw [List.erase_cons_head, List.filter_cons_of_neg (by simp)]
    · rw [List.erase_cons_tail (by simpa using hb), List.filter_cons_of_pos (by simpa using hb),
        List.filter_cons_of_pos (by simpa using hb), ih]

theorem iterate_erase [DecidableEq α] (a : α) (n : Nat) (l : List α) (h : l.count a ≤ n) :
    (fun l : List α => l.erase a)^[n] l = l.filter fun b => b ≠ a := by
  induction n generalizing l with
  | zero =>
    have hn : a ∉ l := List.count_eq_zero.1 (Nat.le_zero.1 h)
    symm
    rw [Function.iterate_zero, id_eq, List.filter_eq_self]
    intro b hb
    rw [decide_eq_true_iff]
    intro he
    exact hn (he ▸ hb)
  | succ n ih =>
    rw [Function.iterate_succ_apply, ih, filter_erase]
    rw [List.count_erase_self]
    omega

theorem erase_eq_filter_iff [DecidableEq α] (a : α) (l : List α) :
    l.erase a = l.filter (fun b => b ≠ a) ↔ l.count a ≤ 1 := by
  apply Iff.intro
  · intro h
    have hnone : a ∉ l.filter fun b => b ≠ a := by
      intro ha
      exact of_decide_eq_true (List.mem_filter.1 ha).2 rfl
    rw [← h, ← List.count_eq_zero, List.count_erase_self] at hnone
    omega
  · exact fun h => iterate_erase a 1 l h

end TwoPass
