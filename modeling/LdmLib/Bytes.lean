import Mathlib.Data.List.Basic
import Mathlib.Data.List.TakeWhile
import Mathlib.Logic.Function.Basic

namespace Bytes
set_option autoImplicit true

/-- Memory, by its bytes from some base address on. -/
abbrev Mem := Nat → UInt8

def Mem.zero : Mem := fun _ => 0

structure Store where
  addr : Nat
  byte : UInt8
  deriving DecidableEq, Repr

def Mem.store (m : Mem) (s : Store) : Mem := Function.update m s.addr s.byte

def Mem.stores (m : Mem) (ss : List Store) : Mem := ss.foldl Mem.store m

@[simp] theorem stores_nil (m : Mem) : m.stores [] = m := rfl

@[simp] theorem stores_cons (m : Mem) (s : Store) (ss : List Store) :
    m.stores (s :: ss) = (m.store s).stores ss := rfl

theorem stores_append (m : Mem) (ss ts : List Store) :
    m.stores (ss ++ ts) = (m.stores ss).stores ts :=
  List.foldl_append

theorem stores_frame {m : Mem} (h : ∀ s ∈ ss, s.addr ≠ a) : m.stores ss a = m a := by
  induction ss generalizing m with
  | nil => rfl
  | cons s ss ih =>
    rw [stores_cons, ih fun t ht => h t (List.mem_cons_of_mem _ ht)]
    exact Function.update_of_ne (h s List.mem_cons_self).symm _ _

/-- A byte that is stored to at all no longer tells what was there before. -/
theorem stores_overwritten (h : ∃ s ∈ ss, s.addr = a) (m m' : Mem) :
    m.stores ss a = m'.stores ss a := by
  induction ss generalizing m m' with
  | nil =>
    obtain ⟨s, hs, _⟩ := h
    cases hs
  | cons s ss ih =>
    rw [stores_cons, stores_cons]
    by_cases hss : ∃ t ∈ ss, t.addr = a
    · exact ih hss _ _
    · have hne : ∀ t ∈ ss, t.addr ≠ a := fun t ht he => hss ⟨t, ht, he⟩
      obtain ⟨t, ht, rfl⟩ := h
      obtain rfl : t = s := (List.mem_cons.1 ht).resolve_right fun hm => hne t hm rfl
      rw [stores_frame hne, stores_frame hne, Mem.store, Mem.store, Function.update_self,
        Function.update_self]

def writes (dst : Nat) : List UInt8 → List Store
  | [] => []
  | b :: bs => ⟨dst, b⟩ :: writes (dst + 1) bs

theorem writes_append (dst : Nat) (bs cs : List UInt8) :
    writes dst (bs ++ cs) = writes dst bs ++ writes (dst + bs.length) cs := by
  induction bs generalizing dst with
  | nil => rfl
  | cons b bs ih =>
    rw [List.cons_append, writes, writes, ih, List.length_cons, Nat.add_assoc, Nat.add_comm 1,
      List.cons_append]

theorem mem_writes_addr (dst : Nat) (bs : List UInt8) (a : Nat) :
    (∃ s ∈ writes dst bs, s.addr = a) ↔ dst ≤ a ∧ a < dst + bs.length := by
  induction bs generalizing dst with
  | nil =>
    simp only [writes, List.not_mem_nil, false_and, exists_false, List.length_nil, false_iff]
    omega
  | cons b bs ih =>
    simp only [writes, List.mem_cons, exists_eq_or_imp, ih, List.length_cons]
    omega

theorem writes_frame {m : Mem} (h : ¬ (dst ≤ a ∧ a < dst + bs.length)) :
    m.stores (writes dst bs) a = m a := by
  apply stores_frame
  intro s hs he
  exact h ((mem_writes_addr dst bs a).1 ⟨s, hs, he⟩)

theorem stores_writes (m : Mem) (dst : Nat) (bs : List UInt8) (i : Nat) (h : i < bs.length) :
    m.stores (writes dst bs) (dst + i) = bs[i] := by
  induction bs generalizing m dst i with
  | nil => simp at h
  | cons b bs ih =>
    rw [writes, stores_cons]
    cases i with
    | zero =>
      have hout : ¬ (dst + 1 ≤ dst + 0 ∧ dst + 0 < dst + 1 + bs.length) := by omega
      rw [writes_frame hout]
      exact Function.update_self _ _ _
    | succ i =>
      have hi : dst + (i + 1) = dst + 1 + i := by omega
      rw [hi, ih (m.store ⟨dst, b⟩) (dst + 1) i (Nat.lt_of_succ_lt_succ h), List.getElem_cons_succ]

def Mem.read (m : Mem) (n : Nat) : List UInt8 := (List.range n).map m

@[simp] theorem length_read (m : Mem) (n : Nat) : (m.read n).length = n := by
  simp [Mem.read]

def memcpy (dst : Nat) (src : Mem) (n : Nat) : List Store := writes dst (src.read n)

/-- The bytes `strncpy` stores from the `i`-th on: once it has met a NUL it only stores NULs. -/
def strncpyBytes (src : Mem) (i : Nat) (ended : Bool) : Nat → List UInt8
  | 0 => []
  | n + 1 =>
    let ended := ended || src i == 0
    (if ended then 0 else src i) :: strncpyBytes src (i + 1) ended n

def strncpy (dst : Nat) (src : Mem) (n : Nat) : List Store :=
  writes dst (strncpyBytes src 0 false n)

@[simp] theorem length_strncpyBytes (src : Mem) (i : Nat) (ended : Bool) (n : Nat) :
    (strncpyBytes src i ended n).length = n := by
  induction n generalizing i ended with
  | zero => rfl
  | succ n ih => rw [strncpyBytes, List.length_cons, ih]

theorem takeWhile_strncpyBytes (src : Mem) (i n : Nat) :
    (strncpyBytes src i false n).takeWhile (· ≠ 0) =
      ((List.range' i n).map src).takeWhile (· ≠ 0) := by
  induction n generalizing i with
  | zero => rfl
  | succ n ih =>
    rw [strncpyBytes, List.range'_succ, List.map_cons]
    by_cases h0 : src i = 0
    · simp [h0]
    · have hc : (src i == 0) = false := by simpa using h0
      simpa [h0, hc] using ih (i + 1)

theorem strncpyBytes_ended (src : Mem) (i n : Nat) :
    strncpyBytes src i true n = List.replicate n 0 := by
  induction n generalizing i with
  | zero => rfl
  | succ n ih => exact congrArg (0 :: ·) (ih (i + 1))

/-- The copy is faithful exactly when no byte but NULs follows a NUL. -/
theorem strncpyBytes_eq_iff (src : Mem) (i n : Nat) :
    strncpyBytes src i false n = (List.range' i n).map src ↔
      ∀ j k, i ≤ j → j < k → k < i + n → src j = 0 → src k = 0 := by
  induction n generalizing i with
  | zero =>
    apply Iff.intro
    · intro _ j k hi hj hk
      omega
    · intro _
      rfl
  | succ n ih =>
    rw [strncpyBytes, List.range'_succ, List.map_cons]
    by_cases h0 : src i = 0
    · have hc : (false || src i == 0) = true := by simpa using h0
      rw [hc, if_pos rfl, h0, strncpyBytes_ended, List.cons_inj_right]
      apply Iff.intro
      · intro h j k hi hj hk _
        have hmem : k ∈ List.range' (i + 1) n := List.mem_range'_1.2 ⟨by omega, by omega⟩
        have hrep : src k ∈ List.replicate n (0 : UInt8) := by
          rw [h]
          exact List.mem_map_of_mem hmem
        exact List.eq_of_mem_replicate hrep
      · intro h
        apply Eq.symm
        apply List.eq_replicate_iff.2
        apply And.intro
        · simp
        · intro b hb
          obtain ⟨k, hk, rfl⟩ := List.mem_map.1 hb
          have hk := List.mem_range'_1.1 hk
          exact h i k (Nat.le_refl i) (by omega) (by omega) h0
    · have hc : (false || src i == 0) = false := by simpa using h0
      rw [hc, if_neg Bool.false_ne_true, List.cons_inj_right, ih (i + 1)]
      apply Iff.intro
      · intro h j k hi hj hk hz
        by_cases hij : i = j
        · exact absurd (hij ▸ hz) h0
        · exact h j k (by omega) hj (by omega) hz
      · intro h j k hi hj hk hz
        exact h j k (by omega) hj (by omega) hz

/-- `strcpy` of a string: its bytes up to the first NUL, and a NUL. -/
def strcpy (dst : Nat) (s : List UInt8) : List Store :=
  writes dst (s.takeWhile (· ≠ 0) ++ [0])

/-- A string and the zeros that fill `n` bytes after it. -/
def zeroPad (n : Nat) (s : List UInt8) : List UInt8 := s ++ List.replicate (n - s.length) 0

theorem zeroPad_cons (b : UInt8) (s : List UInt8) (n : Nat) :
    zeroPad (n + 1) (b :: s) = b :: zeroPad n s := by
  rw [zeroPad, List.length_cons, Nat.add_sub_add_right, List.cons_append]
  rfl

theorem strncpyBytes_pad (src : Mem) (i n : Nat) :
    strncpyBytes src i false n = zeroPad n (((List.range' i n).map src).takeWhile (· ≠ 0)) := by
  induction n generalizing i with
  | zero => rfl
  | succ n ih =>
    rw [strncpyBytes, List.range'_succ, List.map_cons]
    by_cases h0 : src i = 0
    · have hc : (false || src i == 0) = true := by simpa using h0
      rw [hc, if_pos rfl, strncpyBytes_ended, List.takeWhile_cons_of_neg (by simpa using h0)]
      rfl
    · have hc : (false || src i == 0) = false := by simpa using h0
      rw [hc, if_neg Bool.false_ne_true, List.takeWhile_cons_of_pos (by simpa using h0), ih (i + 1),
        zeroPad_cons]

theorem takeWhile_nulFree {s : List UInt8} (hn : 0 ∉ s) : s.takeWhile (· ≠ 0) = s := by
  apply List.takeWhile_eq_self_iff.2
  intro b hb
  have hne : b ≠ 0 := fun h0 => hn (h0 ▸ hb)
  exact decide_eq_true hne

/-- The terminator changes nothing where it falls on a NUL. -/
theorem stores_strcpy {s : List UInt8} {m : Mem} (hn : 0 ∉ s) (hz : m (dst + s.length) = 0) :
    m.stores (strcpy dst s) = m.stores (writes dst s) := by
  rw [strcpy, takeWhile_nulFree hn, writes_append, stores_append]
  apply Function.update_eq_self_iff.2
  have hout : ¬ (dst ≤ dst + s.length ∧ dst + s.length < dst + s.length) := by omega
  rw [writes_frame hout, hz]

def strlen (s : List UInt8) : Nat := (s.takeWhile (· ≠ 0)).length

structure Field where
  off : Nat
  width : Nat
  deriving DecidableEq, Repr

def Field.Has (f : Field) (a : Nat) : Prop := f.off ≤ a ∧ a < f.off + f.width

instance (f : Field) (a : Nat) : Decidable (f.Has a) := inferInstanceAs (Decidable (_ ∧ _))

def Field.Covers (f : Field) (ss : List Store) : Prop := ∀ s ∈ ss, f.Has s.addr

theorem Field.Covers.frame {f : Field} {m : Mem} (h : f.Covers ss) (ha : ¬ f.Has a) :
    m.stores ss a = m a :=
  stores_frame fun s hs he => ha (he ▸ h s hs)

/-- Consecutive stores stay inside a field exactly when the last one does. -/
theorem Field.covers_writes (f : Field) (bs : List UInt8) :
    f.Covers (writes f.off bs) ↔ bs.length ≤ f.width := by
  apply Iff.intro
  · intro h
    by_contra hlt
    obtain ⟨s, hs, he⟩ := (mem_writes_addr f.off bs (f.off + f.width)).2 ⟨by omega, by omega⟩
    obtain ⟨_, hend⟩ := h s hs
    omega
  · intro h s hs
    obtain ⟨hstart, hend⟩ := (mem_writes_addr f.off bs s.addr).1 ⟨s, hs, rfl⟩
    exact ⟨hstart, Nat.lt_of_lt_of_le hend (Nat.add_le_add_left h f.off)⟩

/-- Two fields that have no byte in common. -/
def Field.Apart (f g : Field) : Prop := f.off + f.width ≤ g.off ∨ g.off + g.width ≤ f.off

instance (f g : Field) : Decidable (f.Apart g) := inferInstanceAs (Decidable (_ ∨ _))

theorem Field.has_add (f : Field) (hi : i < f.width) : f.Has (f.off + i) :=
  ⟨Nat.le_add_right f.off i, Nat.add_lt_add_left hi f.off⟩

theorem Field.Apart.not_has {f g : Field} (h : f.Apart g) (hf : f.Has a) : ¬ g.Has a := by
  intro hg
  cases h with
  | inl h => exact absurd (Nat.lt_of_lt_of_le hf.2 h) (Nat.not_lt_of_le hg.1)
  | inr h => exact absurd (Nat.lt_of_lt_of_le hg.2 h) (Nat.not_lt_of_le hf.1)

theorem Field.Apart.symm {f g : Field} (h : f.Apart g) : g.Apart f := Or.symm h

def Mem.field (m : Mem) (f : Field) : List UInt8 := (List.range f.width).map fun i => m (f.off + i)

@[simp] theorem length_field (m : Mem) (f : Field) : (m.field f).length = f.width := by
  simp [Mem.field]

theorem Field.Covers.field_frame {f g : Field} (h : g.Covers ss) (hd : f.Apart g) (m : Mem) :
    (m.stores ss).field f = m.field f := by
  apply List.map_congr_left
  intro i hi
  exact h.frame (hd.not_has (f.has_add (List.mem_range.1 hi)))

theorem field_writes (f : Field) (bs : List UInt8) (h : bs.length ≤ f.width) (m : Mem) :
    (m.stores (writes f.off bs)).field f = bs ++ (m.field f).drop bs.length := by
  apply List.ext_getElem
  · simp [h]
  · intro i h1 h2
    have hget : ((m.stores (writes f.off bs)).field f)[i] =
        m.stores (writes f.off bs) (f.off + i) := by
      simp [Mem.field]
    rw [hget]
    by_cases hi : i < bs.length
    · rw [stores_writes m f.off bs i hi, List.getElem_append_left hi]
    · have hout : ¬ (f.off ≤ f.off + i ∧ f.off + i < f.off + bs.length) := by omega
      have hsum : bs.length + (i - bs.length) = i := by omega
      rw [writes_frame hout, List.getElem_append_right (Nat.le_of_not_lt hi)]
      simp [Mem.field, hsum]

theorem field_writes_all (f : Field) (h : bs.length = f.width) (m : Mem) :
    (m.stores (writes f.off bs)).field f = bs := by
  rw [field_writes f bs (Nat.le_of_eq h), h,
    List.drop_of_length_le (Nat.le_of_eq (length_field m f)), List.append_nil]

/-- The stores that assign some fields, one after the other. -/
def assigns (fs : List (Field × List UInt8)) : List Store :=
  fs.flatMap fun p => writes p.1.off p.2

theorem stores_assigns_cons (m : Mem) (p : Field × List UInt8) (fs : List (Field × List UInt8)) :
    m.stores (assigns (p :: fs)) = (m.stores (writes p.1.off p.2)).stores (assigns fs) :=
  stores_append m _ _

variable {fs : List (Field × List UInt8)}

theorem assigns_frame (hw : ∀ p ∈ fs, p.2.length = p.1.width) (ha : ∀ p ∈ fs, ¬ p.1.Has a)
    (m : Mem) : m.stores (assigns fs) a = m a := by
  induction fs generalizing m with
  | nil => rfl
  | cons p fs ih =>
    obtain ⟨hp, hw⟩ := List.forall_mem_cons.1 hw
    obtain ⟨hpa, ha⟩ := List.forall_mem_cons.1 ha
    have hcov := (p.1.covers_writes p.2).2 (Nat.le_of_eq hp)
    rw [stores_assigns_cons, ih hw ha, hcov.frame hpa]

theorem assigns_field_frame (hw : ∀ p ∈ fs, p.2.length = p.1.width)
    (hd : ∀ p ∈ fs, f.Apart p.1) (m : Mem) : (m.stores (assigns fs)).field f = m.field f := by
  apply List.map_congr_left
  intro i hi
  apply assigns_frame hw
  intro p hp
  exact (hd p hp).not_has (f.has_add (List.mem_range.1 hi))

/-- Fields that lie apart all hold what they were assigned. -/
theorem assigns_field (hw : ∀ p ∈ fs, p.2.length = p.1.width)
    (hd : fs.Pairwise fun p q => p.1.Apart q.1) (hp : p ∈ fs) (m : Mem) :
    (m.stores (assigns fs)).field p.1 = p.2 := by
  induction fs generalizing m with
  | nil => cases hp
  | cons q fs ih =>
    obtain ⟨hq, hws⟩ := List.forall_mem_cons.1 hw
    obtain ⟨hqd, hds⟩ := List.pairwise_cons.1 hd
    rw [stores_assigns_cons]
    cases List.mem_cons.1 hp with
    | inl he => rw [he, assigns_field_frame hws hqd, field_writes_all q.1 hq]
    | inr hp => exact ih hws hds hp _

/-- The string that begins where the field does, as far as the field goes. -/
def Mem.cstring (m : Mem) (f : Field) : List UInt8 := (m.field f).takeWhile (· ≠ 0)

theorem takeWhile_nul (bs cs : List UInt8) :
    (bs ++ 0 :: cs).takeWhile (· ≠ 0) = bs.takeWhile (· ≠ 0) := by
  induction bs with
  | nil => rfl
  | cons b bs ih =>
    rw [List.cons_append, List.takeWhile_cons, List.takeWhile_cons, ih]

/-- A terminated string replaces what the field held, however long that was. -/
theorem cstring_writes (f : Field) (bs : List UInt8) (h : bs.length < f.width) (m : Mem) :
    (m.stores (writes f.off (bs ++ [0]))).cstring f = bs.takeWhile (· ≠ 0) := by
  have hlen : (bs ++ [0]).length ≤ f.width := by
    rw [List.length_append]
    exact h
  rw [Mem.cstring, field_writes f _ hlen, List.append_assoc, List.singleton_append, takeWhile_nul]

end Bytes
