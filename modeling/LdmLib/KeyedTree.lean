import Mathlib.Data.List.Basic
import Mathlib.Data.List.Nodup

set_option autoImplicit true

/-- A finite tree with a label at each node and a key, if any, at each edge. -/
inductive KeyedTree (α : Type) where
  | node (label : α) (items : List (Option String × KeyedTree α))

namespace KeyedTree

abbrev Item (α : Type) := Option String × KeyedTree α

def label : KeyedTree α → α
  | .node l _ => l

def items : KeyedTree α → List (Item α)
  | .node _ cs => cs

mutual

def labels : KeyedTree α → List α
  | .node l cs => l :: labelsOf cs

def labelsOf : List (Option String × KeyedTree α) → List α
  | [] => []
  | (_, t) :: cs => labels t ++ labelsOf cs

end

mutual

def map (f : α → β) : KeyedTree α → KeyedTree β
  | .node l cs => .node (f l) (mapItems f cs)

def mapItems (f : α → β) : List (Option String × KeyedTree α) → List (Option String × KeyedTree β)
  | [] => []
  | (k, t) :: cs => (k, map f t) :: mapItems f cs

end

def keys (cs : List (Item α)) : List String := cs.filterMap Prod.fst

/-- No object has a key twice, at any depth. -/
inductive Distinct : KeyedTree α → Prop where
  | node (h : (keys cs).Nodup) (hs : ∀ c ∈ cs, Distinct c.2) : Distinct (.node l cs)

variable {l : α} {cs ds : List (Item α)}

@[simp] theorem label_node : (node l cs).label = l := rfl

@[simp] theorem items_node : (node l cs).items = cs := rfl

@[simp] theorem labels_node : (node l cs).labels = l :: labelsOf cs := rfl

@[simp] theorem map_node (f : α → β) : (node l cs).map f = .node (f l) (mapItems f cs) := rfl

theorem mapItems_eq_map (f : α → β) (cs : List (Item α)) :
    mapItems f cs = cs.map fun c => (c.1, c.2.map f) := by
  induction cs with
  | nil => rfl
  | cons c cs ih => rw [mapItems, ih, List.map_cons]

theorem labelsOf_eq_flatMap (cs : List (Item α)) :
    labelsOf cs = cs.flatMap fun c => c.2.labels := by
  induction cs with
  | nil => rfl
  | cons c cs ih => rw [labelsOf, ih, List.flatMap_cons]

theorem labelsOf_append : labelsOf (cs ++ ds) = labelsOf cs ++ labelsOf ds := by
  induction cs with
  | nil => rfl
  | cons c cs ih => rw [List.cons_append, labelsOf, ih, labelsOf, List.append_assoc]

theorem mapItems_append (f : α → β) :
    mapItems f (cs ++ ds) = mapItems f cs ++ mapItems f ds := by
  induction cs with
  | nil => rfl
  | cons c cs ih => rw [List.cons_append, mapItems, ih, mapItems, List.cons_append]

theorem labels_subset {c : Item α} (hc : c ∈ cs) : c.2.labels ⊆ labelsOf cs := by
  induction cs with
  | nil => cases hc
  | cons d cs ih =>
    intro x hx
    cases List.mem_cons.1 hc with
    | inl he => exact List.mem_append_left _ (he ▸ hx)
    | inr hc => exact List.mem_append_right _ (ih hc hx)

theorem length_labels_le {c : Item α} (hc : c ∈ cs) :
    c.2.labels.length ≤ (labelsOf cs).length := by
  induction cs with
  | nil => cases hc
  | cons d cs ih =>
    rw [labelsOf, List.length_append]
    cases List.mem_cons.1 hc with
    | inl he =>
      rw [he]
      exact Nat.le_add_right _ _
    | inr hc => exact Nat.le_trans (ih hc) (Nat.le_add_left _ _)

theorem distinct_node :
    Distinct (node l cs) ↔ (keys cs).Nodup ∧ ∀ c ∈ cs, c.2.Distinct := by
  apply Iff.intro
  · intro h
    cases h with
    | node h hs => exact ⟨h, hs⟩
  · intro h
    exact .node h.1 h.2

theorem distinct_leaf (l : α) : Distinct (node l []) :=
  distinct_node.2 ⟨List.nodup_nil, fun c hc => by cases hc⟩

/-- All that an object has under a key. -/
def valuesOf (key : String) (t : KeyedTree α) : List (KeyedTree α) :=
  t.items.filterMap fun c => if c.1 = some key then some c.2 else none

theorem valuesOf_node_append (key : String) :
    (node l (cs ++ ds)).valuesOf key = (node l cs).valuesOf key ++ (node l ds).valuesOf key :=
  List.filterMap_append

theorem valuesOf_eq_nil {key : String} (h : key ∉ keys cs) : (node l cs).valuesOf key = [] := by
  apply List.filterMap_eq_nil_iff.2
  intro c hc
  rw [if_neg]
  intro hk
  exact h (List.mem_filterMap.2 ⟨c, hc, hk⟩)

theorem mem_valuesOf {key : String} (hc : (some key, t) ∈ cs) : t ∈ (node l cs).valuesOf key :=
  List.mem_filterMap.2 ⟨(some key, t), hc, if_pos rfl⟩

theorem mem_keys {key : String} (hc : (some key, t) ∈ cs) : key ∈ keys cs :=
  List.mem_filterMap.2 ⟨(some key, t), hc, rfl⟩

theorem valuesOf_cons (l : α) (c : Item α) (cs : List (Item α)) (key : String) :
    (node l (c :: cs)).valuesOf key =
      (if c.1 = some key then [c.2] else []) ++ (node l cs).valuesOf key := by
  rw [valuesOf, items_node, List.filterMap_cons]
  split
  · rename_i h
    rw [if_neg fun hk => by simp [hk] at h]
    rfl
  · rename_i h
    split at h
    · rename_i hk
      cases h
      rw [if_pos hk]
      rfl
    · cases h

/-- Where no key is there twice, an item is all there is under its key. -/
theorem valuesOf_of_nodup {key : String} (hn : (keys cs).Nodup) (hc : (some key, t) ∈ cs) :
    (node l cs).valuesOf key = [t] := by
  induction cs with
  | nil => cases hc
  | cons c cs ih =>
    rw [valuesOf_cons]
    cases List.mem_cons.1 hc with
    | inl he =>
      subst he
      have hout : key ∉ keys cs := (List.nodup_cons.1 hn).1
      rw [if_pos rfl, valuesOf_eq_nil hout]
      rfl
    | inr hc =>
      have htail : (keys (c :: cs)).Nodup → (keys cs).Nodup := by
        intro h
        exact h.sublist (List.Sublist.filterMap _ (List.sublist_cons_self c cs))
      have hne : c.1 ≠ some key := by
        intro hk
        have hkeys : keys (c :: cs) = key :: keys cs := List.filterMap_cons_some hk
        rw [hkeys] at hn
        exact (List.nodup_cons.1 hn).1 (mem_keys hc)
      rw [if_neg hne, ih (htail hn) hc]
      rfl

end KeyedTree
