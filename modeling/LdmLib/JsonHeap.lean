import LdmLib.Prog
import LdmLib.KeyedTree
import LdmLib.Text
import Mathlib.Data.List.Perm.Basic

set_option autoImplicit true

namespace JsonHeap

open KeyedTree Text

inductive Kind where
  | object
  | array
  | string (bytes : List UInt8)
  | number (n : Int)
  | bool (b : Bool)
  deriving DecidableEq, Repr

abbrev Json := KeyedTree Kind

/-- A node of cJSON: its items are nodes of their own, linked to it. -/
structure Node where
  kind : Kind
  items : List (Option String × Nat)
  deriving DecidableEq, Repr

/-- The nodes in the order in which they were created. -/
abbrev Heap := List Node

def Node.extend (es : List (Option String × Nat)) (n : Node) : Node :=
  { n with items := n.items ++ es }

@[simp] theorem Node.extend_nil (n : Node) : n.extend [] = n := by
  rw [extend, List.append_nil]

@[simp] theorem Node.extend_extend (es fs : List (Option String × Nat)) (n : Node) :
    (n.extend es).extend fs = n.extend (es ++ fs) := by
  rw [extend, extend, extend, List.append_assoc]

def create (k : Kind) : Prog Heap Nat := do
  let h ← Prog.get
  Prog.modify fun h => h ++ [⟨k, []⟩]
  return h.length

def addItem (p : Nat) (key : Option String) (c : Nat) : Prog Heap Unit :=
  Prog.modify fun h => h.modify p (Node.extend [(key, c)])

/-- `cJSON_AddStringToObject` and the like: a new node, which is added at once. -/
def add (p : Nat) (key : Option String) (k : Kind) : Prog Heap Unit := do
  let c ← create k
  addItem p key c

abbrev Leaf := Option String × Kind

def leaf (l : Leaf) : Item Kind := (l.1, .node l.2 [])

def stringLeaf (key : String) (s : List UInt8) : Leaf := (some key, .string s)

def numberLeaf (key : String) (n : Int) : Leaf := (some key, .number n)

def boolLeaf (key : String) (b : Bool) : Leaf := (some key, .bool b)

/-- A `switch` that adds the name of a value, if it knows the value. -/
def caseLeaf (key : String) (name : Option String) : List Leaf :=
  match name with
  | some n => [stringLeaf key (ascii n)]
  | none => []

def addEach (p : Nat) : List Leaf → Prog Heap Unit
  | [] => pure ()
  | c :: cs => do
    add p c.1 c.2
    addEach p cs

/-- `cJSON_AddArrayToObject`, and the items that are added to the array. -/
def addArray (p : Nat) (key : String) (ks : List Kind) : Prog Heap Unit := do
  let array ← create .array
  addItem p (some key) array
  addEach array (ks.map fun k => (none, k))

/-- What the nodes say from one on; the first argument bounds the depth. -/
def read (h : Heap) : Nat → Nat → Json
  | 0, _ => .node .object []
  | fuel + 1, i =>
    match h[i]? with
    | some n => .node n.kind (n.items.map fun c => (c.1, read h fuel c.2))
    | none => .node .object []

/-- `cJSON_Delete`: the nodes it frees, in order, each as often as it is reached. -/
def delete (h : Heap) : Nat → Nat → List Nat
  | 0, _ => []
  | fuel + 1, i =>
    match h[i]? with
    | some n => i :: n.items.flatMap fun c => delete h fuel c.2
    | none => []

abbrev Owned := KeyedTree (Nat × Kind)

def edges (cs : List (Item (Nat × Kind))) : List (Option String × Nat) :=
  cs.map fun c => (c.1, c.2.label.1)

/-- A tree that knows where its nodes are is in the heap. -/
inductive Holds (h : Heap) : Owned → Prop where
  | node {i : Nat} {k : Kind} {cs : List (Item (Nat × Kind))}
      (hn : h[i]? = some ⟨k, edges cs⟩)
      (hs : ∀ c ∈ cs, Holds h c.2) : Holds h (.node (i, k) cs)

def ids (cs : List (Item (Nat × Kind))) : List Nat := (labelsOf cs).map Prod.fst

def json (cs : List (Item (Nat × Kind))) : List (Item Kind) := mapItems Prod.snd cs

variable {h h' : Heap} {t : Owned} {cs ds : List (Item (Nat × Kind))}

theorem ids_append : ids (cs ++ ds) = ids cs ++ ids ds := by
  rw [ids, labelsOf_append, List.map_append]
  rfl

theorem ids_singleton (key : Option String) (i : Nat) (k : Kind)
    (cs : List (Item (Nat × Kind))) : ids [(key, .node (i, k) cs)] = i :: ids cs := by
  change i :: (labelsOf cs ++ []).map Prod.fst = i :: ids cs
  rw [List.append_nil]
  rfl

theorem edges_append : edges (cs ++ ds) = edges cs ++ edges ds := List.map_append

theorem map_extend_nil (n : Option Node) : n.map (Node.extend (edges [])) = n := by
  cases n with
  | none => rfl
  | some n => exact congrArg some n.extend_nil

theorem json_append : json (cs ++ ds) = json cs ++ json ds := mapItems_append Prod.snd

theorem Holds.frame (ht : Holds h t) (he : ∀ l ∈ t.labels, h'[l.1]? = h[l.1]?) : Holds h' t := by
  induction ht with
  | node hn _ ih =>
    rw [labels_node] at he
    apply Holds.node
    · rw [he _ List.mem_cons_self]
      exact hn
    · intro c hc
      exact ih c hc fun l hl => he l (List.mem_cons_of_mem _ (labels_subset hc hl))

/-- A depth of as many nodes as the tree has is enough. -/
theorem Holds.read (ht : Holds h t) (hf : t.labels.length ≤ fuel) :
    read h fuel t.label.1 = t.map Prod.snd := by
  induction ht generalizing fuel with
  | @node i k cs hn _ ih =>
    rw [labels_node, List.length_cons] at hf
    cases fuel with
    | zero => omega
    | succ fuel =>
      have hitem : ∀ c ∈ cs, JsonHeap.read h fuel c.2.label.1 = c.2.map Prod.snd :=
        fun c hc => ih c hc (Nat.le_trans (length_labels_le hc) (Nat.le_of_succ_le_succ hf))
      rw [label_node, JsonHeap.read, hn, map_node, mapItems_eq_map]
      change KeyedTree.node k ((edges cs).map _) = KeyedTree.node k _
      rw [edges, List.map_map]
      exact congrArg _ (List.map_congr_left fun c hc => by rw [← hitem c hc]; rfl)

theorem Holds.delete (ht : Holds h t) (hf : t.labels.length ≤ fuel) :
    delete h fuel t.label.1 = t.labels.map Prod.fst := by
  induction ht generalizing fuel with
  | @node i k cs hn _ ih =>
    rw [labels_node, List.length_cons] at hf
    cases fuel with
    | zero => omega
    | succ fuel =>
      have hitem : ∀ c ∈ cs, JsonHeap.delete h fuel c.2.label.1 = c.2.labels.map Prod.fst :=
        fun c hc => ih c hc (Nat.le_trans (length_labels_le hc) (Nat.le_of_succ_le_succ hf))
      rw [label_node, JsonHeap.delete, hn, labels_node, List.map_cons, labelsOf_eq_flatMap,
        List.map_flatMap]
      change i :: (edges cs).flatMap _ = i :: _
      rw [edges, List.flatMap_map]
      exact congrArg _ (List.flatMap_congr hitem)

/-- From `h` to `h'` node `p` has got the items `cs`, made of new nodes; the other new nodes are
`lost`, and the other old ones are as they were. -/
structure Added (h : Heap) (p : Nat) (cs : List (Item (Nat × Kind))) (lost : List Nat)
    (h' : Heap) : Prop where
  parent : h'[p]? = h[p]?.map (Node.extend (edges cs))
  others : ∀ i, i < h.length → i ≠ p → h'[i]? = h[i]?
  held : ∀ c ∈ cs, Holds h' c.2
  grows : h.length ≤ h'.length
  fresh : (ids cs ++ lost).Perm (List.range' h.length (h'.length - h.length))

theorem Added.bounds (ha : Added h p cs lost h') (hc : c ∈ cs) (hl : l ∈ c.2.labels) :
    h.length ≤ l.1 ∧ l.1 < h'.length := by
  have hmem : l.1 ∈ ids cs ++ lost :=
    List.mem_append_left _ (List.mem_map_of_mem (labels_subset hc hl))
  have hr := List.mem_range'_1.1 (ha.fresh.mem_iff.1 hmem)
  have hg := ha.grows
  omega

theorem Added.refl (h : Heap) (p : Nat) : Added h p [] [] h where
  parent := (map_extend_nil _).symm
  others := fun _ _ _ => rfl
  held := fun c hc => by cases hc
  grows := Nat.le_refl _
  fresh := by
    rw [Nat.sub_self]
    exact .refl _

theorem Added.trans (h1 : Added h p cs lost h') (h2 : Added h' p ds lost' h'') (hp : p < h.length) :
    Added h p (cs ++ ds) (lost ++ lost') h'' := by
  have hg1 := h1.grows
  have hg2 := h2.grows
  constructor
  case parent =>
    rw [h2.parent, h1.parent, Option.map_map, edges_append]
    exact congrArg (Option.map · _) (funext fun n => n.extend_extend _ _)
  case others =>
    intro i hi hne
    rw [h2.others i (Nat.lt_of_lt_of_le hi hg1) hne, h1.others i hi hne]
  case held =>
    intro c hc
    cases List.mem_append.1 hc with
    | inl hc =>
      apply (h1.held c hc).frame
      intro l hl
      have hb := h1.bounds hc hl
      exact h2.others l.1 hb.2 (by omega)
    | inr hc => exact h2.held c hc
  case grows => exact Nat.le_trans hg1 hg2
  case fresh =>
    have hrange : List.range' h.length (h'.length - h.length) ++
        List.range' h'.length (h''.length - h'.length) =
        List.range' h.length (h''.length - h.length) := by
      have hs : h'.length = h.length + (h'.length - h.length) := by omega
      have hn : h''.length - h.length = h'.length - h.length + (h''.length - h'.length) := by omega
      rw [hn, ← List.range'_append_1, ← hs]
    rw [ids_append, ← hrange]
    have hswap : (ids cs ++ ids ds ++ (lost ++ lost')).Perm
        ((ids cs ++ lost) ++ (ids ds ++ lost')) := by
      simp only [List.append_assoc]
      exact List.Perm.append_left _ (List.perm_append_comm_assoc _ _ _)
    exact hswap.trans (h1.fresh.append h2.fresh)

theorem Added.create (h : Heap) (hp : p < h.length) (k : Kind) :
    Added h p [] [h.length] (h ++ [⟨k, []⟩]) where
  parent := by rw [List.getElem?_append_left hp, map_extend_nil]
  others := fun i hi _ => List.getElem?_append_left hi
  held := fun c hc => by cases hc
  grows := by simp
  fresh := by
    rw [List.length_append, Nat.add_sub_cancel_left]
    exact .refl _

theorem range'_length_succ (h : m + 1 ≤ n) :
    List.range' m (n - m) = m :: List.range' (m + 1) (n - (m + 1)) := by
  have hn : n - m = n - (m + 1) + 1 := by omega
  rw [hn, List.range'_succ]

/-- A new node that is filled first and added then. -/
theorem Added.attach (ha : Added (h ++ [⟨k, []⟩]) h.length cs lost h') (hp : p < h.length)
    (key : Option String) :
    Added h p [(key, .node (h.length, k) cs)] lost
      (h'.modify p (Node.extend [(key, h.length)])) := by
  have hg := ha.grows
  rw [List.length_append, List.length_singleton] at hg
  have hnew : h'[h.length]? = some ⟨k, edges cs⟩ := by
    rw [ha.parent]
    simp [Node.extend]
  have hold : ∀ i, i < h.length → h'[i]? = h[i]? := by
    intro i hi
    rw [ha.others i (by simp; omega) (by omega), List.getElem?_append_left hi]
  have hne : ∀ i, h.length ≤ i → (h'.modify p (Node.extend [(key, h.length)]))[i]? = h'[i]? := by
    intro i hi
    exact List.getElem?_modify_ne _ _ (by omega)
  constructor
  case parent =>
    rw [List.getElem?_modify_eq, hold p hp]
    rfl
  case others =>
    intro i hi hip
    rw [List.getElem?_modify_ne _ _ (Ne.symm hip), hold i hi]
  case held =>
    intro c hc
    rw [List.mem_singleton.1 hc]
    apply Holds.node
    · rw [hne _ (Nat.le_refl _), hnew]
    · intro c hc
      apply (ha.held c hc).frame
      intro l hl
      have hb := ha.bounds hc hl
      rw [List.length_append] at hb
      exact hne l.1 (by omega)
  case grows =>
    rw [List.length_modify]
    omega
  case fresh =>
    have hf := ha.fresh
    rw [List.length_append, List.length_singleton] at hf
    rw [List.length_modify, range'_length_succ hg, ids_singleton, List.cons_append]
    exact hf.cons h.length

/-- A new node that is added first and filled then. -/
theorem Added.attachFirst
    (ha : Added ((h ++ [Node.mk k []]).modify p (Node.extend [(key, h.length)])) h.length cs lost
      h')
    (hp : p < h.length) : Added h p [(key, .node (h.length, k) cs)] lost h' := by
  have hlen : ((h ++ [Node.mk k []]).modify p (Node.extend [(key, h.length)])).length =
      h.length + 1 := by simp
  have hg := ha.grows
  have hf := ha.fresh
  rw [hlen] at hg hf
  have hnew : h'[h.length]? = some ⟨k, edges cs⟩ := by
    rw [ha.parent, List.getElem?_modify_ne _ _ (by omega)]
    simp [Node.extend]
  have hold : ∀ i, i < h.length → h'[i]? =
      ((h ++ [Node.mk k []]).modify p (Node.extend [(key, h.length)]))[i]? := by
    intro i hi
    exact ha.others i (by omega) (by omega)
  constructor
  case parent =>
    rw [hold p hp, List.getElem?_modify_eq, List.getElem?_append_left hp]
    rfl
  case others =>
    intro i hi hip
    rw [hold i hi, List.getElem?_modify_ne _ _ (Ne.symm hip), List.getElem?_append_left hi]
  case held =>
    intro c hc
    rw [List.mem_singleton.1 hc]
    exact .node hnew ha.held
  case grows => omega
  case fresh =>
    rw [range'_length_succ hg, ids_singleton, List.cons_append]
    exact hf.cons h.length

/-- The program adds to node `p` items that say `vs`, and loses `n` nodes. -/
def Builds (p : Nat) (f : Prog Heap Unit) (vs : List (Item Kind)) (n : Nat) : Prop :=
  ∀ h, p < h.length → ∃ h' cs lost,
    f h = (h', some ()) ∧ Added h p cs lost h' ∧ json cs = vs ∧ lost.length = n

variable {f g : Prog Heap Unit} {F : Nat → Prog Heap Unit} {vs ws : List (Item Kind)}

theorem Builds.nil (p : Nat) : Builds p (pure ()) [] 0 :=
  fun h _ => ⟨h, [], [], rfl, .refl h p, rfl, rfl⟩

theorem Builds.seq (hf : Builds p f vs m) (hg : Builds p g ws n) :
    Builds p (do f; g) (vs ++ ws) (m + n) := by
  intro h hp
  obtain ⟨h1, cs, lost, hr1, ha1, rfl, rfl⟩ := hf h hp
  obtain ⟨h2, ds, lost', hr2, ha2, rfl, rfl⟩ := hg h1 (Nat.lt_of_lt_of_le hp ha1.grows)
  exact ⟨h2, cs ++ ds, lost ++ lost', (Prog.bind_some hr1).trans hr2, ha1.trans ha2 hp, json_append,
    List.length_append⟩

theorem create_bind (k : Kind) (F : Nat → Prog Heap α) (h : Heap) :
    (create k >>= F) h = F h.length (h ++ [⟨k, []⟩]) := rfl

theorem length_create (k : Kind) (h : Heap) : h.length < (h ++ [Node.mk k []]).length := by
  rw [List.length_append]
  exact Nat.lt_succ_self _

/-- The new node is filled and then added. -/
theorem Builds.attach (hf : ∀ o, Builds o (F o) vs n) (p : Nat) (key : Option String) (k : Kind) :
    Builds p (do let o ← create k; F o; addItem p key o) [(key, .node k vs)] n := by
  intro h hp
  obtain ⟨h', cs, lost, hr, ha, rfl, rfl⟩ := hf h.length (h ++ [⟨k, []⟩]) (length_create k h)
  exact ⟨_, _, lost, (create_bind k _ h).trans (Prog.bind_some hr), ha.attach hp key, rfl, rfl⟩

/-- The new node is added and then filled. -/
theorem Builds.attachFirst (hf : ∀ o, Builds o (F o) vs n) (p : Nat) (key : Option String)
    (k : Kind) :
    Builds p (do let o ← create k; addItem p key o; F o) [(key, .node k vs)] n := by
  intro h hp
  have hlen : h.length <
      ((h ++ [Node.mk k []]).modify p (Node.extend [(key, h.length)])).length := by
    rw [List.length_modify]
    exact length_create k h
  obtain ⟨h', cs, lost, hr, ha, rfl, rfl⟩ := hf h.length _ hlen
  exact ⟨h', _, lost, hr, ha.attachFirst hp, rfl, rfl⟩

/-- The new node is never added. -/
theorem Builds.lose (hf : Builds p f vs n) (k : Kind) :
    Builds p (do let _ ← create k; f) vs (n + 1) := by
  intro h hp
  have hc := Added.create h hp k
  obtain ⟨h', cs, lost, hr, ha, rfl, rfl⟩ := hf (h ++ [⟨k, []⟩]) (Nat.lt_of_lt_of_le hp hc.grows)
  exact ⟨h', cs, h.length :: lost, hr, hc.trans ha hp, rfl, rfl⟩

theorem Builds.add (p : Nat) (key : Option String) (k : Kind) :
    Builds p (add p key k) [leaf (key, k)] 0 :=
  .attach (F := fun _ => pure ()) Builds.nil p key k

theorem Builds.addEach (p : Nat) (ls : List Leaf) : Builds p (addEach p ls) (ls.map leaf) 0 := by
  induction ls with
  | nil => exact .nil p
  | cons l ls ih => exact (Builds.add p l.1 l.2).seq ih

theorem Builds.addArray (p : Nat) (key : String) (ks : List Kind) :
    Builds p (addArray p key ks)
      [(some key, .node .array ((ks.map fun k => (none, k)).map leaf))] 0 :=
  .attachFirst (fun o => .addEach o _) p (some key) .array

theorem stringLeaf_inj {s s' : List UInt8} : stringLeaf key s = stringLeaf key s' ↔ s = s' := by
  simp [stringLeaf]

theorem leaf_injective : Function.Injective leaf := by
  intro l m h
  cases l
  cases m
  cases h
  rfl

theorem leaves_injective : Function.Injective (List.map leaf) :=
  List.map_injective_iff.2 leaf_injective

theorem keys_leaves (ls : List Leaf) : keys (ls.map leaf) = ls.filterMap Prod.fst := by
  rw [keys, List.filterMap_map]
  rfl

theorem distinct_leaves {ls : List Leaf} (h : (ls.filterMap Prod.fst).Nodup) (k : Kind) :
    Distinct (.node k (ls.map leaf)) := by
  apply distinct_node.2
  apply And.intro
  · rw [keys_leaves]
    exact h
  · intro c hc
    obtain ⟨l, _, rfl⟩ := List.mem_map.1 hc
    exact distinct_leaf l.2

/-- What a finished root says, and that of all nodes `n` are not freed with it. -/
theorem Builds.root (hf : Builds 0 (F 0) vs n) (k : Kind) :
    ∃ h lost, (do let o ← create k; F o; return o) [] = (h, some 0) ∧
      read h h.length 0 = .node k vs ∧
      (delete h h.length 0 ++ lost).Perm (List.range h.length) ∧ lost.length = n := by
  obtain ⟨h, cs, lost, hr, ha, rfl, rfl⟩ := hf [⟨k, []⟩] Nat.one_pos
  have hg := ha.grows
  have hroot : Holds h (.node (0, k) cs) := by
    apply Holds.node _ ha.held
    rw [ha.parent]
    rfl
  have hperm : (0 :: ids cs ++ lost).Perm (List.range h.length) := by
    have hf := ha.fresh
    have hlen : (1 : Nat) ≤ h.length := hg
    rw [List.range_eq_range', ← Nat.sub_zero h.length, range'_length_succ hlen]
    exact hf.cons 0
  have hdepth : (KeyedTree.node (0, k) cs).labels.length ≤ h.length := by
    have hl := hperm.length_eq
    rw [List.length_append, List.length_range] at hl
    have hids : (0 :: ids cs).length = (KeyedTree.node (0, k) cs).labels.length := by
      rw [labels_node, List.length_cons, List.length_cons, ids, List.length_map]
    omega
  have hret : (F 0 >>= fun _ => pure 0) [Node.mk k []] = (h, some 0) := by
    rw [Prog.bind_some hr]
    rfl
  have hd : delete h h.length 0 = 0 :: ids cs := hroot.delete hdepth
  exact ⟨h, lost, hret, hroot.read hdepth, hd ▸ hperm, rfl⟩

/-- What the root says that a program returns, if it returns. -/
def returned (f : Prog Heap Nat) : Option Json :=
  match f [] with
  | (h, some root) => some (read h h.length root)
  | (_, none) => none

/-- `cJSON_Delete` of the root frees each node, and each once. -/
def FreesRoot : Heap × Option Nat → Prop
  | (h, some root) => (delete h h.length root).Perm (List.range h.length)
  | (_, none) => False

instance : (r : Heap × Option Nat) → Decidable (FreesRoot r)
  | (h, some root) =>
    inferInstanceAs (Decidable ((delete h h.length root).Perm (List.range h.length)))
  | (_, none) => inferInstanceAs (Decidable False)

/-- The root that the program returns owns all the nodes that the program creates. -/
def Frees (f : Prog Heap Nat) : Prop := FreesRoot (f [])

instance (f : Prog Heap Nat) : Decidable (Frees f) := inferInstanceAs (Decidable (FreesRoot _))

theorem Builds.returned (hf : Builds 0 (F 0) vs n) (k : Kind) :
    returned (do let o ← create k; F o; return o) = some (.node k vs) := by
  obtain ⟨h, lost, hr, hread, -, -⟩ := hf.root k
  rw [JsonHeap.returned, hr]
  exact congrArg some hread

/-- The root owns every node exactly when none was lost. -/
theorem Builds.frees_iff (hf : Builds 0 (F 0) vs n) (k : Kind) :
    Frees (do let o ← create k; F o; return o) ↔ n = 0 := by
  obtain ⟨h, lost, hr, -, hperm, rfl⟩ := hf.root k
  rw [Frees, hr, FreesRoot, List.length_eq_zero_iff]
  apply Iff.intro
  · intro hall
    have hlen := (hall.trans hperm.symm).length_eq
    rw [List.length_append] at hlen
    exact List.eq_nil_of_length_eq_zero (by omega)
  · intro hnil
    rw [hnil, List.append_nil] at hperm
    exact hperm

end JsonHeap
