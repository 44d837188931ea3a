import LdmLib.System

namespace LDM.System
set_option autoImplicit true

open Text JsonHeap KeyedTree

def Has (features : UInt32) (c : Capability) : Prop := features &&& c.flag ≠ 0

instance (features : UInt32) (c : Capability) : Decidable (Has features c) :=
  inferInstanceAs (Decidable (_ ≠ _))

def Readable (s : System) : Prop := ∀ t, s.readMac t ≠ none

/-- The report's list of features has the text of the capability. -/
def Listed (j : Json) (c : Capability) : Prop :=
  ∃ o ∈ j.valuesOf "chip_info", ∃ a ∈ o.valuesOf "chip_features",
    leaf (none, .string (ascii c.text)) ∈ a.items

/-- The two agree on what the report is to tell them apart by. -/
structure Agree (s s' : System) : Prop where
  macs : s.readMac = s'.readMac
  features : ∀ c, Has s.chipInfo.features c ↔ Has s'.chipInfo.features c
  cores : s.chipInfo.cores = s'.chipInfo.cores
  revision : s.chipInfo.revision = s'.chipInfo.revision
  resetReason : s.resetReason = s'.resetReason
  appInfo : s.appInfo = s'.appInfo
  address : s.partition.address = s'.partition.address
  size : s.partition.size = s'.partition.size
  encrypted : s.partition.encrypted = s'.partition.encrypted

/-- Both reports list the capabilities there are, and are equal only if the two agree. -/
structure Faithful (s s' : System) : Prop where
  lists : ∀ j, returned (buildJson s) = some j → ∀ c, Listed j c ↔ Has s.chipInfo.features c
  lists' : ∀ j, returned (buildJson s') = some j → ∀ c, Listed j c ↔ Has s'.chipInfo.features c
  injective : ∀ j, returned (buildJson s) = some j → returned (buildJson s') = some j → Agree s s'

variable {s s' : System} {macs macs' : MacType → Vector UInt8 6}

/-- A mask with a flag or-ed to it is never zero. -/
theorem chipFeatures_eq (features : UInt32) : chipFeatures features = Capability.all := by
  apply List.filter_eq_self.2
  intro c _
  have hflag : c.flag ≠ 0 := by cases c <;> decide
  apply decide_eq_true
  intro h
  exact hflag (UInt32.or_eq_zero_iff.1 h).2

theorem listed_report (s : System) (macs : MacType → Vector UInt8 6) (c : Capability) :
    Listed (.node .object (s.report macs)) c := by
  have hall : c ∈ Capability.all := by cases c <;> decide
  have hchip : (some "chip_info", .node .object (chipItems s.chipInfo)) ∈ s.report macs :=
    List.mem_cons_of_mem _ List.mem_cons_self
  have hfeatures : arrayItem "chip_features"
      ((chipFeatures s.chipInfo.features).map fun f => .string (ascii f.text)) ∈
        chipItems s.chipInfo :=
    List.mem_append_right _ List.mem_cons_self
  have hitem : leaf (none, .string (ascii c.text)) ∈ (((chipFeatures s.chipInfo.features).map
      fun f => Kind.string (ascii f.text)).map fun k => (none, k)).map leaf := by
    rw [chipFeatures_eq, List.map_map, List.map_map]
    exact List.mem_map_of_mem hall
  exact ⟨_, mem_valuesOf hchip, _, mem_valuesOf hfeatures, hitem⟩

theorem readable_iff (s : System) :
    Readable s ↔ ∃ macs : MacType → Vector UInt8 6, s.readMac = fun t => some (macs t) := by
  apply Iff.intro
  · intro h
    have hsome : ∀ t, ∃ mac, s.readMac t = some mac := fun t => Option.ne_none_iff_exists'.1 (h t)
    choose macs hm using hsome
    exact ⟨macs, funext hm⟩
  · intro h t hn
    obtain ⟨macs, hm⟩ := h
    rw [hm] at hn
    cases hn

/-- A report that is returned says what the addresses that were read are. -/
theorem returned_report (hj : returned (buildJson s) = some j) :
    Readable s ∧ ∃ macs, s.readMac = (fun t => some (macs t)) ∧
      j = .node .object (s.report macs) := by
  have hr : Readable s := by
    intro t hn
    rw [returned_of_stops (buildJson_stops hn)] at hj
    cases hj
  obtain ⟨macs, hm⟩ := (readable_iff s).1 hr
  rw [buildJson_returned hm, Option.some.injEq] at hj
  exact ⟨hr, macs, hm, hj.symm⟩

theorem object_inj {k : Kind} {vs ws : List (Item Kind)} {key : Option String}
    (h : (key, KeyedTree.node k vs) = (key, KeyedTree.node k ws)) : vs = ws :=
  (KeyedTree.node.inj (Prod.mk.inj h).2).2

theorem number_inj {key : String} {m n : Nat}
    (h : leaf (numberLeaf key m) = leaf (numberLeaf key n)) : m = n := by
  cases leaf_injective h
  rfl

theorem string_inj {key : String} {x y : List UInt8}
    (h : leaf (stringLeaf key x) = leaf (stringLeaf key y)) : x = y :=
  stringLeaf_inj.1 (leaf_injective h)

theorem array_inj {f : α → Kind} (hf : Function.Injective f) {xs ys : List α}
    (h : arrayItem key (xs.map f) = arrayItem key (ys.map f)) : xs = ys := by
  have hls := leaves_injective (object_inj h)
  have hpair : Function.Injective fun k : Kind => ((none, k) : Leaf) :=
    fun _ _ he => (Prod.mk.inj he).2
  exact List.map_injective_iff.2 hf (List.map_injective_iff.2 hpair hls)

theorem macs_inj
    (h : (MacType.all.map fun t => macLeaf t (macs t)).map leaf =
      (MacType.all.map fun t => macLeaf t (macs' t)).map leaf) : macs = macs' := by
  have hall := List.map_inj_left.1 (leaves_injective h)
  funext t
  exact macText_inj (stringLeaf_inj.1 (hall t t.mem_all))

theorem chip_inj {c c' : ChipInfo} (h : chipItems c = chipItems c') :
    c.cores = c'.cores ∧ c.revision = c'.revision := by
  obtain ⟨-, hsuffix⟩ := List.append_inj' h rfl
  obtain ⟨-, hrest⟩ := List.cons.inj hsuffix
  obtain ⟨hcores, hrest⟩ := List.cons.inj hrest
  obtain ⟨hrevision, -⟩ := List.cons.inj hrest
  exact ⟨UInt8.toNat_inj.1 (number_inj hcores), UInt16.toNat_inj.1 (number_inj hrevision)⟩

theorem word_injective : Function.Injective fun w : UInt32 => Kind.number w.toNat := by
  intro v w h
  exact UInt32.toNat_inj.1 (Int.ofNat.inj (Kind.number.inj h))

theorem byte_injective : Function.Injective fun b : UInt8 => Kind.number b.toNat := by
  intro v w h
  exact UInt8.toNat_inj.1 (Int.ofNat.inj (Kind.number.inj h))

/-- The three arrays and the other items of the description are all told by the report. -/
theorem app_inj {a a' : AppDesc} (h : appItems a = appItems a') : a = a' := by
  simp only [appItems, List.cons.injEq] at h
  obtain ⟨hmagic, hsecure, hreserv1, hreserv2, hversion, hproject, htime, hdate, hidf, hsha, -⟩ := h
  cases a
  cases a'
  simp only [AppDesc.mk.injEq]
  exact ⟨UInt32.toNat_inj.1 (number_inj hmagic), UInt32.toNat_inj.1 (number_inj hsecure),
    Vector.toList_inj.1 (array_inj word_injective hreserv1), CString.ext (string_inj hversion),
    CString.ext (string_inj hproject), CString.ext (string_inj htime),
    CString.ext (string_inj hdate), CString.ext (string_inj hidf),
    Vector.toList_inj.1 (array_inj byte_injective hsha),
    Vector.toList_inj.1 (array_inj word_injective hreserv2)⟩

theorem partition_inj {p p' : Partition}
    (h : (partitionLeaves p).map leaf = (partitionLeaves p').map leaf) :
    p.address = p'.address ∧ p.size = p'.size ∧ p.encrypted = p'.encrypted := by
  obtain ⟨-, hsuffix⟩ := List.append_inj' (leaves_injective h) rfl
  simp only [List.cons.injEq, numberLeaf, boolLeaf, Prod.mk.injEq, Kind.number.injEq,
    Kind.bool.injEq, Int.natCast_inj, UInt32.toNat_inj, true_and, and_true] at hsuffix
  exact ⟨hsuffix.1, hsuffix.2.1, hsuffix.2.2.2⟩

theorem resetReason_inj {x y : ResetReason} (h : ascii x.name = ascii y.name) : x = y := by
  have hall : ∀ x ∈ ResetReason.all, ∀ y ∈ ResetReason.all,
      ascii x.name = ascii y.name → x = y := by decide
  exact hall x x.mem_all y y.mem_all h

theorem report_inj (h : s.report macs = s'.report macs') :
    macs = macs' ∧ s.chipInfo.cores = s'.chipInfo.cores ∧
      s.chipInfo.revision = s'.chipInfo.revision ∧ s.resetReason = s'.resetReason ∧
      s.appInfo = s'.appInfo ∧ s.partition.address = s'.partition.address ∧
      s.partition.size = s'.partition.size ∧ s.partition.encrypted = s'.partition.encrypted := by
  simp only [report, List.cons.injEq] at h
  obtain ⟨hmacs, hchip, -, -, hreset, happ, hpart, -⟩ := h
  obtain ⟨hcores, hrevision⟩ := chip_inj (object_inj hchip)
  exact ⟨macs_inj (object_inj hmacs), hcores, hrevision, resetReason_inj (string_inj hreset),
    app_inj (object_inj happ), partition_inj (object_inj hpart)⟩

theorem agree_of_report (hm : s.readMac = fun t => some (macs t))
    (hm' : s'.readMac = fun t => some (macs' t))
    (hf : ∀ c, Has s.chipInfo.features c ↔ Has s'.chipInfo.features c)
    (h : s.report macs = s'.report macs') : Agree s s' := by
  obtain ⟨hmacs, hcores, hrevision, hreset, happ, haddress, hsize, hencrypted⟩ := report_inj h
  constructor
  case macs => rw [hm, hm', hmacs]
  case features => exact hf
  case cores => exact hcores
  case revision => exact hrevision
  case resetReason => exact hreset
  case appInfo => exact happ
  case address => exact haddress
  case size => exact hsize
  case encrypted => exact hencrypted

/-- The lists of features are right exactly when there are all four, or no report at all. -/
theorem lists_iff (s : System) :
    (∀ j, returned (buildJson s) = some j → ∀ c, Listed j c ↔ Has s.chipInfo.features c) ↔
      (Readable s → ∀ c, Has s.chipInfo.features c) := by
  apply Iff.intro
  · intro h hr c
    obtain ⟨macs, hm⟩ := (readable_iff s).1 hr
    exact (h _ (buildJson_returned hm) c).1 (listed_report s macs c)
  · intro h j hj c
    obtain ⟨hr, macs, _, rfl⟩ := returned_report hj
    exact iff_of_true (listed_report s macs c) (h hr c)

/-- Reports tell two systems apart, as far as they are to, exactly when every system that reports
has all four capabilities: all else in them is told without loss. -/
theorem report_faithful_iff (s s' : System) :
    Faithful s s' ↔
      (Readable s → ∀ c, Has s.chipInfo.features c) ∧
        (Readable s' → ∀ c, Has s'.chipInfo.features c) := by
  apply Iff.intro
  · intro h
    exact ⟨(lists_iff s).1 h.lists, (lists_iff s').1 h.lists'⟩
  · intro h
    obtain ⟨h, h'⟩ := h
    constructor
    case lists => exact (lists_iff s).2 h
    case lists' => exact (lists_iff s').2 h'
    intro j hj hj'
    obtain ⟨hr, macs, hm, hj⟩ := returned_report hj
    obtain ⟨hr', macs', hm', hj'⟩ := returned_report hj'
    have hreport : s.report macs = s'.report macs' := (KeyedTree.node.inj (hj.symm.trans hj')).2
    exact agree_of_report hm hm' (fun c => iff_of_true (h hr c) (h' hr' c)) hreport

/-- A chip with the features of a mask. -/
def chip (features : UInt32) : System where
  chipInfo := ⟨.esp32, features, 2, 1⟩
  idfVersion := .empty
  resetReason := .poweron
  appInfo := ⟨0, 0, .replicate 2 0, .empty, .empty, .empty, .empty, .empty, .replicate 32 0,
    .replicate 20 0⟩
  partition := ⟨.app, .appFactory, 0x10000, 0x100000, .empty, false⟩
  readMac := fun _ => some (.replicate 6 0)
  freeHeapSize := 0
  freeInternalHeapSize := 0
  minimumFreeHeapSize := 0

/-- A chip without Bluetooth is reported like one with all the features. -/
theorem report_not_faithful :
    returned (buildJson (chip 0x03)) = returned (buildJson (chip 0x33)) ∧
      ¬ Faithful (chip 0x03) (chip 0x33) := by
  have hchip : chipItems (chip 0x03).chipInfo = chipItems (chip 0x33).chipInfo := by
    rw [chipItems, chipItems, chipFeatures_eq, chipFeatures_eq]
    rfl
  have hsame : returned (buildJson (chip 0x03)) = returned (buildJson (chip 0x33)) := by
    rw [buildJson_returned (s := chip 0x03) rfl, buildJson_returned (s := chip 0x33) rfl, report,
      report, hchip]
    rfl
  apply And.intro
  · exact hsame
  · intro h
    have hj : returned (buildJson (chip 0x33)) = _ := buildJson_returned rfl
    have hbt := (h.injective _ (hsame.trans hj) hj).features .bt
    revert hbt
    decide

end LDM.System
