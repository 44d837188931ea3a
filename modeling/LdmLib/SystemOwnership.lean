import LdmLib.SystemReport

namespace LDM.System
set_option autoImplicit true

open Text JsonHeap KeyedTree

variable {s : System}

theorem distinct_array (key : String) (ks : List Kind) : (arrayItem key ks).2.Distinct := by
  have hkeys : (ks.map fun k => ((none, k) : Leaf)).filterMap Prod.fst = [] := by
    apply List.filterMap_eq_nil_iff.2
    intro l hl
    obtain ⟨k, _, rfl⟩ := List.mem_map.1 hl
    rfl
  apply distinct_leaves
  rw [hkeys]
  exact List.nodup_nil

theorem distinct_macs (macs : MacType → Vector UInt8 6) :
    (KeyedTree.node Kind.object
      ((MacType.all.map fun t => macLeaf t (macs t)).map leaf)).Distinct := by
  apply distinct_leaves
  change (MacType.all.map MacType.key).Nodup
  decide

theorem distinct_chip (c : ChipInfo) :
    (KeyedTree.node Kind.object (chipItems c)).Distinct := by
  apply distinct_node.2
  apply And.intro
  · have hall : ["model", "chip_features", "num_cores", "chip_revision_num"].Nodup := by decide
    refine hall.sublist ?_
    rw [chipItems]
    cases c.model.name with
    | none => exact .cons _ (.refl _)
    | some n => exact .refl _
  · intro i hi
    rcases List.mem_append.1 hi with hi | hi
    · obtain ⟨l, _, rfl⟩ := List.mem_map.1 hi
      exact distinct_leaf l.2
    · rcases List.mem_cons.1 hi with rfl | hi
      · exact distinct_array _ _
      · rcases List.mem_cons.1 hi with rfl | hi
        · exact distinct_leaf _
        · rw [List.mem_singleton.1 hi]
          exact distinct_leaf _

theorem distinct_heap (s : System) :
    (KeyedTree.node Kind.object (s.heapLeaves.map leaf)).Distinct := by
  apply distinct_leaves
  change ["heap_size", "internal_heap_size", "min_heap_size"].Nodup
  decide

theorem distinct_app (a : AppDesc) : (KeyedTree.node Kind.object (appItems a)).Distinct := by
  apply distinct_node.2
  apply And.intro
  · change ["magic_word", "secure_version", "reserv1", "reserv2", "version", "project_name",
      "time", "date", "idf_ver", "app_elf_sha256"].Nodup
    decide
  · intro i hi
    simp only [appItems, List.mem_cons, List.not_mem_nil, or_false] at hi
    rcases hi with rfl | rfl | rfl | rfl | rfl | rfl | rfl | rfl | rfl | rfl
    · exact distinct_leaf _
    · exact distinct_leaf _
    · exact distinct_array _ _
    · exact distinct_array _ _
    · exact distinct_leaf _
    · exact distinct_leaf _
    · exact distinct_leaf _
    · exact distinct_leaf _
    · exact distinct_leaf _
    · exact distinct_array _ _

/-- A type or a subtype without a name leaves its key out. -/
theorem distinct_partition (p : Partition) :
    (KeyedTree.node Kind.object ((partitionLeaves p).map leaf)).Distinct := by
  have hall : ["type", "subtype", "address", "size", "label", "encrypted"].Nodup := by decide
  apply distinct_leaves
  refine hall.sublist ?_
  rw [partitionLeaves]
  cases p.type.name with
  | none =>
    cases p.subtype.name with
    | none => exact .cons _ (.cons _ (.refl _))
    | some n => exact .cons _ (.refl _)
  | some m =>
    cases p.subtype.name with
    | none => exact .cons_cons _ (.cons _ (.refl _))
    | some n => exact .refl _

theorem distinct_report (s : System) (macs : MacType → Vector UInt8 6) :
    (KeyedTree.node Kind.object (s.report macs)).Distinct := by
  apply distinct_node.2
  apply And.intro
  · change ["mac_address", "chip_info", "idf_version", "heap_info", "reset_reason", "app_info",
      "partition_info"].Nodup
    decide
  · intro i hi
    simp only [report, List.mem_cons, List.not_mem_nil, or_false] at hi
    rcases hi with rfl | rfl | rfl | rfl | rfl | rfl | rfl
    · exact distinct_macs macs
    · exact distinct_chip s.chipInfo
    · exact distinct_leaf _
    · exact distinct_heap s
    · exact distinct_leaf _
    · exact distinct_app s.appInfo
    · exact distinct_partition s.partition

/-- A report that is made owns each node that was created for it, and has no key twice in any of
its objects; none is made, and the program stops, when an address cannot be read. -/
theorem report_owned (s : System) :
    (Frees (buildJson s) ↔ Readable s) ∧
      (returned (buildJson s) ≠ none ↔ Readable s) ∧
      ∀ j, returned (buildJson s) = some j → j.Distinct := by
  have hj (j : Json) (h : returned (buildJson s) = some j) : j.Distinct := by
    obtain ⟨_, macs, _, rfl⟩ := returned_report h
    exact distinct_report s macs
  by_cases hr : Readable s
  · obtain ⟨macs, hm⟩ := (readable_iff s).1 hr
    have hf : Frees (buildJson s) := ((builds_sections s hm 0).frees_iff .object).2 rfl
    have hs : returned (buildJson s) ≠ none := by
      rw [buildJson_returned hm]
      exact nofun
    exact ⟨iff_of_true hf hr, iff_of_true hs hr, hj⟩
  · obtain ⟨t, ht⟩ := not_forall.1 hr
    have hstop : Prog.Stops (buildJson s) := buildJson_stops (not_not.1 ht)
    have hnone := returned_of_stops hstop
    have hf : ¬ Frees (buildJson s) := by
      have hn := hstop []
      rw [Frees]
      generalize buildJson s [] = r at hn
      obtain ⟨h, root⟩ := r
      obtain rfl : root = none := hn
      exact id
    exact ⟨iff_of_false hf hr, iff_of_false (fun h => h hnone) hr, hj⟩

end LDM.System
