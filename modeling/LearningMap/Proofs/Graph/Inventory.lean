import LearningMap.Proofs.Graph.Index
import Mathlib.Data.List.Perm.Basic

/-!
# What a snapshot takes from its rows

A snapshot is built from rows in any order. Among them there may be rows of other maps, and rows that
share an id. The indexes describe the rows of the one map all the same: no arrow is lost, none is made
up and none is listed under another node, and of the rules with one id the last one stands in both
indexes of rules (`Snapshot.Inventory`). Where ids are distinct, the order of the rows does not matter.
-/

namespace LearningMap

/-- Elements grouped under the keys that they have are the elements again, in some order. -/
theorem perm_flatMap_filter {α : Type} {key : α → Id} {keys : List Id} (distinct : keys.Nodup)
    {as : List α} (covered : ∀ a ∈ as, key a ∈ keys) :
    (keys.flatMap fun k => as.filter (key · == k)).Perm as := by
  induction keys generalizing as with
  | nil =>
    have none : as = [] := List.eq_nil_iff_forall_not_mem.mpr fun a ha => nomatch covered a ha
    subst none
    exact .refl []
  | cons k keys ih =>
    obtain ⟨absent, distinct⟩ := List.nodup_cons.mp distinct
    let rest := as.filter fun a => !(key a == k)
    have rest_covered : ∀ a ∈ rest, key a ∈ keys := by
      intro a ha
      obtain ⟨ha, other⟩ := List.mem_filter.mp ha
      exact (List.mem_cons.mp (covered a ha)).resolve_left (by simpa using other)
    have same : ∀ j ∈ keys, as.filter (key · == j) = rest.filter (key · == j) := by
      intro j hj
      rw [List.filter_filter]
      apply List.filter_congr
      intro a _
      by_cases own : key a = j
      · have differ : key a ≠ k := fun eq => absent (eq ▸ own ▸ hj)
        simp [own, own ▸ differ]
      · simp [own]
    have grouped : (keys.flatMap fun j => as.filter (key · == j)).Perm rest := by
      rw [List.flatMap_congr same]
      exact ih distinct rest_covered
    rw [List.flatMap_cons]
    exact (grouped.append_left _).trans (List.filter_append_perm _ as)

namespace IdMap

variable {β : Type} {m : IdMap β}

theorem nodup_keys (m : IdMap β) : m.keys.Nodup :=
  Std.ExtTreeMap.ordered_keys.imp fun lt eq => by simp [eq] at lt

/-- The lists of a map, one after another, are those under its keys. -/
theorem flatten_values {α : Type} (m : IdMap (List α)) :
    m.values.flatten = m.keys.flatMap fun k => m.getD k [] := by
  rw [values_eq, ← Std.ExtTreeMap.map_fst_toList_eq_keys, List.flatMap_map, List.flatMap_def]
  congr 1
  apply List.map_congr_left
  intro p hp
  rw [Std.ExtTreeMap.getD_eq_getD_getElem?,
    Std.ExtTreeMap.mem_toList_iff_getElem?_eq_some.mp hp, Option.getD_some]

theorem exists_mem_iff {α : Type} {m : IdMap (List α)} {k : Id} {a : α} :
    (∃ as, m[k]? = some as ∧ a ∈ as) ↔ a ∈ m.getD k [] := by
  rw [Std.ExtTreeMap.getD_eq_getD_getElem?]
  cases m[k]? <;> simp

end IdMap

namespace Snapshot

/-- A snapshot holds the rows of one map: the arrows among the given ones under their start nodes and
their rules, and of the rules with one id the last one, under its id and its node. What is resolved
and completed is what is given. -/
structure Inventory (s : Snapshot) (map : Id) (arrows : List Arrow) (rules : List Rule)
    (resolved : List Id) (completed : List (Id × Id)) : Prop where
  map_eq : s.map = map
  start_eq : ∀ {n : Id} {as}, s.arrowsFrom[n]? = some as → ∀ a ∈ as, a.start = n
  ascending : ∀ {n : Id} {as}, s.arrowsFrom[n]? = some as → as.Pairwise (·.id ≤ ·.id)
  arrows_perm : s.arrowsFrom.values.flatten.Perm (arrows.filter (·.map == map))
  mem_arrowsInto : ∀ r i : Id, (∃ ids, s.arrowsInto[r]? = some ids ∧ i ∈ ids) ↔
    ∃ a ∈ arrows, a.map = map ∧ a.rule = r ∧ a.id = i
  arrowsInto_ne : ∀ {r : Id} {ids}, s.arrowsInto[r]? = some ids → ids ≠ ∅
  rules_eq : ∀ i : Id, s.rules[i]? = (rules.filter fun r => r.map == map && r.id == i).getLast?
  rulesFor_ascending : ∀ {n : Id} {rs}, s.rulesFor[n]? = some rs → rs.Pairwise (·.id < ·.id)
  mem_rulesFor : ∀ (n : Id) r, (∃ rs, s.rulesFor[n]? = some rs ∧ r ∈ rs) ↔
    s.rules[r.id]? = some r ∧ r.node = n
  mem_arrows : ∀ i, i ∈ s.progress.arrows ↔ i ∈ resolved
  mem_nodes : ∀ n, n ∈ s.progress.nodes ↔ ∃ r, (n, r) ∈ completed
  mem_rules : ∀ r, r ∈ s.progress.rules ↔ ∃ n, (n, r) ∈ completed

/-- Each list of arrows is the list of those that leave its node. -/
theorem outgoing_eq {s : Snapshot} {n : Id} {as : List Arrow} (found : s.arrowsFrom[n]? = some as) :
    s.outgoing n = as := by
  rw [outgoing, Std.ExtTreeMap.getD_eq_getD_getElem?, found, Option.getD_some]

/-- No rule is listed without an arrow. -/
theorem arrowsInto_ne_addArrow {s : Snapshot} (a : Arrow)
    (h : ∀ {r : Id} {ids}, s.arrowsInto[r]? = some ids → ids ≠ ∅) {r : Id} {ids : IdSet}
    (found : (s.addArrow a).arrowsInto[r]? = some ids) : ids ≠ ∅ := by
  unfold addArrow at found
  rw [Std.ExtTreeMap.getElem?_alter] at found
  split at found
  · cases found
    exact Std.ExtTreeSet.insert_ne_empty
  · exact h found

theorem arrowsInto_ne_foldl_addArrow (as : List Arrow) {s : Snapshot}
    (h : ∀ {r : Id} {ids}, s.arrowsInto[r]? = some ids → ids ≠ ∅) {r : Id} {ids : IdSet}
    (found : (as.foldl addArrow s).arrowsInto[r]? = some ids) : ids ≠ ∅ := by
  induction as generalizing s with
  | nil => exact h found
  | cons a as ih => exact ih (arrowsInto_ne_addArrow a h) found

theorem exists_mem_arrowsInto {s : Snapshot} {r i : Id} :
    (∃ ids, s.arrowsInto[r]? = some ids ∧ i ∈ ids) ↔ i ∈ s.ruleArrows r := by
  unfold ruleArrows ruleArrows?
  cases s.arrowsInto[r]? <;> simp

/-- Every start node of an arrow of the map is a key of the index. -/
theorem start_mem_keys {s : Snapshot} {a : Arrow} {n : Id} (ha : a ∈ s.outgoing n) :
    n ∈ s.arrowsFrom.keys := by
  rw [Std.ExtTreeMap.mem_keys, Std.ExtTreeMap.mem_iff_isSome_getElem?]
  unfold outgoing at ha
  rw [Std.ExtTreeMap.getD_eq_getD_getElem?] at ha
  cases found : s.arrowsFrom[n]? with
  | none => simp [found] at ha
  | some as => rfl

theorem values_ascending {index : IdMap Rule} (keyed : ∀ {i : Id} {r}, index[i]? = some r → r.id = i) :
    index.values.Pairwise (·.id < ·.id) := by
  rw [IdMap.values_eq, List.pairwise_map]
  refine Std.ExtTreeMap.ordered_keys_toList.imp_of_mem ?_
  intro p q hp hq lt
  rw [keyed (Std.ExtTreeMap.mem_toList_iff_getElem?_eq_some.mp hp),
    keyed (Std.ExtTreeMap.mem_toList_iff_getElem?_eq_some.mp hq)]
  exact Std.compare_eq_lt.mp lt

theorem getD_groupRules (rs : List Rule) (n : Id) :
    (groupRules rs).getD n [] = rs.filter (·.node == n) := by
  rw [groupRules, IdMap.getD_foldl_group Rule.node]
  simp

section Build

variable {map : Id} {arrows : List Arrow} {rules : List Rule} {resolved : List Id}
  {completed : List (Id × Id)}

theorem ownArrows_ascending (map : Id) (arrows : List Arrow) :
    (ownArrows map arrows).Pairwise (·.id ≤ ·.id) :=
  pairwise_mergeSort_key Arrow.id _

theorem ownArrows_perm (map : Id) (arrows : List Arrow) :
    (ownArrows map arrows).Perm (arrows.filter (·.map == map)) :=
  List.mergeSort_perm _ _

theorem rulesFor_build :
    (build map arrows rules resolved completed).rulesFor =
      groupRules (indexRules (rules.filter (·.map == map))).values :=
  (foldl_addArrow_rest _ _).2.2.1

theorem arrows_build_perm :
    (build map arrows rules resolved completed).arrowsFrom.values.flatten.Perm
      (arrows.filter (·.map == map)) := by
  have covered : ∀ a ∈ ownArrows map arrows,
      a.start ∈ (build map arrows rules resolved completed).arrowsFrom.keys := by
    intro a ha
    apply start_mem_keys (a := a)
    rw [outgoing_build]
    exact List.mem_filter.mpr ⟨ha, beq_self_eq_true a.start⟩
  have listed : ∀ n ∈ (build map arrows rules resolved completed).arrowsFrom.keys,
      (build map arrows rules resolved completed).arrowsFrom.getD n [] =
        (ownArrows map arrows).filter (·.start == n) :=
    fun n _ => outgoing_build map arrows rules resolved completed n
  rw [IdMap.flatten_values, List.flatMap_congr listed]
  exact (perm_flatMap_filter (IdMap.nodup_keys _) covered).trans (ownArrows_perm map arrows)

theorem build_inventory (map : Id) (arrows : List Arrow) (rules : List Rule) (resolved : List Id)
    (completed : List (Id × Id)) :
    (build map arrows rules resolved completed).Inventory map arrows rules resolved completed where
  map_eq := map_build
  start_eq := by
    intro n as found a ha
    rw [← outgoing_eq found] at ha
    exact (mem_outgoing_build.mp ha).2.2
  ascending := by
    intro n as found
    rw [← outgoing_eq found, outgoing_build]
    exact (ownArrows_ascending map arrows).filter _
  arrows_perm := arrows_build_perm
  mem_arrowsInto r i := exists_mem_arrowsInto.trans mem_ruleArrows_build
  arrowsInto_ne := by
    intro r ids found
    refine arrowsInto_ne_foldl_addArrow _ ?_ found
    intro r ids found
    simp [empty] at found
  rules_eq i := by
    rw [rules_build, getElem?_indexRules, ← List.getLast?_filter, List.filter_filter]
    simp only [Bool.and_comm]
  rulesFor_ascending := by
    intro n rs found
    have listed := getD_groupRules (indexRules (rules.filter (·.map == map))).values n
    rw [← rulesFor_build, Std.ExtTreeMap.getD_eq_getD_getElem?, found, Option.getD_some] at listed
    rw [listed]
    exact (values_ascending fun hr => (mem_of_getElem?_indexRules hr).2).filter _
  mem_rulesFor n r := by
    rw [IdMap.exists_mem_iff, rulesFor_build, rules_build, getD_groupRules, List.mem_filter,
      IdMap.mem_values, beq_iff_eq]
    refine and_congr_left fun _ => ⟨?_, fun found => ⟨r.id, found⟩⟩
    rintro ⟨i, found⟩
    rwa [(mem_of_getElem?_indexRules found).2]
  mem_arrows i := by simp
  mem_nodes n := by simp
  mem_rules r := by simp

theorem ownArrows_congr {arrows' : List Arrow}
    (distinct : ((arrows.filter (·.map == map)).map (·.id)).Nodup) (perm : arrows'.Perm arrows) :
    ownArrows map arrows' = ownArrows map arrows := by
  have same : (ownArrows map arrows').Perm (ownArrows map arrows) :=
    (ownArrows_perm map arrows').trans ((perm.filter _).trans (ownArrows_perm map arrows).symm)
  refine same.eq_of_pairwise ?_ (ownArrows_ascending map arrows') (ownArrows_ascending map arrows)
  intro a b ha hb le ge
  have own : ∀ c ∈ ownArrows map arrows, c ∈ arrows.filter (·.map == map) := fun c hc =>
    (ownArrows_perm map arrows).mem_iff.mp hc
  exact List.inj_on_of_nodup_map distinct (own a (same.mem_iff.mp ha)) (own b hb)
    (Int.le_antisymm le ge)

theorem indexRules_congr {rules' : List Rule} (distinct : (rules.map (·.id)).Nodup)
    (perm : rules'.Perm rules) : indexRules rules' = indexRules rules := by
  have distinct' : (rules'.map (·.id)).Nodup := (perm.map _).nodup_iff.mpr distinct
  apply Std.ExtTreeMap.ext_getElem?
  intro i
  apply Option.ext
  intro r
  rw [getElem?_indexRules_eq_some_iff distinct', getElem?_indexRules_eq_some_iff distinct,
    perm.mem_iff]

theorem ofList_congr {ids ids' : List Id} (perm : ids'.Perm ids) :
    IdSet.ofList ids' = IdSet.ofList ids := by
  rw [IdSet.ext_iff]
  intro i
  rw [IdSet.mem_ofList, IdSet.mem_ofList, perm.mem_iff]

theorem build_eq :
    build map arrows rules resolved completed =
      (ownArrows map arrows).foldl addArrow
        { empty map with
          rules := indexRules (rules.filter (·.map == map))
          rulesFor := groupRules (indexRules (rules.filter (·.map == map))).values
          progress :=
            { arrows := .ofList resolved
              nodes := .ofList (completed.map (·.1))
              rules := .ofList (completed.map (·.2)) } } :=
  rfl

/-- A snapshot holds the rows of its map, whatever rows it is built from. If the ids of these rows are
distinct, the same rows in any order give the same snapshot. -/
theorem build_holds_rows (map : Id) (arrows : List Arrow) (rules : List Rule) (resolved : List Id)
    (completed : List (Id × Id)) :
    (build map arrows rules resolved completed).Inventory map arrows rules resolved completed ∧
    (((arrows.filter (·.map == map)).map (·.id)).Nodup →
      ((rules.filter (·.map == map)).map (·.id)).Nodup →
      ∀ {arrows' rules' resolved' completed'}, arrows'.Perm arrows → rules'.Perm rules →
        resolved'.Perm resolved → completed'.Perm completed →
        build map arrows' rules' resolved' completed' =
          build map arrows rules resolved completed) := by
  refine ⟨build_inventory map arrows rules resolved completed, ?_⟩
  intro distinct_arrows distinct_rules arrows' rules' resolved' completed' as rs is pairs
  rw [build_eq, build_eq, ownArrows_congr distinct_arrows as,
    indexRules_congr distinct_rules (rs.filter _), ofList_congr is, ofList_congr (pairs.map _),
    ofList_congr (pairs.map _)]

end Build

/-- Arrows of two maps, three of the first in no order. -/
def mixedArrows : List Arrow :=
  [⟨12, 1, 1, 100, 2⟩, ⟨11, 1, 1, 101, 3⟩, ⟨20, 2, 1, 100, 2⟩, ⟨13, 1, 2, 101, 3⟩]

def mixedRules : List Rule := [⟨101, 1, 3⟩, ⟨200, 2, 2⟩, ⟨100, 1, 2⟩]

theorem build_holds_mixed_rows :
    ((mixedArrows.filter (·.map == 1)).map (·.id)).Nodup ∧
    ((mixedRules.filter (·.map == 1)).map (·.id)).Nodup ∧
    (build 1 mixedArrows mixedRules [11, 12] [(2, 100), (3, 101)]).Inventory 1 mixedArrows mixedRules
      [11, 12] [(2, 100), (3, 101)] ∧
    build 1 mixedArrows.reverse mixedRules.reverse [12, 11] [(3, 101), (2, 100)] =
      build 1 mixedArrows mixedRules [11, 12] [(2, 100), (3, 101)] := by
  have distinct_arrows : ((mixedArrows.filter (·.map == 1)).map (·.id)).Nodup := by decide
  have distinct_rules : ((mixedRules.filter (·.map == 1)).map (·.id)).Nodup := by decide
  have holds := build_holds_rows 1 mixedArrows mixedRules [11, 12] [(2, 100), (3, 101)]
  refine ⟨distinct_arrows, distinct_rules, holds.1, ?_⟩
  apply holds.2 distinct_arrows distinct_rules
  · exact List.reverse_perm mixedArrows
  · exact List.reverse_perm mixedRules
  · exact .swap 11 12 []
  · exact .swap (2, 100) (3, 101) []

end Snapshot

end LearningMap
