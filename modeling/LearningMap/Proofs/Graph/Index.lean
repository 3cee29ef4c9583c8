import LearningMap.Graph.Snapshot
import Mathlib.Data.List.Nodup
import Mathlib.Data.List.Perm.Subperm
import Mathlib.Data.Set.Basic

/-!
# What a snapshot indexes

A snapshot is read through its outgoing arrows, the ids of the arrows into a rule and its rules. The
three agree with each other when no two arrows have one id: `Snapshot.WellFormed` says so, and
`build_wellFormed` that every snapshot built from such arrows is well formed.
-/

namespace LearningMap

/-- What is sorted by a key ascends by that key. -/
theorem pairwise_mergeSort_key {α : Type} (key : α → Id) (as : List α) :
    (as.mergeSort fun a b => key a ≤ key b).Pairwise (key · ≤ key ·) := by
  refine (List.pairwise_mergeSort ?_ ?_ as).imp of_decide_eq_true
  · intro a b c ab bc
    exact decide_eq_true ((of_decide_eq_true ab).trans (of_decide_eq_true bc))
  · intro a b
    simpa using Int.le_total (key a) (key b)

namespace IdSet

theorem ext_iff {s t : IdSet} : s = t ↔ ∀ i, i ∈ s ↔ i ∈ t :=
  ⟨fun h i => by rw [h], Std.ExtTreeSet.ext_mem⟩

theorem insertAll_append (s : IdSet) (is js : List Id) :
    s.insertAll (is ++ js) = (s.insertAll is).insertAll js :=
  List.foldl_append

theorem isEmpty_eq_false_iff_exists {s : IdSet} : s.isEmpty = false ↔ ∃ i, i ∈ s := by
  rw [Std.ExtTreeSet.isEmpty_eq_false_iff, Std.ExtTreeSet.eq_empty_iff_forall_not_mem]
  simp

theorem nodup_toList (s : IdSet) : s.toList.Nodup :=
  Std.ExtTreeSet.ordered_toList.imp fun lt eq => by simp [eq] at lt

theorem size_eq_length_iff {s : IdSet} {l : List Id} (nodup : l.Nodup) (sub : ∀ i ∈ s, i ∈ l) :
    s.size = l.length ↔ ∀ i ∈ l, i ∈ s := by
  have below : s.toList ⊆ l := fun i hi => sub i (Std.ExtTreeSet.mem_toList.mp hi)
  rw [← Std.ExtTreeSet.length_toList]
  constructor
  · intro same i hi
    have perm := (s.nodup_toList.subperm below).perm_of_length_le same.ge
    exact Std.ExtTreeSet.mem_toList.mp (perm.mem_iff.mpr hi)
  · intro all
    have above : l ⊆ s.toList := fun i hi => Std.ExtTreeSet.mem_toList.mpr (all i hi)
    exact Nat.le_antisymm (s.nodup_toList.length_le_of_subset below)
      (nodup.length_le_of_subset above)

end IdSet

namespace IdMap

theorem values_eq {β : Type} (m : IdMap β) : m.values = m.toList.map (·.2) := by
  change m.foldr (fun _ v vs => v :: vs) [] = m.toList.map (·.2)
  rw [Std.ExtTreeMap.foldr_eq_foldr_toList, List.map_eq_foldr]

theorem mem_values {β : Type} {m : IdMap β} {v : β} : v ∈ m.values ↔ ∃ i : Id, m[i]? = some v := by
  rw [values_eq, List.mem_map]
  simp only [Prod.exists, exists_eq_right, Std.ExtTreeMap.mem_toList_iff_getElem?_eq_some]

/-- Elements that are put under their keys one after another stand there in the order given. -/
theorem getD_foldl_group {α : Type} (key : α → Id) (as : List α) (m : IdMap (List α)) (k : Id) :
    (as.foldl (fun m a => m.alter (key a) fun l => some (l.getD [] ++ [a])) m).getD k [] =
      m.getD k [] ++ as.filter (key · == k) := by
  induction as generalizing m with
  | nil => simp
  | cons a as ih =>
    rw [List.foldl_cons, ih, Std.ExtTreeMap.getD_alter]
    by_cases own : key a = k
    · subst own
      simp [Std.ExtTreeMap.getD_eq_getD_getElem?]
    · simp [own]

end IdMap

namespace Snapshot

/-- The graph of a snapshot, without progress. -/
def graph (s : Snapshot) : Snapshot := { s with progress := .empty }

theorem ext_graph {s t : Snapshot} (hg : s.graph = t.graph) (hp : s.progress = t.progress) :
    s = t := by
  cases s
  cases t
  simp_all [graph]

/-- The ids of the arrows into a rule; none where no arrow leads into it. -/
def ruleArrows (s : Snapshot) (rule : Id) : IdSet := (s.ruleArrows? rule).getD ∅

section Graph

variable {s t : Snapshot} (h : s.graph = t.graph)
include h

theorem outgoing_eq_of_graph (n : Id) : s.outgoing n = t.outgoing n :=
  congrArg (·.outgoing n) h

theorem ruleArrows_eq_of_graph (r : Id) : s.ruleArrows r = t.ruleArrows r :=
  congrArg (·.ruleArrows r) h

theorem rules_eq_of_graph : s.rules = t.rules := congrArg (·.rules) h

theorem map_eq_of_graph : s.map = t.map := congrArg (·.map) h

end Graph

/-- Of two rules with one id the later one is kept. -/
theorem getElem?_foldl_insert (m : IdMap Rule) (rs : List Rule) (i : Id) :
    (rs.foldl (fun m r => m.insert r.id r) m)[i]? =
      (rs.reverse.find? (·.id == i)).or m[i]? := by
  induction rs generalizing m with
  | nil => simp
  | cons r rs ih =>
    rw [List.foldl_cons, ih, List.reverse_cons, List.find?_append, Option.or_assoc]
    congr 1
    by_cases h : r.id = i <;> simp [Std.ExtTreeMap.getElem?_insert, h]

theorem getElem?_indexRules (rs : List Rule) (i : Id) :
    (indexRules rs)[i]? = rs.reverse.find? (·.id == i) := by
  rw [indexRules, getElem?_foldl_insert]
  simp

theorem mem_of_getElem?_indexRules {rs : List Rule} {i : Id} {r : Rule}
    (h : (indexRules rs)[i]? = some r) : r ∈ rs ∧ r.id = i := by
  rw [getElem?_indexRules] at h
  exact ⟨List.mem_reverse.mp (List.mem_of_find?_eq_some h), by simpa using List.find?_some h⟩

theorem getElem?_indexRules_eq_some_iff {rs : List Rule} (distinct : (rs.map (·.id)).Nodup)
    {i : Id} {r : Rule} : (indexRules rs)[i]? = some r ↔ r ∈ rs ∧ r.id = i := by
  refine ⟨mem_of_getElem?_indexRules, fun ⟨hr, hi⟩ => ?_⟩
  cases hf : (indexRules rs)[i]? with
  | none =>
    rw [getElem?_indexRules, List.find?_eq_none] at hf
    exact absurd hi (by simpa using hf r (List.mem_reverse.mpr hr))
  | some q =>
    obtain ⟨hq, hqi⟩ := mem_of_getElem?_indexRules hf
    exact congrArg some (List.inj_on_of_nodup_map distinct hq hr (hqi.trans hi.symm))

/-- The arrows of a snapshot are those that leave its nodes. -/
theorem mem_arrows {s : Snapshot} {a : Arrow} : a ∈ s.arrows ↔ ∃ n, a ∈ s.outgoing n := by
  simp only [arrows, outgoing, List.mem_flatten, IdMap.mem_values,
    Std.ExtTreeMap.getD_eq_getD_getElem?]
  constructor
  · rintro ⟨leaving, ⟨n, found⟩, ha⟩
    exact ⟨n, by rwa [found]⟩
  · rintro ⟨n, ha⟩
    cases found : s.arrowsFrom[n]? with
    | none => simp [found] at ha
    | some leaving => exact ⟨leaving, ⟨n, found⟩, by rwa [found] at ha⟩

theorem outgoing_addArrow (s : Snapshot) (a : Arrow) (n : Id) :
    (s.addArrow a).outgoing n = s.outgoing n ++ [a].filter (·.start == n) := by
  unfold outgoing addArrow
  rw [Std.ExtTreeMap.getD_alter]
  by_cases h : a.start = n
  · subst h
    simp [Std.ExtTreeMap.getD_eq_getD_getElem?]
  · simp [h]

theorem mem_ruleArrows_addArrow (s : Snapshot) (a : Arrow) (r i : Id) :
    i ∈ (s.addArrow a).ruleArrows r ↔ i ∈ s.ruleArrows r ∨ a.rule = r ∧ a.id = i := by
  unfold ruleArrows ruleArrows? addArrow
  rw [Std.ExtTreeMap.getElem?_alter]
  by_cases h : a.rule = r
  · subst h
    simp [or_comm]
  · simp [h]

theorem outgoing_foldl_addArrow (s : Snapshot) (as : List Arrow) (n : Id) :
    (as.foldl addArrow s).outgoing n = s.outgoing n ++ as.filter (·.start == n) := by
  induction as generalizing s with
  | nil => simp
  | cons a as ih =>
    rw [List.foldl_cons, ih, outgoing_addArrow, List.append_assoc, ← List.filter_append,
      List.singleton_append]

theorem mem_ruleArrows_foldl_addArrow (s : Snapshot) (as : List Arrow) (r i : Id) :
    i ∈ (as.foldl addArrow s).ruleArrows r ↔
      i ∈ s.ruleArrows r ∨ ∃ a ∈ as, a.rule = r ∧ a.id = i := by
  induction as generalizing s with
  | nil => simp
  | cons a as ih =>
    rw [List.foldl_cons, ih, mem_ruleArrows_addArrow, or_assoc]
    simp only [List.mem_cons, exists_eq_or_imp]

theorem foldl_addArrow_rest (s : Snapshot) (as : List Arrow) :
    (as.foldl addArrow s).map = s.map ∧ (as.foldl addArrow s).rules = s.rules ∧
      (as.foldl addArrow s).rulesFor = s.rulesFor ∧
      (as.foldl addArrow s).progress = s.progress := by
  induction as generalizing s with
  | nil => simp
  | cons a as ih =>
    rw [List.foldl_cons]
    exact ih (s.addArrow a)

theorem graph_foldl_addArrow (s : Snapshot) (as : List Arrow) :
    (as.foldl addArrow s).graph = as.foldl addArrow s.graph := by
  induction as generalizing s with
  | nil => rfl
  | cons a as ih =>
    rw [List.foldl_cons, List.foldl_cons, ih]
    rfl

section Build

variable (map : Id) (arrows : List Arrow) (rules : List Rule) (resolved : List Id)
  (completed : List (Id × Id))

def ownArrows : List Arrow :=
  (arrows.filter (·.map == map)).mergeSort fun a b => a.id ≤ b.id

variable {map arrows} in
theorem mem_ownArrows {a : Arrow} : a ∈ ownArrows map arrows ↔ a ∈ arrows ∧ a.map = map := by
  simp [ownArrows]

theorem outgoing_build (n : Id) :
    (build map arrows rules resolved completed).outgoing n =
      (ownArrows map arrows).filter (·.start == n) := by
  rw [build, outgoing_foldl_addArrow]
  simp [outgoing, empty, ownArrows]

variable {map arrows rules resolved completed}

theorem mem_outgoing_build {n : Id} {a : Arrow} :
    a ∈ (build map arrows rules resolved completed).outgoing n ↔
      a ∈ arrows ∧ a.map = map ∧ a.start = n := by
  rw [outgoing_build, List.mem_filter, mem_ownArrows]
  simp [and_assoc]

theorem mem_ruleArrows_build {r i : Id} :
    i ∈ (build map arrows rules resolved completed).ruleArrows r ↔
      ∃ a ∈ arrows, a.map = map ∧ a.rule = r ∧ a.id = i := by
  rw [build, mem_ruleArrows_foldl_addArrow]
  simp [ruleArrows, ruleArrows?, empty, and_assoc]

@[simp] theorem map_build : (build map arrows rules resolved completed).map = map :=
  (foldl_addArrow_rest _ _).1

@[simp] theorem rules_build :
    (build map arrows rules resolved completed).rules =
      indexRules (rules.filter (·.map == map)) :=
  (foldl_addArrow_rest _ _).2.1

@[simp] theorem progress_build :
    (build map arrows rules resolved completed).progress =
      { arrows := .ofList resolved
        nodes := .ofList (completed.map (·.1))
        rules := .ofList (completed.map (·.2)) } :=
  (foldl_addArrow_rest _ _).2.2.2

theorem graph_build_congr (resolved' : List Id) (completed' : List (Id × Id)) :
    (build map arrows rules resolved completed).graph =
      (build map arrows rules resolved' completed').graph := by
  unfold build
  rw [graph_foldl_addArrow, graph_foldl_addArrow]
  rfl

end Build

/-- Every rule stands under its own id. -/
def RulesKeyed (s : Snapshot) : Prop := ∀ (i : Id) (r : Rule), s.rules[i]? = some r → r.id = i

/-- The indexes of a snapshot describe one graph, in which an id names one arrow. -/
structure WellFormed (s : Snapshot) : Prop where
  id_of_rule : ∀ {i : Id} {r : Rule}, s.rules[i]? = some r → r.id = i
  start_of_outgoing : ∀ {n : Id} {a : Arrow}, a ∈ s.outgoing n → a.start = n
  map_of_outgoing : ∀ {n : Id} {a : Arrow}, a ∈ s.outgoing n → a.map = s.map
  nodup_outgoing : ∀ n, (s.outgoing n).Nodup
  mem_ruleArrows : ∀ {r i : Id},
    i ∈ s.ruleArrows r ↔ ∃ n, ∃ a ∈ s.outgoing n, a.rule = r ∧ a.id = i
  eq_of_id : ∀ {n m : Id} {a b : Arrow},
    a ∈ s.outgoing n → b ∈ s.outgoing m → a.id = b.id → a = b

namespace WellFormed

variable {s : Snapshot}

theorem rulesKeyed (wf : s.WellFormed) : s.RulesKeyed := fun _ _ => wf.id_of_rule

theorem rule_of_mem_ruleArrows (wf : s.WellFormed) {n r : Id} {a : Arrow} (ha : a ∈ s.outgoing n)
    (hr : a.id ∈ s.ruleArrows r) : a.rule = r := by
  obtain ⟨m, b, hb, rfl, hid⟩ := wf.mem_ruleArrows.mp hr
  rw [wf.eq_of_id ha hb hid.symm]

theorem of_graph {t : Snapshot} (wf : s.WellFormed) (h : t.graph = s.graph) : t.WellFormed where
  id_of_rule hr := wf.id_of_rule (rules_eq_of_graph h ▸ hr)
  start_of_outgoing ha := wf.start_of_outgoing (outgoing_eq_of_graph h _ ▸ ha)
  map_of_outgoing ha := map_eq_of_graph h ▸ wf.map_of_outgoing (outgoing_eq_of_graph h _ ▸ ha)
  nodup_outgoing n := outgoing_eq_of_graph h n ▸ wf.nodup_outgoing n
  mem_ruleArrows := by
    intro r i
    rw [ruleArrows_eq_of_graph h]
    simpa only [outgoing_eq_of_graph h] using wf.mem_ruleArrows
  eq_of_id ha hb :=
    wf.eq_of_id (outgoing_eq_of_graph h _ ▸ ha) (outgoing_eq_of_graph h _ ▸ hb)

end WellFormed

/-- Arrows without a common id give a well-formed snapshot, whatever the rules and the progress. -/
theorem build_wellFormed (map : Id) {arrows : List Arrow} (rules : List Rule) (resolved : List Id)
    (completed : List (Id × Id)) (distinct : (arrows.map (·.id)).Nodup) :
    (build map arrows rules resolved completed).WellFormed where
  id_of_rule hr := by
    rw [rules_build] at hr
    exact (mem_of_getElem?_indexRules hr).2
  start_of_outgoing ha := (mem_outgoing_build.mp ha).2.2
  map_of_outgoing ha := by
    rw [map_build]
    exact (mem_outgoing_build.mp ha).2.1
  nodup_outgoing n := by
    rw [outgoing_build, ownArrows]
    apply List.Nodup.filter
    rw [(List.mergeSort_perm _ _).nodup_iff]
    exact distinct.of_map.filter _
  mem_ruleArrows := by
    intro r i
    simp only [mem_ruleArrows_build, mem_outgoing_build]
    constructor
    · rintro ⟨a, ha, hm, hr, hi⟩
      exact ⟨a.start, a, ⟨ha, hm, rfl⟩, hr, hi⟩
    · rintro ⟨n, a, ⟨ha, hm, -⟩, hr, hi⟩
      exact ⟨a, ha, hm, hr, hi⟩
  eq_of_id ha hb hid :=
    List.inj_on_of_nodup_map distinct (mem_outgoing_build.mp ha).1 (mem_outgoing_build.mp hb).1 hid

end Snapshot

end LearningMap
