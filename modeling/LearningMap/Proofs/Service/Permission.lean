import LearningMap.Proofs.Service.Effect
import LearningMap.Proofs.Service.Openness

/-!
# Who may answer

Whether a submission is refused for missing prerequisites is told by the rows alone: the first live
arrow of the question, the live arrows into its start node and the history of its map. Its body has no
say in that, nor in a refusal of the seat. As calls leave the graph alone and only add history, what a
scope may answer once it may answer from then on.
-/

namespace LearningMap

namespace Tables

structure DistinctGraph (t : Tables) : Prop where
  questions : (t.questions.map (·.id)).Nodup
  arrows : (t.arrows.map (·.id)).Nodup
  rules : (t.rules.map (·.id)).Nodup
  nodes : (t.nodes.map (·.id)).Nodup

/-- The live arrow that a question sits on; of several, the one with the lowest identifier. -/
structure SitsOn (t : Tables) (question : Id) (a : Row.Arrow) : Prop where
  stored : a ∈ t.arrows
  asked : a.question = some question
  live : a.deletedAt = none
  first : ∀ o ∈ t.arrows, o.question = some question → o.deletedAt = none → a.id ≤ o.id

/-- A scope has to complete a node before an arrow can be answered: a live arrow under a live rule,
not a self-loop, leads from the node into the start node of that arrow, and no history on the map of
the arrow tells the scope that the node is completed. -/
structure Awaits (t : Tables) (scope : Scope) (a : Row.Arrow) (node : Id) : Prop where
  feeds : ∃ b ∈ t.arrows, b.deletedAt = none ∧ b.start = node ∧ ∃ q ∈ t.rules, q.deletedAt = none ∧
    q.id = b.rule ∧ q.node = a.start ∧ b.start ≠ q.node
  uncompleted : ¬ ∃ r ∈ t.histories, r.map = a.map ∧ t.visible scope r.member r.seat = true ∧
    r.node = node

variable {t t' : Tables} {scope other : Scope} {a : Row.Arrow}

theorem SitsOn.unique (distinct : (t.arrows.map (·.id)).Nodup) {question : Id} {b : Row.Arrow}
    (h : t.SitsOn question a) (h' : t.SitsOn question b) : a = b := by
  have le := h.first b h'.stored h'.asked h'.live
  have ge := h'.first a h.stored h.asked h.live
  exact List.inj_on_of_nodup_map distinct h.stored h'.stored (Int.le_antisymm le ge)

theorem arrowOf?_eq_some_iff (distinct : (t.arrows.map (·.id)).Nodup) {question : Id} :
    t.arrowOf? question = some a ↔ t.SitsOn question a := by
  have among : ∀ o, o ∈ t.arrows.filter (fun r => r.question == some question && r.deletedAt.isNone) ↔
      o ∈ t.arrows ∧ o.question = some question ∧ o.deletedAt = none := by
    intro o
    rw [List.mem_filter, Bool.and_eq_true, beq_iff_eq, Option.isNone_iff_eq_none]
  have first : ∀ b, t.arrowOf? question = some b → t.SitsOn question b := by
    intro b found
    obtain ⟨stored, question, live⟩ := mem_of_arrowOf? found
    refine ⟨stored, question, live, fun o ho asked live => ?_⟩
    exact id_le_of_head?_byId found o ((among o).mpr ⟨ho, asked, live⟩)
  refine ⟨first a, fun sits => ?_⟩
  have listed : a ∈ byId (t.arrows.filter fun r => r.question == some question && r.deletedAt.isNone) :=
    mem_byId.mpr ((among a).mpr ⟨sits.stored, sits.asked, sits.live⟩)
  obtain ⟨b, found⟩ := Option.isSome_iff_exists.mp
    (List.isSome_head?.mpr (List.ne_nil_of_mem listed))
  rw [SitsOn.unique distinct sits (first b found)]
  exact found

theorem feeds_iff (distinct : (t.rules.map (·.id)).Nodup) {feeder node : Id} :
    t.Feeds feeder node ↔ ∃ b ∈ t.arrows, b.deletedAt = none ∧ b.start = feeder ∧
      ∃ q ∈ t.rules, q.deletedAt = none ∧ q.id = b.rule ∧ q.node = node ∧ b.start ≠ q.node := by
  constructor
  · rintro ⟨e, he, rfl, rfl, differ⟩
    obtain ⟨b, hb, live, q, hq, rfl⟩ := mem_edges.mp he
    obtain ⟨hq, rule_live, rule⟩ := (ruleOf?_eq_some_iff distinct).mp hq
    exact ⟨b, hb, live, rfl, q, hq, rule_live, rule, rfl, differ⟩
  · rintro ⟨b, hb, live, rfl, q, hq, rule_live, rule, rfl, differ⟩
    have rule_of : t.ruleOf? b = some q := (ruleOf?_eq_some_iff distinct).mpr ⟨hq, rule_live, rule⟩
    exact ⟨_, mem_edges.mpr ⟨b, hb, live, q, rule_of, rfl⟩, rfl, rfl, differ⟩

theorem mem_missingFor_iff_awaits (distinct : (t.rules.map (·.id)).Nodup) {node : Id} :
    node ∈ Action.missingFor t a scope ↔ t.Awaits scope a node := by
  have completed : node ∈ t.completedNodes a.map scope ↔ ∃ r ∈ t.histories, r.map = a.map ∧
      t.visible scope r.member r.seat = true ∧ r.node = node := by
    simp only [completedNodes, completedRows, IdSet.mem_ofList, List.mem_map, List.mem_filter,
      Bool.and_eq_true, beq_iff_eq, and_assoc]
  rw [mem_missingFor, feeds_iff distinct, completed]
  exact ⟨fun h => ⟨h.1, h.2⟩, fun h => ⟨h.feeds, h.uncompleted⟩⟩

theorem Gains.awaits (gains : t.Gains t') (shares : other.Shares scope) {node : Id}
    (awaits : t'.Awaits other a node) : t.Awaits scope a node := by
  obtain ⟨ps, hs, _, _, rfl⟩ := gains
  refine ⟨awaits.feeds, fun completed => awaits.uncompleted ?_⟩
  obtain ⟨r, hr, map, seen, completes⟩ := completed
  exact ⟨r, List.mem_append_left _ hr, map, (visible_congr shares _ _).trans seen, completes⟩

theorem Gains.sitsOn_iff (gains : t.Gains t') {question : Id} :
    t'.SitsOn question a ↔ t.SitsOn question a := by
  obtain ⟨ps, hs, _, _, rfl⟩ := gains
  exact ⟨fun h => ⟨h.stored, h.asked, h.live, h.first⟩,
    fun h => ⟨h.stored, h.asked, h.live, h.first⟩⟩

theorem Gains.distinctGraph (gains : t.Gains t') (h : t.DistinctGraph) : t'.DistinctGraph := by
  obtain ⟨ps, hs, _, _, rfl⟩ := gains
  exact ⟨h.questions, h.arrows, h.rules, h.nodes⟩

end Tables

namespace Action

variable {s s' : Store} {now : Timestamp} {member : Id} {q : Row.Question} {rules : QuestionRules}
  {seat : Option Id} {scope other : Scope} {a : Row.Arrow}

/-- The nodes to be completed, as far as they are live, in the order of their identifiers. -/
def awaitedNodes (t : Tables) (a : Row.Arrow) (scope : Scope) : List Row.Node :=
  t.nodesAmong (missingFor t a scope).toList

theorem mem_awaitedNodes {t : Tables} (distinct : (t.rules.map (·.id)).Nodup) {n : Row.Node} :
    n ∈ awaitedNodes t a scope ↔ n ∈ t.nodes ∧ n.deletedAt = none ∧ t.Awaits scope a n.id := by
  simp only [awaitedNodes, Tables.nodesAmong, Tables.mem_byId, List.mem_filter, Bool.and_eq_true,
    List.contains_iff_mem, Std.ExtTreeSet.mem_toList, Option.isNone_iff_eq_none,
    Tables.mem_missingFor_iff_awaits distinct]
  exact and_congr_right fun _ => and_comm

theorem awaitedNodes_ascending {t : Tables} (distinct : (t.nodes.map (·.id)).Nodup) :
    (awaitedNodes t a scope).Pairwise (·.id < ·.id) :=
  Tables.byId_strictly_ascending ((List.filter_sublist.map _).nodup distinct)

/-- A submission is refused because nodes have to be completed first; the refusal names them. -/
def Hindered (s : Store) (now : Timestamp) (member question : Id) (sub : Submission)
    (names : List String) : Prop :=
  (submit now member question sub s).1 = .error (.refused (.prerequisitesIncomplete names))

theorem checkPrerequisites_of_missing (missing : (missingFor s.tables a scope).isEmpty = false) :
    checkPrerequisites (some a) scope s = (.error (.refused (.prerequisitesIncomplete
      ((awaitedNodes s.tables a scope).map (·.name)))), s) := by
  change (query (missingFor · a scope) >>= _) s = _
  rw [bind_of_ok (yields_query.mpr ⟨rfl, rfl⟩), missing]
  rfl

theorem resolveScope_of_gains (gains : s.tables.Gains s'.tables) {map : Id}
    (done : (resolveScope member map seat).Yields s' scope s') :
    (resolveScope member map seat).Yields s scope s := by
  obtain ⟨_, _, _, _, tables⟩ := gains
  have seating : s'.tables.seating? = s.tables.seating? := by
    rw [tables]
    rfl
  rcases yields_resolveScope done with ⟨rfl, rfl⟩ | ⟨id, found, rfl, hfound, own, active, here, rfl⟩
  · exact yields_pure.mpr ⟨rfl, rfl⟩
  · rw [seating] at hfound
    apply yields_query_bind.mpr
    apply yields_orRefuse_bind.mpr
    refine ⟨found, hfound, ?_⟩
    rw [if_neg (not_not.mpr own), if_neg active, if_neg (not_not.mpr here)]
    exact yields_pure.mpr ⟨rfl, rfl⟩

section Submit

variable (hq : s.tables.question? q.id = some q)
  (columns : QuestionRules.ofColumns q.bypass q.types q.strategy = .ok rules)
include hq columns

theorem submit_of_missing (acting : (resolveScope member q.map seat).Yields s scope s)
    (sits : s.tables.arrowOf? q.id = some a)
    (missing : (missingFor s.tables a scope).isEmpty = false) (now : Timestamp)
    (text : Option String) (files : List FileReference) :
    submit now member q.id ⟨text, files, seat⟩ s = (.error (.refused (.prerequisitesIncomplete
      ((awaitedNodes s.tables a scope).map (·.name)))), s) := by
  unfold submit
  rw [bind_of_ok (yields_query.mpr ⟨hq, rfl⟩), bind_of_ok (yields_orRefuse.mpr ⟨rfl, rfl⟩),
    bind_of_ok (yields_orFail columns), bind_of_ok acting, bind_of_ok (yields_query.mpr ⟨sits, rfl⟩)]
  exact bind_of_error (checkPrerequisites_of_missing missing)

omit columns in
/-- What is known of a hindered submission: the scope that it acts in and the arrow of its question,
before which a node is missing. -/
theorem Hindered.missing {text : Option String} {files : List FileReference} {names : List String}
    (hindered : Hindered s now member q.id ⟨text, files, seat⟩ names) :
    ∃ scope, (resolveScope member q.map seat).Yields s scope s ∧
      ∃ a, s.tables.arrowOf? q.id = some a ∧ (missingFor s.tables a scope).isEmpty = false := by
  rcases failed : submit now member q.id ⟨text, files, seat⟩ s with ⟨e | o, s'⟩
  · rw [Hindered, failed] at hindered
    obtain rfl := Except.error.inj hindered
    obtain ⟨q', hq', missing⟩ := missing_of_error_submit failed rfl
    obtain rfl := Option.some.inj (hq.symm.trans hq')
    exact missing
  · rw [Hindered, failed] at hindered
    cases hindered

theorem hindered_iff (distinct : s.tables.DistinctGraph)
    (acting : (resolveScope member q.map seat).Yields s scope s) {text : Option String}
    {files : List FileReference} {names : List String} :
    Hindered s now member q.id ⟨text, files, seat⟩ names ↔
      ∃ a, s.tables.SitsOn q.id a ∧ (∃ n, s.tables.Awaits scope a n) ∧
        names = (awaitedNodes s.tables a scope).map (·.name) := by
  have missing_iff : ∀ a, (missingFor s.tables a scope).isEmpty = false ↔
      ∃ n, s.tables.Awaits scope a n := by
    intro a
    rw [IdSet.isEmpty_eq_false_iff_exists]
    exact exists_congr fun n => Tables.mem_missingFor_iff_awaits distinct.rules
  constructor
  · intro hindered
    obtain ⟨scope', acting', a, sits, missing⟩ := hindered.missing hq
    obtain rfl := acting.value_eq acting'
    have named := hindered
    rw [Hindered, submit_of_missing hq columns acting sits missing] at named
    simp only [Except.error.injEq, Failure.refused.injEq, Refusal.prerequisitesIncomplete.injEq]
      at named
    exact ⟨a, (Tables.arrowOf?_eq_some_iff distinct.arrows).mp sits, (missing_iff a).mp missing,
      named.symm⟩
  · rintro ⟨a, sits, awaits, rfl⟩
    rw [Hindered, submit_of_missing hq columns acting
      ((Tables.arrowOf?_eq_some_iff distinct.arrows).mpr sits) ((missing_iff a).mpr awaits)]

section Refused

variable (distinct : s.tables.DistinctGraph) (acting : (resolveScope member q.map seat).Yields s scope s)
  {text : Option String} {files : List FileReference} {names : List String}
include distinct acting

theorem Hindered.named (hindered : Hindered s now member q.id ⟨text, files, seat⟩ names)
    (sits : s.tables.SitsOn q.id a) :
    ∃ ns : List Row.Node, names = ns.map (·.name) ∧ ns.Pairwise (·.id < ·.id) ∧
      ∀ n, n ∈ ns ↔ n ∈ s.tables.nodes ∧ n.deletedAt = none ∧ s.tables.Awaits scope a n.id := by
  obtain ⟨b, sits', -, rfl⟩ := (hindered_iff hq columns distinct acting).mp hindered
  obtain rfl := sits.unique distinct.arrows sits'
  refine ⟨awaitedNodes s.tables a scope, rfl, awaitedNodes_ascending distinct.nodes, ?_⟩
  intro n
  exact mem_awaitedNodes distinct.rules

theorem Hindered.again (hindered : Hindered s now member q.id ⟨text, files, seat⟩ names)
    (now' : Timestamp) (text' : Option String) (files' : List FileReference) :
    submit now' member q.id ⟨text', files', seat⟩ s =
      (.error (.refused (.prerequisitesIncomplete names)), s) := by
  obtain ⟨a, sits, ⟨n, awaits⟩, rfl⟩ := (hindered_iff hq columns distinct acting).mp hindered
  apply submit_of_missing hq columns acting ((Tables.arrowOf?_eq_some_iff distinct.arrows).mpr sits)
  rw [IdSet.isEmpty_eq_false_iff_exists]
  exact ⟨n, (Tables.mem_missingFor_iff_awaits distinct.rules).mpr awaits⟩

theorem Hindered.before (shares : scope.Shares other) {calls : List Call}
    (hindered : Hindered (s.after calls) now member q.id ⟨text, files, seat⟩ names) :
    ∃ a, s.tables.SitsOn q.id a ∧ ∃ n, s.tables.Awaits other a n := by
  have gains := s.gains_after calls
  have hq' : (s.after calls).tables.question? q.id = some q := by
    obtain ⟨_, _, _, _, tables⟩ := gains
    rw [tables]
    exact hq
  obtain ⟨scope', acting', -⟩ := hindered.missing hq'
  obtain rfl := acting.value_eq (resolveScope_of_gains gains acting')
  obtain ⟨a, sits, ⟨n, awaits⟩, -⟩ :=
    (hindered_iff hq' columns (gains.distinctGraph distinct) acting').mp hindered
  exact ⟨a, gains.sitsOn_iff.mp sits, n, gains.awaits shares awaits⟩

end Refused

end Submit

/-- The permission to answer, for a live question whose columns can be read. A refusal of the seat
does not depend on the body. From a seat that is not refused, a submission is hindered exactly if the
question sits on an arrow that awaits a node; the refusal names the live ones among these nodes, each
once and by their identifiers, and does not depend on the body either. Whoever is not hindered is not
hindered after any run of calls, and nor is anyone who shares progress. -/
theorem submit_decides_permission (distinct : s.tables.DistinctGraph) (hq : q ∈ s.tables.questions)
    (live : q.deletedAt = none)
    (columns : QuestionRules.ofColumns q.bypass q.types q.strategy = .ok rules) :
    (∀ {e s'}, resolveScope member q.map seat s = (.error e, s') →
      ∀ now text files, submit now member q.id ⟨text, files, seat⟩ s = (.error e, s)) ∧
    ∀ {scope}, (resolveScope member q.map seat).Yields s scope s → ∀ now text files,
      ((∃ names, Hindered s now member q.id ⟨text, files, seat⟩ names) ↔
        ∃ a, s.tables.SitsOn q.id a ∧ ∃ n, s.tables.Awaits scope a n) ∧
      (∀ names, Hindered s now member q.id ⟨text, files, seat⟩ names →
        (∀ a, s.tables.SitsOn q.id a →
          ∃ ns : List Row.Node, names = ns.map (·.name) ∧ ns.Pairwise (·.id < ·.id) ∧
            ∀ n, n ∈ ns ↔ n ∈ s.tables.nodes ∧ n.deletedAt = none ∧ s.tables.Awaits scope a n.id) ∧
        ∀ now' text' files', submit now' member q.id ⟨text', files', seat⟩ s =
          (.error (.refused (.prerequisitesIncomplete names)), s)) ∧
      ((∀ names, ¬ Hindered s now member q.id ⟨text, files, seat⟩ names) →
        ∀ {member' seat' other}, (resolveScope member' q.map seat').Yields s other s →
          other.Shares scope → ∀ calls now' text' files' names,
            ¬ Hindered (s.after calls) now' member' q.id ⟨text', files', seat'⟩ names) := by
  have found : s.tables.question? q.id = some q :=
    (Tables.question?_eq_some_iff distinct.questions).mpr ⟨hq, rfl, live⟩
  refine ⟨fun refused now text files => submit_of_error_resolveScope found columns refused now, ?_⟩
  intro scope acting now text files
  have hindered : ∀ {names}, Hindered s now member q.id ⟨text, files, seat⟩ names ↔ _ :=
    hindered_iff found columns distinct acting
  refine ⟨?decides, ?names, ?stays⟩
  case decides =>
    constructor
    · rintro ⟨names, refused⟩
      obtain ⟨a, sits, awaits, -⟩ := hindered.mp refused
      exact ⟨a, sits, awaits⟩
    · rintro ⟨a, sits, awaits⟩
      exact ⟨_, hindered.mpr ⟨a, sits, awaits, rfl⟩⟩
  case names =>
    intro names refused
    exact ⟨fun a sits => refused.named found columns distinct acting sits,
      refused.again found columns distinct acting⟩
  case stays =>
    intro permitted member' seat' other acting' shares calls now' text' files' names refused
    obtain ⟨a, sits, awaits⟩ := refused.before found columns distinct acting' shares
    exact permitted _ (hindered.mpr ⟨a, sits, awaits, rfl⟩)

end Action

/-- Two arrows from node 1 lead into node 3, one from the deleted node 2, and one from node 3 itself.
Question 1 sits on the arrow from node 3 to node 4, question 2 on one of the arrows from node 1. -/
def sluice : Store where
  tables :=
    { members := [⟨1, "ada", none, true, default⟩]
      maps := [⟨1, "Map", false, 1, none, default⟩]
      nodes := [⟨3, 1, "C", "", "", true, none, default⟩, ⟨1, 1, "A", "", "", true, none, default⟩,
        ⟨2, 1, "B", "", "", true, some default, default⟩, ⟨4, 1, "D", "", "", true, none, default⟩]
      rules := [⟨1, 1, 3, "", none, default⟩, ⟨2, 1, 3, "", none, default⟩,
        ⟨3, 1, 4, "", none, default⟩]
      questions := [⟨1, 1, "Q", "", ["file"], "manual", true, none, none, none, default⟩,
        ⟨2, 1, "Q", "", ["file"], "manual", true, none, none, none, default⟩]
      arrows := [⟨1, 1, 1, 1, some 2, none, default⟩, ⟨2, 1, 2, 1, none, none, default⟩,
        ⟨3, 1, 1, 2, none, none, default⟩, ⟨4, 1, 3, 2, none, none, default⟩,
        ⟨5, 1, 3, 3, some 1, none, default⟩] }
  last := fun _ => 5

def sluiceQuestion (id : Id) : Row.Question :=
  ⟨id, 1, "Q", "", ["file"], "manual", true, none, none, none, default⟩

/-- Question 1 waits for node 1, named once, whatever the answer is. Question 2 waits for nothing, now
and after any calls, and a seat that is not there is refused. -/
theorem submit_decides_permission_at_sluice :
    sluice.tables.DistinctGraph ∧ sluiceQuestion 1 ∈ sluice.tables.questions ∧
      sluiceQuestion 2 ∈ sluice.tables.questions ∧
      (∃ rules, QuestionRules.ofColumns true ["file"] "manual" = .ok rules) ∧
      (Action.resolveScope 1 1 none).Yields sluice (.solo 1) sluice ∧
      Action.Hindered sluice default 1 1 ⟨none, [], none⟩ ["A"] ∧
      (∃ a, sluice.tables.SitsOn 1 a ∧ ∃ n, sluice.tables.Awaits (.solo 1) a n) ∧
      (∀ text files, Action.submit default 1 1 ⟨text, files, none⟩ sluice =
        (.error (.refused (.prerequisitesIncomplete ["A"])), sluice)) ∧
      (∀ text files, Action.submit default 1 1 ⟨text, files, some 9⟩ sluice =
        (.error (.refused (.notFound "MapPlayMember" 9)), sluice)) ∧
      ∀ calls text files names,
        ¬ Action.Hindered (sluice.after calls) default 1 2 ⟨text, files, none⟩ names := by
  have distinct : sluice.tables.DistinctGraph := ⟨by decide, by decide, by decide, by decide⟩
  have first : sluiceQuestion 1 ∈ sluice.tables.questions := by decide
  have second : sluiceQuestion 2 ∈ sluice.tables.questions := by decide
  have acting : (Action.resolveScope 1 1 none).Yields sluice (.solo 1) sluice := rfl
  obtain ⟨rules, columns⟩ : ∃ rules, QuestionRules.ofColumns true ["file"] "manual" = .ok rules :=
    ⟨_, rfl⟩
  have hindered : Action.Hindered sluice default 1 1 ⟨none, [], none⟩ ["A"] := by
    unfold Action.Hindered
    cbv
  have no_seat : Action.resolveScope 1 1 (some 9) sluice =
    (.error (.refused (.notFound "MapPlayMember" 9)), sluice) := rfl
  obtain ⟨decides, names, -⟩ := (Action.submit_decides_permission distinct first rfl columns).2 acting
    default none []
  obtain ⟨-, -, stays⟩ := (Action.submit_decides_permission distinct second rfl columns).2 acting
    default none [⟨"a", "f"⟩]
  refine ⟨distinct, first, second, ⟨rules, columns⟩, acting, hindered, ?_, ?_, ?_, ?_⟩
  · exact decides.mp ⟨["A"], hindered⟩
  · exact (names ["A"] hindered).2 default
  · exact (Action.submit_decides_permission distinct first rfl columns).1 no_seat default
  · have permitted : ∀ names, ¬ Action.Hindered sluice default 1 2 ⟨none, [⟨"a", "f"⟩], none⟩
        names := by
      intro names refused
      have accepted : (Action.submit default 1 2 ⟨none, [⟨"a", "f"⟩], none⟩ sluice).1.isOk = true := by
        cbv
      unfold Action.Hindered at refused
      rw [refused] at accepted
      cases accepted
    intro calls text files names
    exact stays permitted acting (.refl _) calls default text files names

end LearningMap
