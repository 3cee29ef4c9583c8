import LearningMap.Graph.Snapshot

/-!
# Prerequisites of an answer

A question sits on an arrow. Before it may be answered, every node from which an arrow leads into
the arrow's start node has to be completed.
-/

namespace LearningMap

/-- The start nodes of the arrows into a node that are not completed; self-loops ask for nothing. -/
def missingPrerequisites (node : Id) (arrows : List Arrow) (done : IdSet) : IdSet :=
  .ofList <| (arrows.filter fun a => a.target = node ∧ ¬a.isSelfLoop ∧ a.start ∉ done).map (·.start)

theorem mem_missingPrerequisites {node : Id} {arrows : List Arrow} {done : IdSet} {n : Id} :
    n ∈ missingPrerequisites node arrows done ↔
      ∃ a ∈ arrows, a.target = node ∧ a.start ≠ a.target ∧ a.start ∉ done ∧ a.start = n := by
  simp [missingPrerequisites, Arrow.isSelfLoop, and_assoc]

end LearningMap
