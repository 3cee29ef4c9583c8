import LearningMap.Graph.Snapshot

/-!
# Nodes that just gained progress

After a completion, the nodes one arrow further on are announced. Their rules need not be satisfied;
an arrow into them now starts at a completed node.
-/

namespace LearningMap

/-- The targets of the arrows that leave some given nodes, less self-loops and less the nodes that
are completed already. -/
def activatable (arrows : List Arrow) (origins : List Id) (done : IdSet) : IdSet :=
  .ofList <| (arrows.filter fun a => a.start ∈ origins ∧ ¬a.isSelfLoop ∧ a.target ∉ done).map
    (·.target)

theorem mem_activatable {arrows : List Arrow} {origins : List Id} {done : IdSet} {n : Id} :
    n ∈ activatable arrows origins done ↔
      ∃ a ∈ arrows, a.start ∈ origins ∧ a.start ≠ a.target ∧ a.target ∉ done ∧ a.target = n := by
  simp [activatable, Arrow.isSelfLoop, and_assoc]

end LearningMap
