import LearningMap.Service.Review
import LearningMap.Service.View
import LearningMap.Store.Columns

/-!
# What a client is told

The outcomes of the services as values, under the member `data`.
-/

namespace LearningMap

def envelope (data : Json) : Json := .obj [("data", data)]

def consequences (verdict : Verdict) (r : Resolution) : List (String × Json) :=
  [("status", .str verdict.name), ("completed_node_ids", .list .int r.completion.completedNodes),
    ("activatable_node_ids", .list .int r.completion.activated.toList),
    ("new_arrow_progress_count", .int r.resolvedCount)]

def SubmissionOutcome.toJson (o : SubmissionOutcome) : Json :=
  .obj (("answer", rowToJson o.answer) :: ("files", .list rowToJson o.files) ::
    consequences o.verdict o.resolution)

def ReviewOutcome.toJson (o : ReviewOutcome) : Json :=
  .obj (("answer", rowToJson o.answer) :: consequences o.verdict o.resolution)

/-- A node with its status: the columns of the node, and the status beside them. -/
def statusRow (n : Row.Node) (status : Status) : Json :=
  .obj (rowCells n ++ [("status", .str status.name)])

def RuleProgress.toJson (p : RuleProgress) : Json :=
  .obj [("completed", .int p.completed), ("total", .int p.total), ("percentage", .int p.percentage)]

def QuestionView.toJson (q : QuestionView) : Json :=
  .obj [("arrow_id", .int q.arrow), ("question_id", .int q.question),
    ("status", .str q.status.name)]

def RuleView.toJson (r : RuleView) : Json :=
  .obj [("rule_id", .int r.rule), ("name", .str r.name), ("is_completed", .bool r.completed),
    ("progress", r.progress.toJson), ("questions", .list (·.toJson) r.questions)]

def NodeView.toJson (n : NodeView) : Json :=
  .obj [("node_id", .int n.node), ("status", .str n.status.name),
    ("rules", .list (·.toJson) n.rules)]

end LearningMap
