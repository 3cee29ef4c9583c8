import LearningMap.Answer.Verdict
import LearningMap.Bus
import LearningMap.Config
import LearningMap.Event
import LearningMap.Graph.Prerequisites
import LearningMap.Graph.Propagation
import LearningMap.Graph.Status
import LearningMap.Http.Server
import LearningMap.Json.Draft
import LearningMap.Json.Printer
import LearningMap.Store.Direct
import LearningMap.Proofs.Graph.Index
import LearningMap.Proofs.Graph.Run
import LearningMap.Proofs.Graph.Closure
import LearningMap.Proofs.Graph.Batching
import LearningMap.Proofs.Graph.Scanning
import LearningMap.Proofs.Graph.Candidates
import LearningMap.Proofs.Graph.Worklist
import LearningMap.Proofs.Graph.Percentage
import LearningMap.Proofs.Store.Outcome
import LearningMap.Proofs.Store.Lawful
import LearningMap.Proofs.Store.Conflict
import LearningMap.Proofs.Store.Visibility
import LearningMap.Proofs.Store.Booking
import LearningMap.Proofs.Service.Completion
import LearningMap.Proofs.Service.Reload
import LearningMap.Proofs.Service.Repetition
import LearningMap.Proofs.Graph.Settled
import LearningMap.Proofs.Service.Satisfaction
import LearningMap.Proofs.Service.Settlement
import LearningMap.Proofs.Service.Calls
import LearningMap.Proofs.Service.View
import LearningMap.Proofs.Graph.Stability
import LearningMap.Proofs.Service.AnswerOrder
import LearningMap.Proofs.Service.Readiness
import LearningMap.Proofs.Service.Acceptance
import LearningMap.Proofs.Service.Hindrance
import LearningMap.Proofs.Service.Openness
import LearningMap.Proofs.Service.Footprint
import LearningMap.Proofs.Service.Effect
import LearningMap.Proofs.Service.Isolation
import LearningMap.Proofs.Service.Advance
import LearningMap.Proofs.Service.Uniqueness
import LearningMap.Proofs.Service.Consistency
import LearningMap.Proofs.Service.Ownership
import LearningMap.Proofs.Service.Authorship
import LearningMap.Proofs.Json.Number
import LearningMap.Proofs.Json.Reading
import LearningMap.Proofs.Json.Record
import LearningMap.Proofs.Token.Base64
import LearningMap.Proofs.Token.Claims
import LearningMap.Proofs.Token.Signing
import LearningMap.Proofs.Token.Acceptance
import LearningMap.Proofs.Http.Serving
import LearningMap.Proofs.Http.Reporting
import LearningMap.Proofs.Http.Unlocking
import LearningMap.Proofs.Http.Showing
import LearningMap.Proofs.Http.Admission
import LearningMap.Proofs.Http.Identity
import LearningMap.Proofs.Http.Agreement
import LearningMap.Proofs.Http.Authorship
import LearningMap.Proofs.Graph.Delta
import LearningMap.Proofs.Answer.Grading
import LearningMap.Proofs.Answer.Anchoring
import LearningMap.Proofs.Bus.Delivery
import LearningMap.Proofs.Graph.Inventory
import LearningMap.Proofs.Service.Upsert
import LearningMap.Proofs.Service.Permission
