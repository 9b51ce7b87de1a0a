import NestedWorkflow.Artifact.Local
import NestedWorkflow.Artifact.Memory
import NestedWorkflow.Config.Document
import NestedWorkflow.Proofs.Lookup.Linking
import NestedWorkflow.Proofs.Tick.Course
import NestedWorkflow.Status.Document
import NestedWorkflow.Proofs.Tick.Run
import NestedWorkflow.Proofs.Tick.Frame
import NestedWorkflow.Proofs.Tick.FailureMasking
import NestedWorkflow.Proofs.Tick.Passes
import NestedWorkflow.Proofs.Artifact.Memory
import NestedWorkflow.Proofs.Tick.OutputPropagation
import NestedWorkflow.Proofs.Tick.ChildLinkage
import NestedWorkflow.Proofs.Lookup.Undated
import NestedWorkflow.Proofs.Tick.Undated
import NestedWorkflow.Proofs.Tick.ErrorRetry
import NestedWorkflow.Proofs.Tick.History
import NestedWorkflow.Proofs.Tick.Seeding
import NestedWorkflow.Proofs.Identity.Nesting
import NestedWorkflow.Proofs.Json.Token
import NestedWorkflow.Proofs.Json.RoundTrip
import NestedWorkflow.Proofs.Instant.Rfc3339
import NestedWorkflow.Proofs.Json.Decode
import NestedWorkflow.Proofs.Status.Document
import NestedWorkflow.Proofs.Status.Reload
import NestedWorkflow.Proofs.Tick.NewAttempt
import NestedWorkflow.Proofs.Tick.CallOrder
import NestedWorkflow.Proofs.SubWorkflow.Building
import NestedWorkflow.Proofs.Reference.Segments
import NestedWorkflow.Proofs.Lookup.Directories
import NestedWorkflow.Proofs.Tick.Confinement
import NestedWorkflow.Proofs.Graph.Precedence
import NestedWorkflow.Proofs.SubWorkflow.Document
import NestedWorkflow.Proofs.Graph.Circle
import NestedWorkflow.Proofs.Graph.DepthFirst
import NestedWorkflow.Proofs.Graph.Verdict
import NestedWorkflow.Proofs.Graph.EdgeSet
import NestedWorkflow.Proofs.Lookup.Outcome
import NestedWorkflow.Proofs.Artifact.History
import NestedWorkflow.Proofs.Status.Operations
import NestedWorkflow.Proofs.Status.Placement
import NestedWorkflow.Proofs.Status.Omission
import NestedWorkflow.Proofs.Literal.Document
import NestedWorkflow.Proofs.Tick.StoredInputs
import NestedWorkflow.Proofs.Artifact.FileName
import NestedWorkflow.Proofs.Artifact.Keys
