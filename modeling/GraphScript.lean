import GraphScript.Generator.GrammarSteps
import GraphScript.Graph.Operation
import GraphScript.Harvest.Enumerations
import GraphScript.Harvest.Nodes
import GraphScript.Harvest.Types
import GraphScript.Proofs.Editor.Closing
import GraphScript.Proofs.Elaboration.Accepted
import GraphScript.Proofs.Elaboration.Feedback
import GraphScript.Proofs.Elaboration.Isolation
import GraphScript.Proofs.Elaboration.Padding
import GraphScript.Proofs.Emission.Concatenation
import GraphScript.Proofs.Emission.Meaning
import GraphScript.Proofs.Emission.Slices
import GraphScript.Proofs.Emission.Stacks
import GraphScript.Proofs.Language.Quoting
import GraphScript.Proofs.Language.Spacing
import GraphScript.Proofs.Overload.Candidates
import GraphScript.Proofs.Overload.Forcing
import GraphScript.Proofs.Overload.Settling
import GraphScript.Proofs.Typing.Products
import GraphScript.Sample.Host
import GraphScript.Sample.Workload
import GraphScript.Text.Arguments
