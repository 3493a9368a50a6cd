import LogicCircuit.Main
import LogicCircuit.Panel
import LogicCircuit.Proofs.Acyclic
import LogicCircuit.Proofs.Definition.Grammar
import LogicCircuit.Proofs.Definition.Readers
import LogicCircuit.Proofs.Definition.Scope
import LogicCircuit.Proofs.Definition.References
import LogicCircuit.Proofs.Definition.Clauses
import LogicCircuit.Proofs.Definition.Statements
import LogicCircuit.Proofs.Definition.Failures
import LogicCircuit.Proofs.Definition.Language
import LogicCircuit.Proofs.Definition.Circuits
import LogicCircuit.Proofs.Definition.Effects
import LogicCircuit.Proofs.Definition.Relocation
import LogicCircuit.Proofs.Definition.Gaps
import LogicCircuit.Proofs.Definition.Layout
import LogicCircuit.Proofs.Operations
import LogicCircuit.Proofs.Recording
import LogicCircuit.Proofs.Continuation
import LogicCircuit.Proofs.Definition.Orderly
import LogicCircuit.Proofs.Definition.Segments
import LogicCircuit.Proofs.Definition.Strays
import LogicCircuit.Proofs.Redefinition
import LogicCircuit.Proofs.Restart
import LogicCircuit.Proofs.Oscillation
import LogicCircuit.Proofs.Rings
import LogicCircuit.Proofs.Integrity
import LogicCircuit.Proofs.Locality
import LogicCircuit.Proofs.Observation
import LogicCircuit.Proofs.Consistency
import LogicCircuit.Proofs.SignalNames
import LogicCircuit.Proofs.Clocks
import LogicCircuit.Proofs.FlipFlops
import LogicCircuit.Proofs.Excerpts
import LogicCircuit.Proofs.Definition.Coverage
import LogicCircuit.Proofs.Definition.Boundaries
import LogicCircuit.Proofs.Definition.Requests
import LogicCircuit.Proofs.Definition.Places
import LogicCircuit.Proofs.Definition.TextEnd
import LogicCircuit.Proofs.Definition.Replacement
import LogicCircuit.Proofs.SweepLimits
import LogicCircuit.Proofs.Refusals
import LogicCircuit.Proofs.LeastSolution
import LogicCircuit.Proofs.Definition.Interruption
import LogicCircuit.Proofs.Definition.Parts
import LogicCircuit.Proofs.Drawings
import LogicCircuit.Proofs.Definition.Progress
import LogicCircuit.Proofs.Definition.CodeBlocks
import LogicCircuit.Proofs.Fronts
