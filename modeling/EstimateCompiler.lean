import EstimateCompiler.Bounds
import EstimateCompiler.Command.Arguments
import EstimateCompiler.Command.Files
import EstimateCompiler.Command.Platform
import EstimateCompiler.Command.Request
import EstimateCompiler.Command.Run
import EstimateCompiler.Decimal.Binary64
import EstimateCompiler.Decimal.Number
import EstimateCompiler.Diagnostic
import EstimateCompiler.Failure
import EstimateCompiler.Graph
import EstimateCompiler.Identifier
import EstimateCompiler.Json.Reader
import EstimateCompiler.Json.Token
import EstimateCompiler.Json.Value
import EstimateCompiler.Main
import EstimateCompiler.Model.Basic
import EstimateCompiler.Model.Payload
import EstimateCompiler.Order
import EstimateCompiler.OrderedMap
import EstimateCompiler.Program
import EstimateCompiler.Reference
import EstimateCompiler.Target.Basic
import EstimateCompiler.Target.Standard
import EstimateCompiler.Text.CharClass
import EstimateCompiler.Text.LetterCase
import EstimateCompiler.Text.Substitution
import EstimateCompiler.Text.Utf8
import EstimateCompiler.Proofs.Order.Dependency
import EstimateCompiler.Proofs.Order.Search
import EstimateCompiler.Proofs.Graph.Naming
import EstimateCompiler.Proofs.Graph.Extraction
import EstimateCompiler.Proofs.Program.Writing
import EstimateCompiler.Proofs.Program.Emission
import EstimateCompiler.Proofs.Reference.Token
import EstimateCompiler.Proofs.Reference.Formula
import EstimateCompiler.Proofs.Reference.Nesting
import EstimateCompiler.Proofs.Graph.Outcome
import EstimateCompiler.Proofs.Graph.Resolution
import EstimateCompiler.Proofs.Program.Outcome
import EstimateCompiler.Proofs.Program.Strictness
import EstimateCompiler.Proofs.Graph.Anonymity
import EstimateCompiler.Proofs.Program.Accounting
import EstimateCompiler.Proofs.Program.Shadowing
import EstimateCompiler.Proofs.Program.Independence
import EstimateCompiler.Proofs.Program.Calls
import EstimateCompiler.Proofs.Program.Layout
import EstimateCompiler.Proofs.Graph.Reordering
import EstimateCompiler.Proofs.Program.Reordering
import EstimateCompiler.Proofs.Model.Loading
import EstimateCompiler.Proofs.Command.Ending
import EstimateCompiler.Proofs.Command.Atomicity
import EstimateCompiler.Proofs.Order.Recursion
import EstimateCompiler.Proofs.Order.Simulation
import EstimateCompiler.Proofs.Order.Need
import EstimateCompiler.Proofs.Identifier.Candidates
import EstimateCompiler.Proofs.Identifier.Base
import EstimateCompiler.Proofs.Bounds.Grammar
import EstimateCompiler.Proofs.Graph.Merging
import EstimateCompiler.Proofs.Graph.Pass
import EstimateCompiler.Proofs.Model.Validity
import EstimateCompiler.Proofs.Reference.Findings
import EstimateCompiler.Proofs.Decimal.Numeral
import EstimateCompiler.Proofs.Json.Integer
import EstimateCompiler.Proofs.Json.Origin
import EstimateCompiler.Proofs.Target.Samples
import EstimateCompiler.Proofs.Target.Vectorization
import EstimateCompiler.Proofs.Target.Suffixes
