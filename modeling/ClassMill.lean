import ClassMill.Decimal.Layout
import ClassMill.Decimal.Reader
import ClassMill.Distribution
import ClassMill.Name
import ClassMill.Text.Blank
import ClassMill.Text.Escape
import ClassMill.Variance
import ClassMill.Tree.ClassDecl
import ClassMill.Complexity
import ClassMill.Main
import ClassMill.Statistics.OfBatch
import ClassMill.Walk
import ClassMill.Policy.Named
import ClassMill.Ron.Types
import ClassMill.Proofs.Generation.Faultless
import ClassMill.Proofs.Lines.Unambiguous
import ClassMill.Proofs.Outline.Generated
import ClassMill.Proofs.Statistics.Recount
import ClassMill.Proofs.Generation.Chain
import ClassMill.Proofs.Generation.Depth
import ClassMill.Proofs.Generation.Governed
import ClassMill.Proofs.Ron.Quoted
import ClassMill.Proofs.Ron.Spelling
import ClassMill.Proofs.Ron.Rendering
import ClassMill.Proofs.Ron.Parsing
import ClassMill.Proofs.Decimal.Finite
import ClassMill.Proofs.Ron.Numeral
import ClassMill.Proofs.Ron.Faithful
import ClassMill.Proofs.Policy.RoundTrip
import ClassMill.Proofs.CommandLine.Disk
import ClassMill.Proofs.CommandLine.Plan
import ClassMill.Proofs.CommandLine.DryRun
import ClassMill.Proofs.CommandLine.Product
import ClassMill.Proofs.CommandLine.Agreement
import ClassMill.Proofs.CommandLine.Keeping
import ClassMill.Proofs.CommandLine.Refused
import ClassMill.Proofs.CommandLine.Untouched
import ClassMill.Proofs.Generation.Batch
import ClassMill.Proofs.Statistics.ClosedForm
import ClassMill.Proofs.Walk.Balanced
import ClassMill.Proofs.Walk.Statements
import ClassMill.Proofs.Lines.Dialects
import ClassMill.Proofs.Lines.Indentation
import ClassMill.Proofs.Generation.Noninterference
import ClassMill.Proofs.Policy.Build
import ClassMill.Proofs.Random.Samples
import ClassMill.Proofs.Random.Variance
import ClassMill.Proofs.Generation.Bounded
import ClassMill.Proofs.Generation.MemberCount
import ClassMill.Proofs.Generation.Growth
import ClassMill.Proofs.Generation.Naming
import ClassMill.Proofs.Generation.Declaration
import ClassMill.Proofs.Statistics.RoundTrip
import ClassMill.Proofs.CommandLine.Footprint
import ClassMill.Proofs.Text.Variant
import ClassMill.Proofs.Lines.Placement
import ClassMill.Proofs.Tree.Clauses
