import Formulary.Formula.Traversal
import Formulary.Engine.Session
import Formulary.Main
import Formulary.Proofs.Grammar.Basic
import Formulary.Proofs.Grammar.Readability
import Formulary.Proofs.Grammar.Unambiguity
import Formulary.Proofs.Parsing.Brackets
import Formulary.Proofs.Parsing.Grouping
import Formulary.Proofs.Parsing.Run
import Formulary.Proofs.Parsing.Slice
import Formulary.Proofs.Parsing.Completeness
import Formulary.Proofs.Parsing.Assembly
import Formulary.Proofs.Parsing.Soundness
import Formulary.Proofs.Parsing.Words
import Formulary.Proofs.Parsing.Faults
import Formulary.Proofs.Parsing.Rejection
import Formulary.Proofs.Grammar.Textbook
import Formulary.Proofs.Parsing.Climbing
import Formulary.Proofs.Number.Equality
import Formulary.Proofs.Engine.Run
import Formulary.Proofs.Engine.Coherence
import Formulary.Proofs.Decimal.Nearest
import Formulary.Proofs.Decimal.Monotone
import Formulary.Proofs.Decimal.Units
import Formulary.Proofs.Decimal.Squaring
import Formulary.Proofs.Decimal.Value
import Formulary.Proofs.Decimal.Sign
import Formulary.Proofs.Decimal.ExactPower
import Formulary.Proofs.Number.Arithmetic
import Formulary.Proofs.Number.Power
import Formulary.Proofs.Number.Sign
import Formulary.Proofs.Number.Exactness
import Formulary.Proofs.Number.Rounding
import Formulary.Proofs.Number.Symmetry
import Formulary.Proofs.Number.Order
import Formulary.Proofs.Parsing.Exponents
import Formulary.Proofs.Engine.Transparency
import Formulary.Proofs.Engine.Reports
import Formulary.Proofs.Formula.Frames
import Formulary.Proofs.Formula.Mapping
import Formulary.Proofs.Formula.Text
import Formulary.Proofs.Formula.Equality
import Formulary.Proofs.Parsing.Attachment
import Formulary.Proofs.Parsing.Descending
import Formulary.Proofs.Decimal.Text
import Formulary.Proofs.Number.Text
import Formulary.Proofs.Number.Numerals
import Formulary.Proofs.Number.Encoding
import Formulary.Proofs.Formula.Reading
import Formulary.Proofs.Formula.Absorption
import Formulary.Proofs.Parsing.Display
import Formulary.Proofs.Parsing.Conservation
import Formulary.Proofs.Parsing.Checked
import Formulary.Proofs.Parsing.Bounds
import Formulary.Proofs.Parsing.Culprits
import Formulary.Proofs.Parsing.Priorities
import Formulary.Proofs.Grammar.Levels
import Formulary.Proofs.Parsing.Modes
import Formulary.Proofs.Parsing.Substitution
import Formulary.Proofs.Configuration.Order
import Formulary.Proofs.CommandLine.Check
import Formulary.Proofs.Formula.Depth
import Formulary.Proofs.Formula.Traversals
import Formulary.Proofs.Formula.Legibility
import Formulary.Proofs.Parsing.Nesting
import Formulary.Proofs.Parsing.Ancestors
import Formulary.Proofs.Parsing.Renumbering
import Formulary.Proofs.Engine.Results
import Formulary.Proofs.Configuration.Survivors
import Formulary.Proofs.Configuration.Members
import Formulary.Proofs.Configuration.Validation
import Formulary.Proofs.CommandLine.Agreement
import Formulary.Proofs.Parsing.Turns
import Formulary.Proofs.Parsing.Pairs
