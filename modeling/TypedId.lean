import TypedId.Data.Reading
import TypedId.Expansion
import TypedId.Fresh
import TypedId.Token.Substitution
import TypedId.Proofs.Depth
import TypedId.Proofs.Depth.Expressions
import TypedId.Proofs.Depth.Items
import TypedId.Proofs.BeforeComma
import TypedId.Proofs.BeforeComma.Types
import TypedId.Proofs.Visibility
import TypedId.Proofs.Names.Lexing
import TypedId.Proofs.Names
import TypedId.Proofs.Messages
import TypedId.Proofs.Requests
import TypedId.Proofs.Requests.Forms
import TypedId.Proofs.TwoForms
import TypedId.Proofs.Acceptance
import TypedId.Proofs.Forward
import TypedId.Proofs.Forward.Types
import TypedId.Proofs.Capabilities
import TypedId.Proofs.Steps
import TypedId.Proofs.Gives
import TypedId.Proofs.PathLists
import TypedId.Proofs.Inputs
import TypedId.Proofs.Cycles
import TypedId.Proofs.MissingPieces
import TypedId.Proofs.Written
import TypedId.Proofs.Written.Attributes
import TypedId.Proofs.Written.Header
import TypedId.Proofs.Written.Struct
import TypedId.Proofs.Written.Code
import TypedId.Proofs.Written.Field
import TypedId.Proofs.Written.Paths
import TypedId.Proofs.Written.Calls
import TypedId.Proofs.Written.Arguments
import TypedId.Proofs.Written.Bounds
import TypedId.Proofs.Written.Types
import TypedId.Proofs.Written.Functions
import TypedId.Proofs.Written.Operands
import TypedId.Proofs.Written.Operators
import TypedId.Proofs.Written.Usual
import TypedId.Proofs.OptionLists
import TypedId.Proofs.Conflicts
import TypedId.Proofs.Findings
import TypedId.Proofs.Collecting
import TypedId.Proofs.Names.Refused
import TypedId.Proofs.Splitting
import TypedId.Proofs.Layers
import TypedId.Proofs.Representations
import TypedId.Proofs.Spelling
import TypedId.Proofs.TraitPaths
