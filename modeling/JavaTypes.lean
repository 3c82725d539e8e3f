import JavaTypes.AnnotationUse
import JavaTypes.Assignable
import JavaTypes.Assignable.Shapes
import JavaTypes.Config
import JavaTypes.Config.Toml
import JavaTypes.Decimal.Binary64
import JavaTypes.Decimal.Shortest
import JavaTypes.Declaration
import JavaTypes.Env
import JavaTypes.Erasure
import JavaTypes.Event
import JavaTypes.Id
import JavaTypes.Identifier
import JavaTypes.Json
import JavaTypes.Json.Settings
import JavaTypes.Json.Types
import JavaTypes.Model
import JavaTypes.Model.Operation
import JavaTypes.Model.Skeleton
import JavaTypes.Modifiers
import JavaTypes.NameTable
import JavaTypes.NodeTable
import JavaTypes.Primitive
import JavaTypes.Proofs.Acceptance
import JavaTypes.Proofs.AnnotationMembers
import JavaTypes.Proofs.CanonicalErasure
import JavaTypes.Proofs.ClassNames
import JavaTypes.Proofs.Completeness
import JavaTypes.Proofs.Construction
import JavaTypes.Proofs.Containment
import JavaTypes.Proofs.Declared
import JavaTypes.Proofs.Derivations
import JavaTypes.Proofs.Edits
import JavaTypes.Proofs.ErasedTargets
import JavaTypes.Proofs.ExpansionStack
import JavaTypes.Proofs.Extension
import JavaTypes.Proofs.FailedOperations
import JavaTypes.Proofs.FreshModel
import JavaTypes.Proofs.JsonRoundTrip
import JavaTypes.Proofs.NamedRegistration
import JavaTypes.Proofs.NarrowedArity
import JavaTypes.Proofs.NarrowingOrder
import JavaTypes.Proofs.RawConversion
import JavaTypes.Proofs.RefusedGenerics
import JavaTypes.Proofs.Registration
import JavaTypes.Proofs.RootNames
import JavaTypes.Proofs.RootSource
import JavaTypes.Proofs.SeparatedTexts
import JavaTypes.Proofs.SignatureReading
import JavaTypes.Proofs.SpelledWildcards
import JavaTypes.Proofs.StringLiterals
import JavaTypes.Proofs.SubclassSearch
import JavaTypes.Proofs.Subclassing
import JavaTypes.Proofs.Termination
import JavaTypes.Proofs.Transitivity
import JavaTypes.Proofs.UnambiguousRendering
import JavaTypes.Proofs.VariableBounds
import JavaTypes.Proofs.VariableHistory
import JavaTypes.Proofs.VariableTargets
import JavaTypes.Proofs.WildcardPlacement
import JavaTypes.Rendering
import JavaTypes.Subclass
import JavaTypes.Text.IdentifierRanges
import JavaTypes.Text.Quoted
import JavaTypes.Text.Ranges
import JavaTypes.Text.StringLiteral
import JavaTypes.Text.UnshownRanges
import JavaTypes.Text.WhiteSpace
import JavaTypes.Toml.Document
import JavaTypes.Toml.Item
import JavaTypes.Toml.Moment
import JavaTypes.Toml.Number
import JavaTypes.Toml.Quoted
import JavaTypes.Toml.Reader
import JavaTypes.Toml.Value
import JavaTypes.Ty
import JavaTypes.Unused
import JavaTypes.Variable
