import WireCodecs.Boilerplate
import WireCodecs.Code
import WireCodecs.Codec.Cpp.Body
import WireCodecs.Codec.Cpp.Template
import WireCodecs.Codec.Java.Body
import WireCodecs.Codec.Java.Constants
import WireCodecs.Codec.Java.Template
import WireCodecs.Codec.Plan
import WireCodecs.Codec.Rendering
import WireCodecs.CommandLine
import WireCodecs.CommandLine.Execution
import WireCodecs.Configuration
import WireCodecs.Files.Access
import WireCodecs.Files.CodecFile
import WireCodecs.Files.Path
import WireCodecs.Files.Tree
import WireCodecs.Fingerprint
import WireCodecs.Fingerprint.Blake3
import WireCodecs.Fingerprint.Placeholder
import WireCodecs.Json
import WireCodecs.Json.Numeral
import WireCodecs.Json.Reader
import WireCodecs.Json.Writer
import WireCodecs.Main
import WireCodecs.MessageId
import WireCodecs.Naming
import WireCodecs.Number.Binary64
import WireCodecs.Number.Shortest
import WireCodecs.Protocol
import WireCodecs.Run
import WireCodecs.Run.Basic
import WireCodecs.Run.Emission
import WireCodecs.Run.Error
import WireCodecs.Run.Report
import WireCodecs.Run.Validation
import WireCodecs.Schema
import WireCodecs.Schema.CharSet
import WireCodecs.Schema.Pattern
import WireCodecs.Schema.Pattern.Bracket
import WireCodecs.Schema.Pattern.Escape
import WireCodecs.Schema.Pattern.Parser
import WireCodecs.Schema.Pattern.Scan
import WireCodecs.Schema.Reading
import WireCodecs.Schema.Reference
import WireCodecs.Schema.Service
import WireCodecs.Schema.Violation
import WireCodecs.Service
import WireCodecs.Service.Declaration
import WireCodecs.Service.Document
import WireCodecs.Service.Reading
import WireCodecs.Service.Resolution
import WireCodecs.Target.Cpp
import WireCodecs.Target.Java
import WireCodecs.Target.Language
import WireCodecs.Target.MappingSet
import WireCodecs.Target.Registry
import WireCodecs.Text.Blank
import WireCodecs.Text.Case
import WireCodecs.Text.CaseProperty
import WireCodecs.Text.CaseTable
import WireCodecs.Text.Category
import WireCodecs.Text.CategoryTable
import WireCodecs.Text.CodeRange
import WireCodecs.Text.Folding
import WireCodecs.Text.Lines
import WireCodecs.Text.Property
import WireCodecs.Text.PropertyTable
import WireCodecs.Text.Quoted
import WireCodecs.Text.ScriptTable
import WireCodecs.TypeName
import WireCodecs.TypeName.Extent
import WireCodecs.TypeName.Parser
import WireCodecs.TypeName.Views
import WireCodecs.TypeTable
import WireCodecs.Yaml.Cursor
import WireCodecs.Yaml.Node
import WireCodecs.Yaml.Node.Parser
import WireCodecs.Yaml.Reading
import WireCodecs.Yaml.Resolution
import WireCodecs.Yaml.Scalar
import WireCodecs.Yaml.Tag
import WireCodecs.Yaml.Token
import WireCodecs.Yaml.Token.Layout
import WireCodecs.Yaml.Token.Property
import WireCodecs.Yaml.Untyped
import WireCodecs.Proofs.Outcome
import WireCodecs.Proofs.TypeName.Reading
import WireCodecs.Proofs.TypeName.RoundTrip
import WireCodecs.Proofs.Service.Resolution
import WireCodecs.Proofs.MessageId
import WireCodecs.Proofs.Service.MessageIds
import WireCodecs.Proofs.Target.Counterparts
import WireCodecs.Proofs.Codec.Plan
import WireCodecs.Proofs.Codec.Directions
import WireCodecs.Proofs.Codec.Placement
import WireCodecs.Proofs.Files.Path
import WireCodecs.Proofs.Files.Walk
import WireCodecs.Proofs.Files.Writing
import WireCodecs.Proofs.Files.History
import WireCodecs.Proofs.Run.Success
import WireCodecs.Proofs.Run.Emission
import WireCodecs.Proofs.Files.Appending
import WireCodecs.Proofs.Run.Consolidated
import WireCodecs.Proofs.Run.Artifacts
import WireCodecs.Proofs.Run.Generation
import WireCodecs.Proofs.Target.References
import WireCodecs.Proofs.Run.References
import WireCodecs.Proofs.Schema.Order
import WireCodecs.Proofs.Service.Order
import WireCodecs.Proofs.Run.Noninterference
import WireCodecs.Proofs.Json
import WireCodecs.Proofs.Service.Faults
import WireCodecs.Proofs.Schema.Acceptance
import WireCodecs.Proofs.Service.Erasure
import WireCodecs.Proofs.Service.Validity
import WireCodecs.Proofs.Files.Listing
import WireCodecs.Proofs.Run.Failure
import WireCodecs.Proofs.Run.Gate
import WireCodecs.Proofs.Run.Completion
import WireCodecs.Proofs.Naming
import WireCodecs.Proofs.Naming.Words
import WireCodecs.Proofs.Code.Trace
import WireCodecs.Proofs.Code
import WireCodecs.Proofs.Code.Unwinding
import WireCodecs.Proofs.Code.Indentation
import WireCodecs.Proofs.Codec.Fields
import WireCodecs.Proofs.Codec.Cpp.Nulls
import WireCodecs.Proofs.Codec.Java.Coding
import WireCodecs.Proofs.Codec.Java.Nulls
import WireCodecs.Proofs.Codec.Java.Ids
import WireCodecs.Proofs.Run.FileNames
import WireCodecs.Proofs.Codec.Planning
import WireCodecs.Proofs.Target.Java.Containers
import WireCodecs.Proofs.Target.Java.Support
import WireCodecs.Proofs.Target.Cpp.Faults
import WireCodecs.Proofs.Target.Java.TypeArguments
import WireCodecs.Proofs.Run.Accounting
import WireCodecs.Proofs.Codec.Offsets
import WireCodecs.Proofs.Codec.Declarations
import WireCodecs.Proofs.Codec.Java.Declarations
import WireCodecs.Proofs.Codec.Constants
import WireCodecs.Proofs.Codec.Java.Frames
import WireCodecs.Proofs.Codec.Cpp.Order
import WireCodecs.Proofs.Codec.Order
import WireCodecs.Proofs.TypeName.Classification
import WireCodecs.Proofs.TypeName.Errors
import WireCodecs.Proofs.Service.Accepted
import WireCodecs.Proofs.Service.Respelling
import WireCodecs.Proofs.Service.NormalForm
import WireCodecs.Proofs.Files.Leading
import WireCodecs.Proofs.Fingerprint.Placeholders
import WireCodecs.Proofs.Files.Attempts
import WireCodecs.Proofs.Run.Histories
import WireCodecs.Proofs.Files.Sealed
import WireCodecs.Proofs.Codec.Cpp.Fragments
import WireCodecs.Proofs.Codec.Balance
import WireCodecs.Proofs.Codec.Lacks
import WireCodecs.Proofs.Codec.Java.Balance
import WireCodecs.Proofs.Codec.Cpp.Balance
import WireCodecs.Proofs.Run.Balance
