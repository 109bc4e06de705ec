import WireCodecs.Codec.Rendering
import WireCodecs.Files.CodecFile
import WireCodecs.Service.Reading
import WireCodecs.Service.Resolution

/-! What can end a run, and its wording. A type without a mapping is not among it: it only leaves
out the codecs that need it. -/

namespace WireCodecs

inductive RunError where
  | file (error : FileError)
  | noProtocolDirectory (path : String)
  /-- The file at `path` is not YAML, or holds no single document that can be read. -/
  | yaml (path : String)
  | document (path : String) (cause : DocumentError)
  | schemaSyntax (path : String)
  | schemaInvalid
  | validationFailed (documents : Nat)
  | resolution (cause : ResolutionError)
  | unknownLanguage (language : Language)
  | configuration
  | render (cause : RenderError)

namespace RunError

def fileMessage (path text : String) : String := "I/O error on '" ++ path ++ "': " ++ text

/-- The wording of an error. The reasons of a syntax error are not kept. -/
def message : RunError → String
  | file error => fileMessage error.path error.fault.message
  | noProtocolDirectory path => fileMessage path "protocol directory does not exist"
  | yaml path => "Failed to parse YAML in '" ++ path ++ "'"
  | document path cause =>
    "Service document '" ++ path ++ "' does not match the service model: " ++ cause.message
  | schemaSyntax path => "Failed to parse schema '" ++ path ++ "'"
  | schemaInvalid => "Invalid schema"
  | validationFailed documents =>
    toString documents ++ " service document(s) failed schema validation"
  | resolution cause => cause.message
  | unknownLanguage language => "Unknown target language: " ++ language.name
  | configuration => "Invalid configuration"
  | render cause => cause.message

end RunError

end WireCodecs
