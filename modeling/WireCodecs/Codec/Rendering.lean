import WireCodecs.Codec.Cpp.Template
import WireCodecs.Codec.Java.Template

/-! Rendering codecs. An engine takes a template and what it is about, a method or a custom type,
and gives a text, or names the first type that has no mapping. The built-in engine has the templates
of the built-in languages, and fails on a template that a language does not have. -/

namespace WireCodecs

inductive Template where
  /-- The complete codec of a method. -/
  | methodCodec
  /-- A method's part of a header that methods share. -/
  | methodHeader
  /-- A method's part of a source file that methods share. -/
  | methodSource
  /-- The complete codec of a custom type. -/
  | customCodec
  | customHeader
  | customSource
  deriving DecidableEq, Repr

namespace Template

def all : List Template :=
  [methodCodec, methodHeader, methodSource, customCodec, customHeader, customSource]

def name : Template → String
  | methodCodec => "method-codec"
  | methodHeader => "method-codec-header"
  | methodSource => "method-codec-source"
  | customCodec => "custom-codec"
  | customHeader => "custom-codec-header"
  | customSource => "custom-codec-source"

def ofName? (text : String) : Option Template := all.find? (·.name == text)

end Template

/-- What a codec is for. -/
inductive Subject where
  | method (service : String) (method : Method)
  | customType (type : CustomType)
  deriving DecidableEq, Repr

/-- The name of an artifact in reports. -/
def Subject.artifact : Subject → String
  | .method service target => service ++ "." ++ target.name
  | .customType type => type.name

inductive Rendering where
  | rendered (text : String)
  | unmapped (typeName : String)
  deriving DecidableEq, Repr

def Rendering.ofResult : Except Unmapped String → Rendering
  | .ok text => rendered text
  | .error type => unmapped type.typeName

/-- An engine has no text to give, for a reason other than an unmapped type. -/
structure RenderError where
  artifact : String
  cause : String
  deriving DecidableEq, Repr

def RenderError.message (error : RenderError) : String :=
  "Failed to render '" ++ error.artifact ++ "': " ++ error.cause

abbrev Engine := Template → Subject → Except RenderError Rendering

/-- The built-in engine. -/
def RenderScope.engine (scope : RenderScope) : Engine := fun template subject =>
  match scope.set.language, template, subject with
  | .java, .methodCodec, .method service method =>
    .ok (.ofResult (Java.methodCodec scope service method))
  | .java, .customCodec, .customType type => .ok (.ofResult (Java.customCodec scope type))
  | .cpp, .methodHeader, .method service method =>
    .ok (.ofResult (Cpp.methodHeader scope service method))
  | .cpp, .methodSource, .method service method =>
    .ok (.ofResult (Cpp.methodSource scope service method))
  | .cpp, .customHeader, .customType type => .ok (.ofResult (Cpp.customHeader scope type))
  | .cpp, .customSource, .customType type => .ok (.ofResult (Cpp.customSource scope type))
  | language, template, _ =>
    .error ⟨template.name, "no " ++ language.name ++ " template for this context"⟩

end WireCodecs
