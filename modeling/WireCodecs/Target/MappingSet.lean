import WireCodecs.Naming
import WireCodecs.Target.Language
import WireCodecs.Text.Lines
import WireCodecs.TypeName.Extent

/-! What generation needs to know about a target language: how types and names are spelled in it,
which operations encode and decode a type, and how the generated files are laid out. -/

namespace WireCodecs

/-- A type without a mapping in the target language. -/
structure Unmapped where
  typeName : String
  deriving DecidableEq, Repr

namespace Unmapped

def ofType (type : TypeName) : Unmapped := ⟨type.spelling⟩

def message (unmapped : Unmapped) : String := "no mapping for type '" ++ unmapped.typeName ++ "'"

end Unmapped

/-- Where an operation finds its value. -/
inductive Place where
  /-- At a byte offset in the initial frame of a message. -/
  | offset (size : Nat)
  /-- In one or more frames of its own. -/
  | frames
  deriving DecidableEq, Repr

/-- A call that encodes or decodes a value. -/
structure Operation where
  place : Place
  /-- The qualified function. -/
  call : String
  /-- Arguments after those of the caller, such as the codecs of a container's elements. -/
  extraArgs : List String
  deriving DecidableEq, Repr

namespace Operation

def isFixed (op : Operation) : Bool :=
  match op.place with
  | .offset _ => true
  | .frames => false

def size? (op : Operation) : Option Nat :=
  match op.place with
  | .offset size => some size
  | .frames => none

/-- The text of the call, with the caller's arguments first. -/
def invoke (op : Operation) (leading : List String) : String :=
  op.call ++ "(" ++ Text.joinWith ", " (leading ++ op.extraArgs) ++ ")"

end Operation

/-- How a type is spelled in the target language, and the operation for its values. -/
structure TypeMapping where
  spelling : String
  op : Operation
  deriving DecidableEq, Repr

inductive Direction where
  | encode
  | decode
  deriving DecidableEq, Repr

def Direction.verb : Direction → String
  | encode => "encode"
  | decode => "decode"

/-- What the mapping of a type may depend on besides the type. -/
structure TypeScope where
  table : TypeTable
  /-- The names of the custom types that the run declares. -/
  customTypes : List String
  deriving DecidableEq, Repr

/-- The files of method codecs. -/
inductive MethodFiles where
  /-- All codecs in one header and one source file. -/
  | consolidated (header source : String)
  | perMethod (extension : String)
  deriving DecidableEq, Repr

/-- The files of custom-type codecs. -/
inductive CustomFiles where
  | pair (suffix headerExtension sourceExtension : String)
  | single (extension : String)
  deriving DecidableEq, Repr

structure MappingSet where
  language : Language
  /-- The spelling of a type's name. -/
  typeCase : String → String
  mapping? : Direction → TypeScope → TypeName → Except Unmapped TypeMapping
  /-- Makes a keyword usable as a name. -/
  escape : String → String
  methodFiles : MethodFiles
  customFiles : CustomFiles

/-- The spelling of a parameter's name. -/
def MappingSet.parameter (set : MappingSet) (name : String) : String :=
  set.escape (Naming.uncapital name)

/-- Appends an underscore to the given keywords. -/
def escapeKeyword (keywords : List String) (name : String) : String :=
  if keywords.contains name then name ++ "_" else name

end WireCodecs
