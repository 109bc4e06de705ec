import WireCodecs.Run.Error
import WireCodecs.Service.Document
import WireCodecs.Yaml.Untyped

/-! Protocol directories. Every regular file directly in the directory is a service document, which
stays untyped until it has passed the schema. -/

namespace WireCodecs

/-- An untyped document and the path it comes from. -/
structure ServiceDocument where
  path : String
  value : Json

namespace ServiceDocument

def load (tree : FileTree) (path : String) : Except RunError ServiceDocument :=
  match tree.readText path with
  | .error fault => .error (.file ⟨path, fault⟩)
  | .ok text =>
    match Yaml.jsonOfText? text with
    | some value => .ok ⟨path, value⟩
    | none => .error (.yaml path)

/-- The documents of a directory, in the order in which the directory lists its files. -/
def loadAll (tree : FileTree) (directory : String) : Except RunError (List ServiceDocument) :=
  if tree.isDirectory directory then
    match tree.listFiles directory with
    | .ok paths => paths.mapM (load tree)
    | .error fault => .error (.file ⟨directory, fault⟩)
  else .error (.noProtocolDirectory directory)

/-- The declaration that a document holds. -/
def declaration (document : ServiceDocument) : Except RunError ServiceDecl :=
  match ServiceDecl.read document.value with
  | .ok decl => .ok decl
  | .error cause => .error (.document document.path cause)

def declarations (documents : List ServiceDocument) : Except RunError (List ServiceDecl) :=
  documents.mapM declaration

end ServiceDocument

end WireCodecs
