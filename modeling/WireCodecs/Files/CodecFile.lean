import WireCodecs.Files.Access
import WireCodecs.Fingerprint

/-! Writing codec files. A file's text is sealed with its fingerprint on the way. A file that is
created is written beside its place first and then moved there, so a failure leaves what was there
before; a file that is appended to is extended in place. -/

namespace WireCodecs

/-- A file operation failed on a path. -/
structure FileError where
  path : String
  fault : FileFault
  deriving DecidableEq, Repr

inductive WriteMode where
  | create
  | append
  deriving DecidableEq, Repr

namespace FileTree

/-- Makes the directory that a file goes into. -/
def makeParent (tree : FileTree) (path : String) : FileTree × Option FileError :=
  match Path.parent? path with
  | none => (tree, none)
  | some parent =>
    let (tree, fault) := tree.makeDirectories parent.length parent
    (tree, fault.map (⟨parent, ·⟩))

/-- Writes a file beside its place and moves it there. -/
def replaceFile (tree : FileTree) (path : String) (content : ByteArray) :
    FileTree × Option FileError :=
  let temporary := Path.temporary path
  match tree.write temporary content with
  | .error fault => (tree, some ⟨temporary, fault⟩)
  | .ok tree =>
    match tree.rename temporary path with
    | .ok tree => (tree, none)
    | .error fault => (tree, some ⟨path, fault⟩)

def extendFile (tree : FileTree) (path : String) (content : ByteArray) :
    FileTree × Option FileError :=
  match tree.append path content with
  | .ok tree => (tree, none)
  | .error fault => (tree, some ⟨path, fault⟩)

/-- What is left to do once the directory of a file is made. -/
def putFile (tree : FileTree) (path : String) (content : ByteArray) (mode : WriteMode) :
    FileTree × Option FileError :=
  match mode with
  | .create => tree.replaceFile path content
  | .append => tree.extendFile path content

/-- Writes a text to a path, whose directory is made if it is not there. -/
def writeText (tree : FileTree) (path text : String) (mode : WriteMode) :
    FileTree × Option FileError :=
  match tree.makeParent path with
  | (tree, none) => tree.putFile path text.toUTF8 mode
  | failed => failed

/-- Writes the sealed text to a path. -/
def writeCodec (tree : FileTree) (path text : String) (mode : WriteMode) :
    FileTree × Option FileError :=
  tree.writeText path (sealedText text) mode

/-- Writes the sealed text to a path and gives the fingerprint it is sealed with. -/
def writeSealed (tree : FileTree) (path text : String) (mode : WriteMode) :
    FileTree × Except FileError String :=
  match tree.writeCodec path text mode with
  | (tree, none) => (tree, .ok (fingerprint text))
  | (tree, some error) => (tree, .error error)

end FileTree

end WireCodecs
