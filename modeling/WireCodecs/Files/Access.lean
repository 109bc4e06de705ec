import WireCodecs.Files.Path
import WireCodecs.Files.Tree

/-! File operations by path, as a file system with symbolic and hard links carries them out: finding
the place of a path, testing, reading, writing, appending, renaming and making directories. An
operation that fails leaves the tree as it is, unless it says otherwise. -/

namespace WireCodecs

inductive FileFault where
  | notFound
  | isDirectory
  | notDirectory
  | exists
  | nameTooLong
  | nulByte
  | notUtf8
  | linkLoop
  | busy
  /-- An entry of a directory that is listed cannot be looked at. -/
  | entry (path : String) (cause : FileFault)
  /-- An entry of a directory that is listed leads back to the directory. -/
  | entryLoop (path directory : String)
  deriving DecidableEq, Repr

namespace FileFault

/-- The kind of a fault. -/
def kind : FileFault → String
  | notFound => "NotFound"
  | isDirectory => "IsADirectory"
  | notDirectory => "NotADirectory"
  | .exists => "AlreadyExists"
  | nameTooLong => "InvalidFilename"
  | nulByte => "InvalidInput"
  | notUtf8 => "InvalidData"
  | linkLoop => "FilesystemLoop"
  | busy => "ResourceBusy"
  | entry _ cause => cause.kind
  | entryLoop _ _ => "Other"

def message : FileFault → String
  | notFound => "No such file or directory (os error 2)"
  | isDirectory => "Is a directory (os error 21)"
  | notDirectory => "Not a directory (os error 20)"
  | .exists => "File exists (os error 17)"
  | nameTooLong => "File name too long (os error 36)"
  | nulByte => "file name contained an unexpected NUL byte"
  | notUtf8 => "stream did not contain valid UTF-8"
  | linkLoop => "Too many levels of symbolic links (os error 40)"
  | busy => "Device or resource busy (os error 16)"
  | entry path cause => "IO error for operation on " ++ path ++ ": " ++ cause.message
  | entryLoop path directory =>
    "File system loop found: " ++ path ++ " points to an ancestor " ++ directory

/-- Whether the operating system reports the fault. -/
def isSystemFault : FileFault → Bool
  | nulByte | notUtf8 | entry _ _ | entryLoop _ _ => false
  | _ => true

end FileFault

namespace FileTree

section Places

def maxLinks : Nat := 40

def maxName : Nat := 255

def maxPath : Nat := 4095

/-- The names in a path; a slash at the end counts as a step to the same directory. -/
def steps (path : String) : List String :=
  let named := (Path.segments path).filter (· ≠ "")
  if Path.endsInSlash path then named ++ ["."] else named

/-- The place that steps lead to from `here`. All but the last of them must lead to directories; at
the last there may be nothing. With `follow`, a link at the last step is followed too; `jump` goes
on behind a link. -/
def walkWith (tree : FileTree) (follow : Bool)
    (jump : FilePlace → List String → Except FileFault FilePlace) (here : FilePlace) :
    List String → Except FileFault FilePlace
  | [] => .ok here
  | "." :: rest => walkWith tree follow jump here rest
  | ".." :: rest => walkWith tree follow jump here.dropLast rest
  | name :: rest =>
    if maxName < name.utf8ByteSize then .error .nameTooLong
    else
      let next := here ++ [name]
      match tree.get? next with
      | some .directory => walkWith tree follow jump next rest
      | some (.file _) => if rest.isEmpty then .ok next else .error .notDirectory
      | some (.link target) =>
        if rest.isEmpty && !follow then .ok next
        else jump (if Path.isAbsolute target then [] else here) (steps target ++ rest)
      | none => if rest.isEmpty then .ok next else .error .notFound

/-- The place that steps lead to when at most `links` links are followed. -/
def walk (tree : FileTree) (follow : Bool) :
    (links : Nat) → FilePlace → List String → Except FileFault FilePlace
  | 0 => walkWith tree follow fun _ _ => .error .linkLoop
  | links + 1 => walkWith tree follow (walk tree follow links)

/-- The place of a path that the working directory, the root, is the start of. -/
def place (tree : FileTree) (follow : Bool) (path : String) : Except FileFault FilePlace :=
  if path.toList.contains (Char.ofNat 0) then .error .nulByte
  else if path = "" then .error .notFound
  else if maxPath < path.utf8ByteSize then .error .nameTooLong
  else walk tree follow maxLinks [] (steps path)

end Places

def isDirectory (tree : FileTree) (path : String) : Bool :=
  match tree.place true path with
  | .ok place => (tree.get? place).any (·.isDirectory)
  | .error _ => false

/-- Whether a path leads to a regular file. -/
def isFile (tree : FileTree) (path : String) : Bool :=
  match tree.place true path with
  | .ok place =>
    match tree.get? place with
    | some (.file _) => true
    | _ => false
  | .error _ => false

def readBytes (tree : FileTree) (path : String) : Except FileFault ByteArray := do
  let place ← tree.place true path
  match tree.get? place with
  | some (.file content) => return content
  | some .directory => throw .isDirectory
  | some (.link _) | none => throw .notFound

def readText (tree : FileTree) (path : String) : Except FileFault String := do
  let content ← tree.readBytes path
  match String.fromUTF8? content with
  | some text => return text
  | none => throw .notUtf8

section Changes

/-- The place to open for writing, and what is in the file there. A path that ends in a slash or in
a step to a directory stands for a directory. -/
def openForWriting (tree : FileTree) (path : String) :
    Except FileFault (FilePlace × ByteArray) := do
  if Path.endsInSlash path then
    let _ ← tree.place true (Path.join ((Path.parent? path).getD "") ".")
    throw .isDirectory
  let place ← tree.place true path
  match tree.get? place with
  | some (.file content) => return (place, content)
  | some .directory => throw .isDirectory
  | some (.link _) | none => return (place, ByteArray.empty)

/-- Replaces the content of a file, which is made if there is none. -/
def write (tree : FileTree) (path : String) (content : ByteArray) : Except FileFault FileTree := do
  let (place, _) ← tree.openForWriting path
  return tree.fill place content

/-- Adds to the end of a file, which is made if there is none. -/
def append (tree : FileTree) (path : String) (content : ByteArray) :
    Except FileFault FileTree := do
  let (place, present) ← tree.openForWriting path
  return tree.fill place (present ++ content)

def endsInStep (path : String) : Bool :=
  match (Path.segments path).getLast? with
  | some "." | some ".." => true
  | _ => false

/-- A path without the slashes at its end. -/
def dropSlashes (path : String) : String :=
  String.ofList (path.toList.reverse.dropWhile (· == '/')).reverse

/-- Moves the file or link at `source` to `target`, in place of a file or link there. Between two
names of one file nothing is done. A target with a slash at its end could only be a directory. -/
def rename (tree : FileTree) (source target : String) : Except FileFault FileTree := do
  let start ← tree.place false source
  let goal ← tree.place false (dropSlashes target)
  if endsInStep target then throw .busy
  if Path.endsInSlash target then throw .notDirectory
  match tree.stored? start, tree.stored? goal with
  | none, _ => throw .notFound
  | _, some .directory => throw .isDirectory
  | some entry, _ =>
    return if tree.sharesFile start goal then tree else (tree.erase start).put goal entry

def makeDirectory (tree : FileTree) (path : String) : Except FileFault FileTree := do
  let place ← tree.place false path
  match tree.get? place with
  | some _ => throw .exists
  | none => return tree.set place .directory

/-- Makes a directory and those above it that are not there; `fuel` bounds how many. What is made
before a failure stays. -/
def makeDirectories (tree : FileTree) (fuel : Nat) (path : String) : FileTree × Option FileFault :=
  if path = "" then (tree, none)
  else
    match tree.makeDirectory path with
    | .ok tree => (tree, none)
    | .error .notFound =>
      match fuel, Path.parent? path with
      | fuel + 1, some parent =>
        match makeDirectories tree fuel parent with
        | (tree, none) =>
          match tree.makeDirectory path with
          | .ok tree => (tree, none)
          | .error fault => (tree, if tree.isDirectory path then none else some fault)
        | failed => failed
      | _, _ => (tree, some .notFound)
    | .error fault => (tree, if tree.isDirectory path then none else some fault)

end Changes

/-- The paths of the regular files that a directory holds. Links are followed. -/
def listFiles (tree : FileTree) (path : String) : Except FileFault (List String) := do
  let place ← tree.place true path
  (tree.names place).filterMapM fun name => do
    let entry := Path.join path name
    match tree.walk true maxLinks place [name] with
    | .error cause => throw (.entry entry cause)
    | .ok target =>
      match tree.get? target with
      | none => throw (.entry entry .notFound)
      | some (.file _) => return some entry
      | some _ => if target = place then throw (.entryLoop entry path) else return none

end FileTree

end WireCodecs
