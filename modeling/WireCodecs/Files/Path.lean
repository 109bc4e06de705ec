import WireCodecs.Text.Lines

/-! Paths as texts. A path is cut at its slashes into segments. Empty segments say nothing, and
neither does a `.`, unless the path starts with it; the other segments are the names on the way to
what the path stands for. -/

namespace WireCodecs.Path

/-- Whether a path starts at the root, whatever directory it is seen from. -/
def isAbsolute (path : String) : Bool := path.toList.head? = some '/'

/-- Whether a path has a slash at its end, so that it can only stand for a directory. -/
def endsInSlash (path : String) : Bool := path.toList.getLast? = some '/'

/-- The path of `rest` seen from the directory `base`. -/
def join (base rest : String) : String :=
  if isAbsolute rest || base = "" then rest
  else if endsInSlash base then base ++ rest
  else base ++ "/" ++ rest

def segments (path : String) : List String := Text.splitOn '/' path

def ofSegments (segments : List String) : String := Text.joinWith "/" segments

def isSilent (segment : String) : Bool := segment = "" || segment = "."

/-- Drops the silent segments at the end, but not a `.` that the path starts with. -/
def trimSegments (segments : List String) : List String :=
  match segments with
  | [] => []
  | [""] => []
  | first :: rest => first :: (rest.reverse.dropWhile isSilent).reverse

/-- The path without its last name: nothing if there is no name in it. -/
def parent? (path : String) : Option String :=
  match trimSegments (segments path) with
  | [] => none
  | [_] => some ""
  | named =>
    match trimSegments named.dropLast with
    | [] => if isAbsolute path then some "/" else some ""
    | segments => some (ofSegments segments)

/-- The last name, unless it is a step to the same or the parent directory. -/
def fileName? (path : String) : Option String :=
  match (trimSegments (segments path)).getLast? with
  | some name => if name = "." || name = ".." || name = "" then none else some name
  | none => none

/-- A file name cut at its last period, if that is not its first character. -/
def splitName (name : String) : String × Option String :=
  match (Text.splitOn '.' name).reverse with
  | extension :: first :: pieces =>
    let stem := Text.joinWith "." (first :: pieces).reverse
    if stem = "" then (name, none) else (stem, some extension)
  | _ => (name, none)

def extension? (path : String) : Option String :=
  (fileName? path).bind fun name => (splitName name).2

/-- Puts `extension` in place of what follows the stem of the file name. -/
def setExtension (extension path : String) : String :=
  match fileName? path with
  | none => path
  | some name =>
    let folder := (trimSegments (segments path)).dropLast
    ofSegments (folder ++ [(splitName name).1 ++ "." ++ extension])

/-- The path with another extension. The old extension is cut off the end before the file name is
looked for again, so nothing is appended where only a parent step is left. -/
def withExtension (extension path : String) : String :=
  match extension? path with
  | none => setExtension extension path
  | some old => setExtension extension (String.ofList (path.toList.take (path.length - old.length)))

/-- The sibling that a file is written to before it takes its place. -/
def temporary (path : String) : String :=
  match extension? path with
  | some extension => withExtension (extension ++ ".tmp") path
  | none => withExtension "tmp" path

end WireCodecs.Path
