import WireCodecs.Text.Lines

/-! File trees. A tree maps the places of directories, files and links to what is there. A place is
the list of names on the way from the root, the root being a directory that is always there. A file
is entered by its number, and its content is kept by the number, so two places with one number are
two names of one file. Putting an entry and erasing one change what is at that place and nothing
else; what is written to a file is found under all of its names. -/

namespace WireCodecs

/-- What is at a place; a file comes with its content, or with what stands for it. -/
inductive FileEntry (α : Type) where
  | directory
  | file (content : α)
  /-- A symbolic link. -/
  | link (target : String)

namespace FileEntry

variable {α β : Type}

def isDirectory : FileEntry α → Bool
  | directory => true
  | _ => false

def map (f : α → β) : FileEntry α → FileEntry β
  | directory => directory
  | file content => file (f content)
  | link target => link target

/-- The first number above that of a file. -/
def above : FileEntry Nat → Nat
  | file number => number + 1
  | _ => 0

end FileEntry

abbrev FilePlace := List String

structure FileTree where
  entries : List (FilePlace × FileEntry Nat)
  /-- What is in the files, by their numbers. -/
  contents : Nat → ByteArray

namespace FileTree

def empty : FileTree := ⟨[], fun _ => ByteArray.empty⟩

section Lookup

variable (tree : FileTree) (place other : FilePlace)

/-- The entry at a place, with the number of a file. -/
def stored? : Option (FileEntry Nat) :=
  if place = [] then some .directory else tree.entries.lookup place

/-- The entry at a place, with the content of a file. -/
def get? : Option (FileEntry ByteArray) := (tree.stored? place).map (·.map tree.contents)

/-- Whether two places are names of one file. -/
def sharesFile : Bool :=
  match tree.stored? place, tree.stored? other with
  | some (.file number), some (.file number') => number == number'
  | _, _ => false

/-- A number that no file has. -/
def fresh : Nat := tree.entries.foldr (fun entry next => max entry.2.above next) 0

/-- All entries, with the contents of files. -/
def listing : List (FilePlace × FileEntry ByteArray) :=
  tree.entries.map fun (place, entry) => (place, entry.map tree.contents)

/-- The names directly below a place, in the order in which they are listed. -/
def names : List String :=
  tree.entries.filterMap fun entry =>
    match entry.1.getLast? with
    | some name => if entry.1.dropLast = place then some name else none
    | none => none

end Lookup

section Changes

variable (tree : FileTree) (place : FilePlace)

def setEntry (entry : FileEntry Nat) :
    List (FilePlace × FileEntry Nat) → List (FilePlace × FileEntry Nat)
  | [] => [(place, entry)]
  | other :: rest =>
    if other.1 = place then (place, entry) :: rest else other :: setEntry entry rest

/-- Enters something at a place, instead of what is there. -/
def put (entry : FileEntry Nat) : FileTree :=
  { tree with entries := setEntry place entry tree.entries }

def erase : FileTree := { tree with entries := tree.entries.filter (·.1 != place) }

/-- Writes the file with a number. -/
def record (number : Nat) (content : ByteArray) : FileTree :=
  { tree with contents := fun other => if other = number then content else tree.contents other }

/-- Puts an entry at a place, instead of what is there. A file is a new one. -/
def set : FileEntry ByteArray → FileTree
  | .directory => tree.put place .directory
  | .file content => (tree.put place (.file tree.fresh)).record tree.fresh content
  | .link target => tree.put place (.link target)

/-- Writes the file at a place; there is a new one if there is none. -/
def fill (content : ByteArray) : FileTree :=
  match tree.stored? place with
  | some (.file number) => tree.record number content
  | _ => tree.set place (.file content)

/-- The tree with these entries, every file with one name. -/
def ofEntries (entries : List (FilePlace × FileEntry ByteArray)) : FileTree :=
  entries.foldl (fun tree (place, entry) => tree.set place entry) empty

end Changes

end FileTree

end WireCodecs
