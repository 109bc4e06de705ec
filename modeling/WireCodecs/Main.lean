import WireCodecs.CommandLine.Execution

/-! The program: reads the files of the working directory, executes the command line on them, writes
the files that are new or changed, and prints. -/

namespace WireCodecs

/-- The entries of a directory entry and all below it. What a link leads to is taken for the
link. -/
partial def readEntry (above : FilePlace) (found : IO.FS.DirEntry) :
    IO (List (FilePlace × FileEntry ByteArray)) := do
  let place := above ++ [found.fileName]
  match (← found.path.metadata).type with
  | .dir =>
    let below ← (← found.path.readDir).toList.mapM (readEntry place)
    return (place, .directory) :: below.flatten
  | .file => return [(place, .file (← IO.FS.readBinFile found.path))]
  | _ => return []

def readWorkingDirectory : IO FileTree := do
  let found ← (← (← IO.currentDir).readDir).toList.mapM (readEntry [])
  return .ofEntries found.flatten

/-- Writes an entry, unless it was there before. -/
def writeChange (before : FileTree) (place : FilePlace) (entry : FileEntry ByteArray) : IO Unit :=
  let path := Path.ofSegments place
  match entry, before.get? place with
  | .directory, none => IO.FS.createDirAll path
  | .file content, some (.file present) =>
    if content.data = present.data then return () else IO.FS.writeBinFile path content
  | .file content, _ => IO.FS.writeBinFile path content
  | _, _ => return ()

end WireCodecs

open WireCodecs in
def main (arguments : List String) : IO UInt32 := do
  let before ← readWorkingDirectory
  let outcome := Command.execute arguments before
  outcome.tree.listing.forM fun (place, entry) => writeChange before place entry
  outcome.printed.forM fun line => IO.println line
  outcome.complaints.forM fun line => IO.eprintln line
  return outcome.status.toUInt32
