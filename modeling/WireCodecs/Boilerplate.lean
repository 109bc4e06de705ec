import WireCodecs.Files.CodecFile
import WireCodecs.Target.MappingSet

/-! The fixed text of files that many codecs share: what comes before the first codec in the header
and in the source file, and what comes after the last one in both. Files in a directory of their own
can replace the built-in texts one by one. -/

namespace WireCodecs

structure Boilerplate where
  headerStart : String
  sourceStart : String
  footer : String
  deriving DecidableEq, Repr

namespace Boilerplate

def empty : Boilerplate := ⟨"", "", ""⟩

def textOfLines (lines : List String) : String := String.join (lines.map (· ++ "\n"))

def markerLine : String := "// Generated(\"" ++ fingerprintPlaceholder ++ "\")"

def namespaceLine (name : String) : String := "namespace " ++ name ++ " \x7b"

/-- The texts for the given files. Only shared files have any. -/
def builtin (namespaceName : String) : MethodFiles → Boilerplate
  | .perMethod _ => empty
  | .consolidated header _ => {
      headerStart := textOfLines [
        markerLine,
        "#pragma once",
        "",
        "#include <cstdint>",
        "#include <string>",
        "#include <unordered_map>",
        "#include <utility>",
        "#include <vector>",
        "",
        "#include <boost/uuid/uuid.hpp>",
        "",
        "#include \"hazelcast/client/protocol/ClientMessage.h\"",
        "#include \"hazelcast/client/impl/BaseEventHandler.h\"",
        "",
        namespaceLine namespaceName,
        ""]
      sourceStart := textOfLines [
        markerLine,
        "#include \"" ++ header ++ "\"",
        "",
        namespaceLine namespaceName,
        ""]
      footer := textOfLines ["\x7d // namespace " ++ namespaceName] }

/-- The text of a file in the directory, or `text` if there is no such file. -/
def override (tree : FileTree) (directory name text : String) : Except FileError String :=
  let path := Path.join directory name
  if tree.isFile path then
    match tree.readText path with
    | .ok text => .ok text
    | .error fault => .error ⟨path, fault⟩
  else .ok text

/-- The built-in texts, except for those that files in the directory replace. -/
def load (tree : FileTree) (namespaceName : String) (files : MethodFiles) :
    (directory : Option String) → Except FileError Boilerplate
  | none => .ok (builtin namespaceName files)
  | some directory => do
    let texts := builtin namespaceName files
    return {
      headerStart := ← override tree directory "header_includes.txt" texts.headerStart
      sourceStart := ← override tree directory "source_header.txt" texts.sourceStart
      footer := ← override tree directory "footer.txt" texts.footer }

end Boilerplate

end WireCodecs
