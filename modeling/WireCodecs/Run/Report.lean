/-! Reports on emission: the files that were created, the artifacts in them, and those left out. -/

namespace WireCodecs

/-- An artifact that is left out because a type has no mapping. -/
structure Skipped where
  artifact : String
  typeName : String
  deriving DecidableEq, Repr

structure Report where
  /-- The paths of the files created, in order. -/
  written : List String
  rendered : List String
  skipped : List Skipped
  deriving DecidableEq, Repr

namespace Report

def empty : Report := ⟨[], [], []⟩

/-- The report of two emissions after each other. -/
def merge (first second : Report) : Report where
  written := first.written ++ second.written
  rendered := first.rendered ++ second.rendered
  skipped := first.skipped ++ second.skipped

def skip (artifact typeName : String) : Report := ⟨[], [], [⟨artifact, typeName⟩]⟩

end Report

end WireCodecs
