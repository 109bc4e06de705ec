import WireCodecs.Target.Cpp
import WireCodecs.Target.Java

/-! The mapping sets that a run can use: at most one for each language, in the order of
languages. -/

namespace WireCodecs

def Language.mappingSet : Language → MappingSet
  | .java => Java.mappingSet
  | .cpp => Cpp.mappingSet

structure Registry where
  sets : List MappingSet

namespace Registry

def empty : Registry := ⟨[]⟩

/-- Puts a set into its place, instead of an earlier set for the language. -/
def insertSet (set : MappingSet) : List MappingSet → List MappingSet
  | [] => [set]
  | other :: rest =>
    if set.language.rank < other.language.rank then set :: other :: rest
    else if set.language = other.language then set :: rest
    else other :: insertSet set rest

def register (registry : Registry) (set : MappingSet) : Registry :=
  ⟨insertSet set registry.sets⟩

/-- The registry with the sets of the given languages. -/
def ofLanguages (languages : List Language) : Registry :=
  languages.foldl (fun registry language => registry.register language.mappingSet) empty

def builtin : Registry := ofLanguages Language.all

def get? (registry : Registry) (language : Language) : Option MappingSet :=
  registry.sets.find? (·.language == language)

def languages (registry : Registry) : List Language := registry.sets.map (·.language)

end Registry

end WireCodecs
