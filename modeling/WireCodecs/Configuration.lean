import WireCodecs.Json
import WireCodecs.Target.Language
import WireCodecs.Text.Blank
import WireCodecs.TypeTable
import WireCodecs.Yaml.Reading

/-! The configuration of a run: the type tables and the settings of the languages. A configuration
file is YAML in which everything may be left out. A table that is given replaces the standard one; a
setting that is given replaces the language's default. -/

namespace WireCodecs

structure LanguageSettings where
  /-- Where the method codecs go, seen from the output directory. -/
  directory : String
  /-- Where the custom-type codecs go. -/
  customDirectory : String
  /-- The package or namespace of the generated code. -/
  namespaceName : String
  /-- The ids of the services that get no method codecs, in ascending order. -/
  ignored : List UInt8
  /-- The directory of the files that replace built-in texts. -/
  boilerplate : Option String
  deriving DecidableEq, Repr

def Language.defaults : Language → LanguageSettings
  | .java => ⟨"java/codec", "java/codec/custom", "com.example.protocol.codec", [], none⟩
  | .cpp => ⟨"cpp/codec", "cpp/codec", "protocol::codec", [], none⟩

/-- The settings that are given for a language. -/
structure LanguageOverrides where
  directory : Option String
  customDirectory : Option String
  namespaceName : Option String
  ignored : Option (List UInt8)
  boilerplate : Option String
  deriving DecidableEq, Repr

namespace LanguageOverrides

def empty : LanguageOverrides := ⟨none, none, none, none, none⟩

def apply (overrides : LanguageOverrides) (settings : LanguageSettings) : LanguageSettings where
  directory := overrides.directory.getD settings.directory
  customDirectory := overrides.customDirectory.getD settings.customDirectory
  namespaceName := overrides.namespaceName.getD settings.namespaceName
  ignored := overrides.ignored.getD settings.ignored
  boilerplate := overrides.boilerplate.or settings.boilerplate

end LanguageOverrides

structure Configuration where
  types : TypeTable
  /-- At most one entry for each language. -/
  languages : List (Language × LanguageOverrides)
  deriving DecidableEq, Repr

namespace Configuration

def standard : Configuration := ⟨.standard, []⟩

/-- The settings that are in force for a language. -/
def settings (configuration : Configuration) (language : Language) : LanguageSettings :=
  ((configuration.languages.lookup language).getD .empty).apply language.defaults

section Reading

open Yaml

/-- Puts an element into an ascending list, unless it is there already. -/
def insertSorted {α : Type} [DecidableEq α] (le : α → α → Bool) (x : α) : List α → List α
  | [] => [x]
  | y :: rest =>
    if x = y then y :: rest
    else if le x y then x :: y :: rest
    else y :: insertSorted le x rest

/-- The elements in ascending order, each of them once. -/
def sortedSet {α : Type} [DecidableEq α] (le : α → α → Bool) (items : List α) : List α :=
  items.foldl (fun sorted x => insertSorted le x sorted) []

def sortedNames (names : List String) : List String := sortedSet (fun x y => decide (x ≤ y)) names

/-- The entries with the last value for each key. -/
def lastEntries {κ α : Type} [DecidableEq κ] (entries : List (κ × α)) : List (κ × α) :=
  entries.foldl (fun kept entry => kept.filter (·.1 ≠ entry.1) ++ [entry]) []

def readNames (node : Node) : ReadM (List String) := sortedNames <$> readItems readScalarText node

def readSizes (node : Node) : ReadM (List (String × Nat)) :=
  lastEntries <$> readEntries readScalarText (readNatural (Nat.pow 2 64)) node

/-- Keys other than the tables' are left alone. -/
def readTypes (node : Node) : ReadM TypeTable := do
  let entries ← readRecord node
  return {
    fixedPrimitives :=
      (← readField entries "fixed_primitives" readSizes).getD TypeTable.standard.fixedPrimitives
    variablePrimitives :=
      (← readField entries "variable_primitives" readNames).getD
        TypeTable.standard.variablePrimitives
    fixedLists := (← readField entries "fixed_lists" readNames).getD TypeTable.standard.fixedLists
    fixedMaps := (← readField entries "fixed_maps" readNames).getD TypeTable.standard.fixedMaps
    fixedEntryLists :=
      (← readField entries "fixed_entry_lists" readNames).getD
        TypeTable.standard.fixedEntryLists }

def readIds (node : Node) : ReadM (List UInt8) := do
  let ids ← readItems (readNatural 256) node
  return sortedSet (fun x y => decide (x ≤ y)) (ids.map UInt8.ofNat)

def readOverrides (node : Node) : ReadM LanguageOverrides := do
  let entries ← readRecord node
  noOtherFields entries
    ["output_dir", "custom_output_dir", "namespace", "ignore_services", "boilerplate_dir"]
  return {
    directory := (← readField entries "output_dir" (readOptional readScalarText)).join
    customDirectory := (← readField entries "custom_output_dir" (readOptional readScalarText)).join
    namespaceName := (← readField entries "namespace" (readOptional readScalarText)).join
    ignored := (← readField entries "ignore_services" (readOptional readIds)).join
    boilerplate := (← readField entries "boilerplate_dir" (readOptional readScalarText)).join }

/-- A language by its name, or by a private tag at nothing. -/
def readLanguage (node : Node) : ReadM Language := do
  match ← follow node with
  | .scalar label style text =>
    match label.tag.bind (·.privateName?) with
    | some name =>
      if style = .plain && (text = "" || isNullText text) then
        (Language.ofName? name : Option Language)
      else failure
    | none => (Language.ofName? text : Option Language)
  | _ => failure

def read (node : Node) : ReadM Configuration := do
  let entries ← readRecord node
  noOtherFields entries ["types", "languages"]
  return {
    types := (← readField entries "types" readTypes).getD .standard
    languages :=
      ((← readField entries "languages" (readEntries readLanguage readOverrides)).map
        lastEntries).getD [] }

/-- The configuration that a text holds; a blank one holds the standard one. -/
def ofText? (text : String) : Option Configuration :=
  if Text.isBlankText text then some standard else readText? text standard read

end Reading

section Writing

def namesJson (names : List String) : Json := .ofStrings (sortedNames names)

def typesJson (table : TypeTable) : Json :=
  .ofEntries [
    ("fixed_primitives",
      .ofEntries (table.fixedPrimitives.map fun (name, size) => (name, .int size))),
    ("variable_primitives", namesJson table.variablePrimitives),
    ("fixed_lists", namesJson table.fixedLists),
    ("fixed_maps", namesJson table.fixedMaps),
    ("fixed_entry_lists", namesJson table.fixedEntryLists)]

def idsJson (ids : List UInt8) : Json := .array (ids.map fun id => .int id.toNat)

def overridesJson (overrides : LanguageOverrides) : Json :=
  .ofEntries <|
    (overrides.directory.map fun path => ("output_dir", Json.string path)).toList ++
    (overrides.customDirectory.map fun path => ("custom_output_dir", Json.string path)).toList ++
    (overrides.namespaceName.map fun name => ("namespace", Json.string name)).toList ++
    (overrides.ignored.map fun ids => ("ignore_services", idsJson ids)).toList ++
    (overrides.boilerplate.map fun path => ("boilerplate_dir", Json.string path)).toList

/-- The configuration as it is written, with all tables and with the settings that are given. -/
def toJson (configuration : Configuration) : Json :=
  .ofEntries [
    ("types", typesJson configuration.types),
    ("languages", .ofEntries (configuration.languages.map fun (language, overrides) =>
      (language.name, overridesJson overrides)))]

end Writing

end Configuration

namespace LanguageSettings

def toJson (settings : LanguageSettings) : Json :=
  .ofEntries [
    ("output_dir", .string settings.directory),
    ("custom_output_dir", .string settings.customDirectory),
    ("namespace", .string settings.namespaceName),
    ("ignore_services", Configuration.idsJson settings.ignored),
    ("boilerplate_dir", .ofOption (settings.boilerplate.map .string))]

end LanguageSettings

end WireCodecs
