import WireCodecs.Configuration
import WireCodecs.Run.Emission
import WireCodecs.Run.Validation
import WireCodecs.Target.Registry

/-! A run: loading the documents, validating them, and generating first the method codecs and then
the custom-type codecs of all target languages. Nothing is written before the documents are valid,
the services resolved and the targets ready. -/

namespace WireCodecs

inductive Stage where
  | load
  | validate
  | generateStandardCodecs
  | generateCustomCodecs
  | done
  deriving DecidableEq, Repr

def Stage.name : Stage → String
  | load => "load"
  | validate => "validate"
  | generateStandardCodecs => "generate_standard_codecs"
  | generateCustomCodecs => "generate_custom_codecs"
  | done => "done"

structure RunOptions where
  protocolDirectory : String
  schema : SchemaSource
  output : String
  /-- The target languages; none stands for all that are registered. -/
  languages : List Language
  deriving DecidableEq, Repr

structure LanguageSummary where
  language : Language
  standard : Report
  custom : Report
  deriving DecidableEq, Repr

structure RunSummary where
  services : Nat
  languages : List LanguageSummary
  deriving DecidableEq, Repr

namespace RunSummary

def filesWritten (summary : RunSummary) : Nat :=
  (summary.languages.map fun l => l.standard.written.length + l.custom.written.length).foldr
    (· + ·) 0

def artifactsSkipped (summary : RunSummary) : Nat :=
  (summary.languages.map fun l => l.standard.skipped.length + l.custom.skipped.length).foldr
    (· + ·) 0

end RunSummary

/-- What is ready for one language. -/
structure Target where
  language : Language
  settings : LanguageSettings
  emitter : Emitter

namespace Run

def enter (stage : Stage) : RunM Unit := RunM.log .info "entering stage" [("stage", stage.name)]

section Targets

/-- The names of all custom types that the services declare. -/
def customTypeNames (services : List Service) : List String :=
  services.flatMap fun service => service.customTypes.map (·.name)

/-- The engine for a language with the given mapping set. -/
def engine (types : TypeTable) (set : MappingSet) (customTypes : List String)
    (namespaceName : String) : Engine :=
  RenderScope.engine ⟨set, ⟨types, customTypes⟩, namespaceName⟩

def target (configuration : Configuration) (registry : Registry) (tree : FileTree)
    (customTypes : List String) (language : Language) : Except RunError Target :=
  match registry.get? language with
  | none => .error (.unknownLanguage language)
  | some set =>
    let settings := configuration.settings language
    match Boilerplate.load tree settings.namespaceName set.methodFiles settings.boilerplate with
    | .error error => .error (.file error)
    | .ok boilerplate => .ok {
        language := set.language
        settings := settings
        emitter := {
          language := set.language
          methodFiles := set.methodFiles
          customFiles := set.customFiles
          engine := engine configuration.types set customTypes settings.namespaceName
          ignored := settings.ignored
          boilerplate := boilerplate } }

/-- The languages of a run. -/
def targetLanguages (registry : Registry) (languages : List Language) : List Language :=
  if languages.isEmpty then registry.languages else languages

end Targets

/-- Loads, validates and resolves the services. -/
def services (engine : SchemaEngine) (configuration : Configuration) (options : RunOptions) :
    RunM (List Service) := do
  enter .load
  let documents ← RunM.ofResult id (ServiceDocument.loadAll (← RunM.tree) options.protocolDirectory)
  RunM.log .info "loaded service documents" [("documents", toString documents.length)]
  enter .validate
  let validator ← RunM.ofResult id (options.schema.load engine (← RunM.tree))
  Validation.run validator documents
  let decls ← RunM.ofResult id (ServiceDocument.declarations documents)
  RunM.ofResult .resolution (resolve configuration.types decls)

def emitStandard (services : List Service) (output : String) (target : Target) : RunM Report :=
  target.emitter.emitCodecs services (Path.join output target.settings.directory)

def emitCustom (services : List Service) (output : String) (target : Target) : RunM Report :=
  target.emitter.emitCustomCodecs services (Path.join output target.settings.customDirectory)

/-- Generates the codecs of all services for all targets. -/
def generate (services : List Service) (output : String) (targets : List Target) :
    RunM RunSummary := do
  enter .generateStandardCodecs
  let standard ← targets.mapM (emitStandard services output)
  enter .generateCustomCodecs
  let custom ← targets.mapM (emitCustom services output)
  return {
    services := services.length
    languages := (targets.zip (standard.zip custom)).map fun (target, standard, custom) =>
      ⟨target.language, standard, custom⟩ }

/-- A whole run. -/
def run (engine : SchemaEngine) (configuration : Configuration) (registry : Registry)
    (options : RunOptions) : RunM RunSummary := do
  let services ← services engine configuration options
  let tree ← RunM.tree
  let targets ← RunM.ofResult id <|
    (targetLanguages registry options.languages).mapM
      (target configuration registry tree (customTypeNames services))
  let summary ← generate services options.output targets
  enter .done
  RunM.log .info "generation finished"
    [("files", toString summary.filesWritten), ("skipped", toString summary.artifactsSkipped)]
  return summary

end Run

end WireCodecs
