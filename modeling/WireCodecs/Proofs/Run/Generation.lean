import WireCodecs.Run
import WireCodecs.Proofs.Run.Emission

/-! A run that succeeds: the services it finds, the targets it makes ready, and what it writes and
reports for each of them. All method codecs are written before any codec of a custom type. -/

namespace WireCodecs

open RunM

section Mapping

theorem yields_mapM {α β : Type} {step : α → RunM β} {items : List α} {scene after : Scene}
    {values : List β} {writes : α → List CodecWrite} {value : α → β}
    (hstep : ∀ item ∈ items, ∀ scene found after, Yields (step item) scene found after →
      found = value item ∧ FileTree.Performed (writes item) scene.tree after.tree)
    (h : Yields (items.mapM step) scene values after) :
    values = items.map value ∧ FileTree.Performed (items.flatMap writes) scene.tree after.tree := by
  induction items generalizing scene values with
  | nil =>
    rw [List.mapM_nil] at h
    obtain ⟨rfl, rfl⟩ := yields_pure_iff.mp h
    exact ⟨rfl, rfl⟩
  | cons item items ih =>
    rw [List.mapM_cons] at h
    obtain ⟨first, between, hfirst, hrest⟩ := yields_bind_iff.mp h
    obtain ⟨others, later, hothers, hreturn⟩ := yields_bind_iff.mp hrest
    obtain ⟨rfl, rfl⟩ := yields_pure_iff.mp hreturn
    obtain ⟨rfl, hwrites⟩ := hstep item List.mem_cons_self _ _ _ hfirst
    obtain ⟨rfl, hmore⟩ := ih (fun other hother => hstep other (List.mem_cons_of_mem _ hother))
      hothers
    rw [List.flatMap_cons, FileTree.performed_append]
    exact ⟨rfl, _, hwrites, hmore⟩

end Mapping

namespace Run

section Services

/-- Valid documents leave nothing in the log. -/
theorem yields_validation_iff {validator : Validator} {documents : List ServiceDocument}
    {scene after : Scene} {value : Unit} :
    Yields (Validation.run validator documents) scene value after ↔
      Validation.violations validator documents = [] ∧ after = scene := by
  rw [Validation.run, yields_bind_iff]
  simp only [yields_modify_iff, exists_const, exists_eq_left]
  cases Validation.violations validator documents with
  | nil => simp [yields_pure_iff]
  | cons found rest => simp [not_yields_throw]

/-- What is logged until the services are resolved. -/
def loadingLog (documents : List ServiceDocument) : List LogEvent :=
  [⟨.info, "entering stage", [("stage", Stage.load.name)]⟩,
    ⟨.info, "loaded service documents", [("documents", toString documents.length)]⟩,
    ⟨.info, "entering stage", [("stage", Stage.validate.name)]⟩]

theorem yields_services_iff {engine : SchemaEngine} {configuration : Configuration}
    {options : RunOptions} {scene after : Scene} {found : List Service} :
    Yields (services engine configuration options) scene found after ↔
      ∃ documents validator decls,
        ServiceDocument.loadAll scene.tree options.protocolDirectory = .ok documents ∧
        options.schema.load engine scene.tree = .ok validator ∧
        Validation.violations validator documents = [] ∧
        ServiceDocument.declarations documents = .ok decls ∧
        resolve configuration.types decls = .ok found ∧
        after = ⟨scene.tree, scene.log ++ loadingLog documents⟩ := by
  simp only [services, enter, yields_bind_iff, yields_log_iff, yields_tree_iff,
    yields_ofResult_iff, yields_validation_iff]
  simp only [exists_const, exists_and_left, exists_eq_left, and_assoc, loadingLog,
    List.append_assoc, List.cons_append, List.nil_append]

/-- The services that a run finds: its documents are valid and declare them. -/
def Finds (engine : SchemaEngine) (configuration : Configuration) (options : RunOptions)
    (tree : FileTree) (services : List Service) : Prop :=
  ∃ documents validator decls,
    ServiceDocument.loadAll tree options.protocolDirectory = .ok documents ∧
    options.schema.load engine tree = .ok validator ∧
    Validation.violations validator documents = [] ∧
    ServiceDocument.declarations documents = .ok decls ∧
    resolve configuration.types decls = .ok services

/-- Nothing is written before the services are found. -/
theorem yields_services {engine : SchemaEngine} {configuration : Configuration}
    {options : RunOptions} {scene after : Scene} {found : List Service}
    (h : Yields (services engine configuration options) scene found after) :
    Finds engine configuration options scene.tree found ∧ after.tree = scene.tree := by
  obtain ⟨documents, validator, decls, hdocuments, hschema, hvalid, hdecls, hresolve, rfl⟩ :=
    yields_services_iff.mp h
  exact ⟨⟨documents, validator, decls, hdocuments, hschema, hvalid, hdecls, hresolve⟩, rfl⟩

end Services

section Targets

variable (services : List Service) (output : String)

def standardWrites (target : Target) : List CodecWrite :=
  target.emitter.codecWrites services (Path.join output target.settings.directory)

/-- What is emitted for the custom types of the services. -/
def customEmission (target : Target) : Emission :=
  target.emitter.customsEmission services (Path.join output target.settings.customDirectory)

def customWrites (target : Target) : List CodecWrite :=
  (customEmission services output target).writes

/-- What is reported for a target. -/
def languageSummary (target : Target) : LanguageSummary where
  language := target.language
  standard := target.emitter.codecReport services (Path.join output target.settings.directory)
  custom := (customEmission services output target).report

/-- What is written for the targets, in order. -/
def allWrites (targets : List Target) : List CodecWrite :=
  targets.flatMap (standardWrites services output) ++
    targets.flatMap (customWrites services output)

variable {services output}

theorem yields_generate {targets : List Target} {scene after : Scene} {summary : RunSummary}
    (h : Yields (generate services output targets) scene summary after) :
    summary = ⟨services.length, targets.map (languageSummary services output)⟩ ∧
      FileTree.Performed (allWrites services output targets) scene.tree after.tree := by
  obtain ⟨_, first, hstandardStage, h₁⟩ := yields_bind_iff.mp h
  obtain ⟨standard, second, hstandard, h₂⟩ := yields_bind_iff.mp h₁
  obtain ⟨_, third, hcustomStage, h₃⟩ := yields_bind_iff.mp h₂
  obtain ⟨custom, fourth, hcustom, h₄⟩ := yields_bind_iff.mp h₃
  obtain ⟨rfl, rfl⟩ := yields_pure_iff.mp h₄
  obtain ⟨rfl, hmethods⟩ := yields_mapM (fun target _ =>
    target.emitter.emits_emitCodecs services (Path.join output target.settings.directory)) hstandard
  obtain ⟨rfl, hcustoms⟩ := yields_mapM (fun target _ =>
    target.emitter.emits_emitCustomCodecs services
      (Path.join output target.settings.customDirectory)) hcustom
  rw [yields_log hstandardStage] at hmethods
  rw [yields_log hcustomStage] at hcustoms
  refine ⟨?_, FileTree.performed_append.mpr ⟨_, hmethods, hcustoms⟩⟩
  congr 1
  clear * -
  induction targets with
  | nil => rfl
  | cons target targets ih => exact congrArg _ ih

end Targets

section Preparation

variable {configuration : Configuration} {registry : Registry} {tree : FileTree}
  {customTypes : List String} {language : Language}

theorem language_of_get? {set : MappingSet} (h : registry.get? language = some set) :
    set.language = language := by
  simpa using List.find?_some h

/-- What is ready for a language whose mapping set and texts are there. -/
def preparedTarget (configuration : Configuration) (customTypes : List String) (set : MappingSet)
    (boilerplate : Boilerplate) : Target where
  language := set.language
  settings := configuration.settings set.language
  emitter := {
    language := set.language
    methodFiles := set.methodFiles
    customFiles := set.customFiles
    engine := engine configuration.types set customTypes
      (configuration.settings set.language).namespaceName
    ignored := (configuration.settings set.language).ignored
    boilerplate := boilerplate }

theorem target_eq_ok_iff {found : Target} :
    target configuration registry tree customTypes language = .ok found ↔
      ∃ set boilerplate, registry.get? language = some set ∧
        Boilerplate.load tree (configuration.settings language).namespaceName set.methodFiles
          (configuration.settings language).boilerplate = .ok boilerplate ∧
        found = preparedTarget configuration customTypes set boilerplate := by
  unfold target
  split
  · next hnone => simp [hnone]
  · next set hset =>
    have hlanguage := language_of_get? hset
    simp only [hset, Option.some.injEq, exists_and_left, exists_eq_left']
    subst hlanguage
    split
    · next hfailed => simp [hfailed]
    · next boilerplate hloaded => simp [hloaded, preparedTarget, eq_comm]

end Preparation

section Completion

variable {engine : SchemaEngine} {configuration : Configuration} {registry : Registry}
  {options : RunOptions} {tree : FileTree} {summary : RunSummary}

/-- What a run does with the services that it finds. -/
def complete (configuration : Configuration) (registry : Registry) (options : RunOptions)
    (services : List Service) : RunM RunSummary := do
  let tree ← RunM.tree
  let targets ← RunM.ofResult id <|
    (targetLanguages registry options.languages).mapM
      (target configuration registry tree (customTypeNames services))
  let summary ← generate services options.output targets
  enter .done
  RunM.log .info "generation finished"
    [("files", toString summary.filesWritten), ("skipped", toString summary.artifactsSkipped)]
  return summary

theorem run_eq : run engine configuration registry options =
    services engine configuration options >>= complete configuration registry options :=
  rfl

/-- A run succeeds if its documents are valid and resolve, and what it does with the services
succeeds. -/
theorem exists_start {documents : List ServiceDocument} {validator : Validator}
    {decls : List ServiceDecl} {found : List Service}
    (hdocuments : ServiceDocument.loadAll tree options.protocolDirectory = .ok documents)
    (hschema : options.schema.load engine tree = .ok validator)
    (hvalid : Validation.violations validator documents = [])
    (hdecls : ServiceDocument.declarations documents = .ok decls)
    (hresolve : resolve configuration.types decls = .ok found)
    (hcomplete : (outcome (complete configuration registry options found)
      ⟨tree, loadingLog documents⟩).1.toOption = some summary) :
    ∃ scene, (run engine configuration registry options).start tree = (.ok summary, scene) := by
  have hservices : Yields (services engine configuration options) ⟨tree, []⟩ found
      ⟨tree, loadingLog documents⟩ :=
    yields_services_iff.mpr ⟨documents, validator, decls, hdocuments, hschema, hvalid, hdecls,
      hresolve, by rw [List.nil_append]⟩
  rw [run_eq]
  exact ⟨_, yields_bind_iff.mpr ⟨found, _, hservices, Prod.ext (eq_ok_of_toOption hcomplete) rfl⟩⟩

/-- A run that succeeds finds services, makes all targets ready, and then only writes for them. -/
theorem exists_of_start {scene : Scene}
    (h : (run engine configuration registry options).start tree = (.ok summary, scene)) :
    ∃ services targets, Finds engine configuration options tree services ∧
      (targetLanguages registry options.languages).mapM
        (target configuration registry tree (customTypeNames services)) = .ok targets ∧
      summary = ⟨services.length, targets.map (languageSummary services options.output)⟩ ∧
      FileTree.Performed (allWrites services options.output targets) tree scene.tree := by
  rw [run_eq] at h
  obtain ⟨services, first, hservices, h₁⟩ := yields_bind_iff.mp (start_eq_ok_iff.mp h)
  obtain ⟨hfinds, hfirst⟩ := yields_services hservices
  obtain ⟨_, _, htree, h₂⟩ := yields_bind_iff.mp h₁
  obtain ⟨rfl, rfl⟩ := yields_tree_iff.mp htree
  obtain ⟨targets, _, htargets, h₃⟩ := yields_bind_iff.mp h₂
  obtain ⟨htargets, rfl⟩ := yields_ofResult_iff.mp htargets
  obtain ⟨found, second, hgenerate, h₄⟩ := yields_bind_iff.mp h₃
  obtain ⟨rfl, hperformed⟩ := yields_generate hgenerate
  obtain ⟨_, third, hdone, h₅⟩ := yields_bind_iff.mp h₄
  obtain ⟨_, fourth, hfinished, h₆⟩ := yields_bind_iff.mp h₅
  obtain ⟨rfl, rfl⟩ := yields_pure_iff.mp h₆
  rw [hfirst] at htargets hperformed
  rw [yields_log hfinished, yields_log hdone]
  exact ⟨services, targets, hfinds, htargets, rfl, hperformed⟩

end Completion

end Run

end WireCodecs
