import WireCodecs.Proofs.Files.Listing
import WireCodecs.Proofs.Json
import WireCodecs.Proofs.Run.Failure
import WireCodecs.Proofs.Run.Preparation

/-! The gate of a run. Whatever is wrong with what a run is given is found before anything is
written, so a run that ends otherwise than by a file operation leaves the files as they were. The
verdict that documents are invalid counts the documents in which the schema finds something. -/

namespace WireCodecs

open RunM

/-- The error is about what a run is given, but is not the verdict that documents are invalid. -/
def RunError.IsOfInput : RunError → Prop
  | .validationFailed _ | .render _ => False
  | _ => True

theorem RunError.IsFile.isOfInput {error : RunError} (h : error.IsFile) : error.IsOfInput := by
  obtain ⟨fault, rfl⟩ := h
  trivial

namespace Validation

variable {validator : Validator} {documents : List ServiceDocument}

/-- The documents that the schema finds something wrong with. -/
def invalid (validator : Validator) (documents : List ServiceDocument) : List ServiceDocument :=
  documents.filter fun document => validator document.value ≠ []

theorem violations_ne_nil_iff : violations validator documents ≠ [] ↔
    ∃ document ∈ documents, validator document.value ≠ [] := by
  simp [violations]

/-- Of a document with violations one mention is counted, and documents have distinct paths. -/
theorem eraseDups_sources (h : (documents.map (·.path)).Nodup) :
    ((violations validator documents).map (·.source)).eraseDups =
      (invalid validator documents).map (·.path) := by
  induction documents with
  | nil => rfl
  | cons document documents ih =>
    rw [List.map_cons, List.nodup_cons] at h
    have hother : ∀ source ∈ (violations validator documents).map (·.source),
        source ≠ document.path := by
      intro source hsource heq
      obtain ⟨found, hfound, rfl⟩ := List.mem_map.mp hsource
      obtain ⟨other, hmem, hviolation⟩ := List.mem_flatMap.mp hfound
      obtain ⟨violation, -, rfl⟩ := List.mem_map.mp hviolation
      exact h.1 (List.mem_map.mpr ⟨other, hmem, heq⟩)
    rw [violations, List.flatMap_cons, List.map_append, List.map_map, ← violations, invalid,
      List.filter_cons, ← invalid]
    cases validator document.value with
    | nil => exact ih h.2
    | cons violation rest =>
      have hfilter : ((violations validator documents).map (·.source)).filter
          (fun source => !source == document.path) =
            (violations validator documents).map (·.source) :=
        List.filter_eq_self.mpr fun source hsource => by simpa using hother source hsource
      simp [List.eraseDups_cons, List.filter_append, hfilter, Function.comp_def, ih h.2]

end Validation

section Errors

variable {tree : FileTree} {error : RunError}

theorem isOfInput_of_loadAll {directory : String}
    (h : ServiceDocument.loadAll tree directory = .error error) : error.IsOfInput := by
  rw [ServiceDocument.loadAll] at h
  split at h
  · split at h
    · obtain ⟨path, -, hpath⟩ := exists_mem_of_mapM_error h
      rw [ServiceDocument.load] at hpath
      split at hpath
      · cases hpath
        trivial
      · split at hpath <;> cases hpath
        trivial
    · cases h
      trivial
  · cases h
    trivial

theorem isOfInput_of_loadSchema {engine : SchemaEngine} {source : SchemaSource}
    (h : source.load engine tree = .error error) : error.IsOfInput := by
  cases source with
  | builtin => cases h
  | file path =>
    rcases bind_eq_error_iff.mp h with hjson | ⟨value, -, hcompile⟩
    · rw [SchemaSource.loadJson] at hjson
      split at hjson
      · cases hjson
        trivial
      · split at hjson <;> cases hjson
        trivial
    · rw [SchemaSource.compile] at hcompile
      split at hcompile <;> cases hcompile
      trivial

theorem isOfInput_of_declarations {documents : List ServiceDocument}
    (h : ServiceDocument.declarations documents = .error error) : error.IsOfInput := by
  obtain ⟨document, -, hdocument⟩ := exists_mem_of_mapM_error h
  rw [ServiceDocument.declaration] at hdocument
  split at hdocument <;> cases hdocument
  trivial

theorem Run.isOfInput_of_target {configuration : Configuration} {registry : Registry}
    {customTypes : List String} {language : Language}
    (h : target configuration registry tree customTypes language = .error error) :
    error.IsOfInput := by
  rw [target] at h
  split at h
  · cases h
    trivial
  · simp only at h
    split at h <;> cases h
    trivial

end Errors

theorem nodup_paths_of_loadAll {tree : FileTree} (h : tree.IsProper) {directory : String}
    {documents : List ServiceDocument}
    (hdocuments : ServiceDocument.loadAll tree directory = .ok documents) :
    (documents.map (·.path)).Nodup := by
  rw [ServiceDocument.loadAll] at hdocuments
  split at hdocuments
  · split at hdocuments
    · next paths hpaths =>
      have hpath (path : String) (document : ServiceDocument)
          (hdocument : ServiceDocument.load tree path = .ok document) :
          document.path = path := by
        rw [ServiceDocument.load] at hdocument
        split at hdocument
        · cases hdocument
        · split at hdocument <;> cases hdocument
          rfl
      rw [map_eq_of_mapM hpath hdocuments, List.map_id']
      exact h.nodup_of_listFiles hpaths
    · cases hdocuments
  · cases hdocuments

namespace Run

section Services

variable {engine : SchemaEngine} {configuration : Configuration} {options : RunOptions}
  {scene : Scene} {error : RunError}

theorem fails_validation_iff {validator : Validator} {documents : List ServiceDocument} :
    Fails (Validation.run validator documents) scene error ↔
      Validation.violations validator documents ≠ [] ∧ error = .validationFailed
        ((Validation.violations validator documents).map (·.source)).eraseDups.length := by
  rw [Validation.run]
  simp only [fails_bind_iff, not_fails_modify, false_or, yields_modify_iff, exists_const,
    exists_eq_left]
  cases Validation.violations validator documents with
  | nil => simp [not_fails_pure]
  | cons found rest => simp [fails_throw_iff]

/-- The stages before generation fail with the error of the first that does. -/
theorem fails_services_iff :
    Fails (services engine configuration options) scene error ↔
      ServiceDocument.loadAll scene.tree options.protocolDirectory = .error error ∨
      ∃ documents, ServiceDocument.loadAll scene.tree options.protocolDirectory = .ok documents ∧
        (options.schema.load engine scene.tree = .error error ∨
        ∃ validator, options.schema.load engine scene.tree = .ok validator ∧
          ((Validation.violations validator documents ≠ [] ∧ error = .validationFailed
            ((Validation.violations validator documents).map (·.source)).eraseDups.length) ∨
          Validation.violations validator documents = [] ∧
            (ServiceDocument.declarations documents = .error error ∨
            ∃ decls, ServiceDocument.declarations documents = .ok decls ∧
              ∃ cause, resolve configuration.types decls = .error cause ∧
                error = .resolution cause))) := by
  simp only [services, enter, fails_bind_iff, not_fails_log, not_fails_tree, yields_log_iff,
    yields_tree_iff, fails_ofResult_iff, yields_ofResult_iff, fails_validation_iff,
    yields_validation_iff, false_or, exists_const, exists_and_left, exists_eq_left, and_assoc,
    id_eq, exists_eq_right']

/-- Only the verdict on the documents is no error of what a run is given. -/
theorem cases_of_fails_services (h : Fails (services engine configuration options) scene error) :
    error.IsOfInput ∨ ∃ documents validator,
      ServiceDocument.loadAll scene.tree options.protocolDirectory = .ok documents ∧
      options.schema.load engine scene.tree = .ok validator ∧
      Validation.violations validator documents ≠ [] ∧ error = .validationFailed
        ((Validation.violations validator documents).map (·.source)).eraseDups.length := by
  rcases fails_services_iff.mp h with hload | ⟨documents, hdocuments, hschema |
    ⟨validator, hschema, hinvalid | ⟨-, hdecls | ⟨decls, -, cause, -, rfl⟩⟩⟩⟩
  · exact .inl (isOfInput_of_loadAll hload)
  · exact .inl (isOfInput_of_loadSchema hschema)
  · exact .inr ⟨documents, validator, hdocuments, hschema, hinvalid⟩
  · exact .inl (isOfInput_of_declarations hdecls)
  · exact .inl trivial

theorem keepsTree_services : KeepsTree (services engine configuration options) := by
  refine (keepsTree_log _ _ _).bind fun _ => keepsTree_tree.bind fun tree => ?_
  refine (keepsTree_ofResult _ _).bind fun documents => (keepsTree_log _ _ _).bind fun _ => ?_
  refine (keepsTree_log _ _ _).bind fun _ => keepsTree_tree.bind fun tree => ?_
  refine (keepsTree_ofResult _ _).bind fun validator => ?_
  have hvalidation : KeepsTree (Validation.run validator documents) := by
    intro scene
    rw [Validation.run, outcome_bind]
    change (outcome (if _ then _ else _) _).2.tree = _
    split <;> rfl
  exact hvalidation.bind fun _ => (keepsTree_ofResult _ _).bind fun decls => keepsTree_ofResult _ _

end Services

section Completion

variable {engine : SchemaEngine} {configuration : Configuration} {registry : Registry}
  {options : RunOptions}

/-- The program's own mapping sets have templates for all that they have files for. -/
theorem hasTemplates_preparedTarget (customTypes : List String) (language : Language)
    (boilerplate : Boilerplate) :
    (preparedTarget configuration customTypes language.mappingSet
      boilerplate).emitter.HasTemplates := by
  constructor
  · intro template htemplate service method
    cases language with
    | java =>
      obtain rfl := List.mem_singleton.mp htemplate
      exact ⟨_, rfl⟩
    | cpp =>
      rcases List.mem_pair.mp htemplate with rfl | rfl
      · exact ⟨_, rfl⟩
      · exact ⟨_, rfl⟩
  · intro template htemplate type
    cases language with
    | java =>
      obtain rfl := List.mem_singleton.mp htemplate
      exact ⟨_, rfl⟩
    | cpp =>
      rcases List.mem_pair.mp htemplate with rfl | rfl
      · exact ⟨_, rfl⟩
      · exact ⟨_, rfl⟩

theorem failsOnly_generate {services : List Service} {output : String} {targets : List Target}
    (h : ∀ target ∈ targets, target.emitter.HasTemplates) :
    FailsOnly RunError.IsFile (generate services output targets) := by
  refine (failsOnly_log _ _ _).bind fun _ => ?_
  refine (failsOnly_mapM fun target htarget => ?_).bind fun standard => ?_
  · exact Emitter.failsOnly_emitCodecs (h target htarget) services _
  refine (failsOnly_log _ _ _).bind fun _ => ?_
  refine (failsOnly_mapM fun target htarget => ?_).bind fun custom => failsOnly_pure _
  exact Emitter.failsOnly_emitCustomCodecs (h target htarget) services _

/-- Once the targets are ready, only file operations can fail. -/
theorem failsOnly_completion (hregistry : registry.IsStandard) {tree : FileTree}
    {services : List Service} {targets : List Target}
    (htargets : (targetLanguages registry options.languages).mapM
      (target configuration registry tree (customTypeNames services)) = .ok targets) :
    FailsOnly RunError.IsFile (do
      let summary ← generate services options.output targets
      enter .done
      RunM.log .info "generation finished"
        [("files", toString summary.filesWritten), ("skipped", toString summary.artifactsSkipped)]
      return summary) := by
  have htemplates : ∀ target ∈ targets, target.emitter.HasTemplates := by
    intro target htarget
    obtain ⟨set, boilerplate, hset, -, heq⟩ := exists_of_mem_targets htargets htarget
    rw [heq, hregistry.eq_mappingSet hset]
    exact hasTemplates_preparedTarget _ _ _
  exact (failsOnly_generate htemplates).bind fun summary => (failsOnly_log _ _ _).bind fun _ =>
    (failsOnly_log _ _ _).bind fun _ => failsOnly_pure summary

theorem failsOnly_complete (hregistry : registry.IsStandard) (services : List Service) :
    FailsOnly RunError.IsOfInput (complete configuration registry options services) := by
  refine failsOnly_tree.bind fun tree => ?_
  refine FailsOnly.bind_of_yields (failsOnly_ofResult fun error herror => ?_)
    fun targets scene between htargets => ?_
  · obtain ⟨language, -, hlanguage⟩ := exists_mem_of_mapM_error herror
    exact isOfInput_of_target hlanguage
  · obtain ⟨htargets, -⟩ := yields_ofResult_iff.mp htargets
    exact (failsOnly_completion hregistry htargets).mono fun _ hfile => hfile.isOfInput

theorem failsCleanly_complete (hregistry : registry.IsStandard) (services : List Service) :
    FailsCleanly (complete configuration registry options services) := by
  refine keepsTree_tree.bind_failsCleanly fun tree _ _ _ => ?_
  refine (keepsTree_ofResult _ _).bind_failsCleanly fun targets scene between htargets => ?_
  obtain ⟨htargets, -⟩ := yields_ofResult_iff.mp htargets
  exact (failsOnly_completion hregistry htargets).failsCleanly

theorem failsCleanly_run (hregistry : registry.IsStandard) :
    FailsCleanly (run engine configuration registry options) := by
  rw [run_eq]
  exact keepsTree_services.bind_failsCleanly fun services _ _ _ =>
    failsCleanly_complete hregistry services

theorem cases_of_fails_run (hregistry : registry.IsStandard) {scene : Scene} {error : RunError}
    (h : Fails (run engine configuration registry options) scene error) :
    error.IsOfInput ∨ Fails (services engine configuration options) scene error := by
  rw [run_eq] at h
  rcases fails_bind_iff.mp h with hservices | ⟨services, between, -, hcomplete⟩
  · exact .inr hservices
  · exact .inl (failsOnly_complete hregistry services _ _ hcomplete)

theorem fails_run_validation_iff (hregistry : registry.IsStandard) {scene : Scene}
    (htree : scene.tree.IsProper) {failures : Nat} :
    Fails (run engine configuration registry options) scene (.validationFailed failures) ↔
      ∃ documents validator,
        ServiceDocument.loadAll scene.tree options.protocolDirectory = .ok documents ∧
        options.schema.load engine scene.tree = .ok validator ∧
        (∃ document ∈ documents, validator document.value ≠ []) ∧
        failures = (Validation.invalid validator documents).length := by
  have hcount {documents : List ServiceDocument} (validator : Validator)
      (hdocuments : ServiceDocument.loadAll scene.tree options.protocolDirectory = .ok documents) :
      ((Validation.violations validator documents).map (·.source)).eraseDups.length =
        (Validation.invalid validator documents).length := by
    rw [Validation.eraseDups_sources (nodup_paths_of_loadAll htree hdocuments), List.length_map]
  constructor
  · intro hfails
    have hservices := (cases_of_fails_run hregistry hfails).resolve_left id
    obtain ⟨documents, validator, hdocuments, hschema, hinvalid, hverdict⟩ :=
      (cases_of_fails_services hservices).resolve_left id
    refine ⟨documents, validator, hdocuments, hschema,
      Validation.violations_ne_nil_iff.mp hinvalid, ?_⟩
    rw [RunError.validationFailed.inj hverdict, hcount validator hdocuments]
  · rintro ⟨documents, validator, hdocuments, hschema, hinvalid, rfl⟩
    rw [run_eq, fails_bind_iff, fails_services_iff]
    refine .inl (.inr ⟨documents, hdocuments, .inr ⟨validator, hschema, .inl ⟨?_, ?_⟩⟩⟩)
    · exact Validation.violations_ne_nil_iff.mpr hinvalid
    · rw [hcount validator hdocuments]

end Completion

end Run

/-- With the program's own mapping sets and any implementation of schemas, a run that ends otherwise
than by a file operation leaves the files as they were, and rendering never fails. A run ends with
the verdict that documents are invalid exactly if they and the schema can be loaded and the schema
finds something wrong in one of them, and the verdict counts the documents for which it does. -/
theorem run_gate {engine : SchemaEngine} {configuration : Configuration} {registry : Registry}
    {options : RunOptions} {tree : FileTree} (hregistry : registry.IsStandard) :
    (∀ error scene,
      (Run.run engine configuration registry options).start tree = (.error error, scene) →
      (∀ fault, error ≠ .file fault) → scene.tree = tree) ∧
    (∀ cause scene, (Run.run engine configuration registry options).start tree ≠
      (.error (.render cause), scene)) ∧
    (tree.IsProper → ∀ failures,
      (∃ scene, (Run.run engine configuration registry options).start tree =
        (.error (.validationFailed failures), scene)) ↔
      ∃ documents validator,
        ServiceDocument.loadAll tree options.protocolDirectory = .ok documents ∧
        options.schema.load engine tree = .ok validator ∧
        (∃ document ∈ documents, validator document.value ≠ []) ∧
        failures = (Validation.invalid validator documents).length) := by
  refine ⟨fun error scene hrun hfile => ?_, fun cause scene hrun => ?_, fun htree failures => ?_⟩
  · obtain ⟨hfails, rfl⟩ := start_eq_error_iff.mp hrun
    rcases Run.failsCleanly_run hregistry _ _ hfails with ⟨fault, hfault⟩ | hkept
    · exact absurd hfault (hfile fault)
    · exact hkept
  · obtain ⟨hfails, -⟩ := start_eq_error_iff.mp hrun
    have hservices := (Run.cases_of_fails_run hregistry hfails).resolve_left id
    obtain ⟨_, _, -, -, -, hverdict⟩ := (Run.cases_of_fails_services hservices).resolve_left id
    cases hverdict
  · have hscene : (Scene.mk tree []).tree.IsProper := htree
    rw [exists_start_iff]
    exact Run.fails_run_validation_iff hregistry hscene

/-- Two documents, the first of which has an id that is too large and no name, and a file that an
earlier run has left. -/
def mixedTree : FileTree :=
  .ofEntries [(["protocol"], .directory),
    (["protocol", "a.yaml"], .file (Json.object [("id", .int 300)]).render.toUTF8),
    (["protocol", "b.yaml"], .file
      (Json.object [("id", .int 1), ("name", .string "b")]).render.toUTF8),
    (["out"], .directory), (["out", "codecs.h"], .file "old".toUTF8)]

theorem loadAll_mixedTree : ServiceDocument.loadAll mixedTree "protocol" =
    .ok [⟨"protocol/a.yaml", .object [("id", .int 300)]⟩,
      ⟨"protocol/b.yaml", .object [("id", .int 1), ("name", .string "b")]⟩] :=
  eq_ok_of_toOption (by decide +kernel)

/-- One of two documents is invalid, and the earlier file stays as it is. -/
theorem run_gate_mixed_documents :
    let options : RunOptions := ⟨"protocol", .builtin, "out", []⟩
    ∃ scene, (Run.run (.draft7 .none) .standard .builtin options).start mixedTree =
        (.error (.validationFailed 1), scene) ∧
      scene.tree = mixedTree ∧
      (ServiceSchema.set.violations (.object [("id", .int 300)])).length = 2 := by
  intro options
  have hproper : mixedTree.IsProper := ⟨by decide +kernel, by decide +kernel⟩
  obtain ⟨hclean, -, hverdict⟩ := @run_gate (.draft7 .none) .standard .builtin options mixedTree
    (Registry.isStandard_ofLanguages Language.all)
  obtain ⟨scene, hrun⟩ := (hverdict hproper 1).mpr
    ⟨_, ServiceSchema.set.violations, loadAll_mixedTree, rfl,
    ⟨_, List.mem_cons_self, by decide +kernel⟩, by decide +kernel⟩
  exact ⟨scene, hrun, hclean _ _ hrun (by simp), by decide +kernel⟩

end WireCodecs
