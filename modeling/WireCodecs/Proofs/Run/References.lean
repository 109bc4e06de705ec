import Mathlib.Data.List.Flatten
import WireCodecs.Proofs.Run.Consolidated
import WireCodecs.Proofs.Run.Generation
import WireCodecs.Proofs.Target.References

/-! The custom types that the C++ codecs of a run refer to. The run declares all of them. Whether
one has codecs of its own depends on its fields: a custom type that is left out of the run can still
be referred to by codecs that are not. -/

namespace WireCodecs

namespace Cpp

variable {emitter : Emitter} {types : TypeScope} {namespaceName : String}

section Methods

/-- The methods whose codecs are rendered. -/
def renderedMethods (emitter : Emitter) (services : List Service) : List (Service × Method) :=
  (emitter.includedMethods services).filter fun (service, method) =>
    (emitter.fragment? service method).isSome

theorem artifact_of_fragment? {service : Service} {method : Method} {fragment : Fragment}
    (h : emitter.fragment? service method = some fragment) :
    fragment.artifact = (Subject.method service.name method).artifact := by
  unfold Emitter.fragment? at h
  split at h
  · cases h
    rfl
  · cases h

theorem map_artifact_fragments (emitter : Emitter) (services : List Service) :
    (emitter.fragments services).map (·.artifact) =
      (renderedMethods emitter services).map fun (service, method) =>
        (Subject.method service.name method).artifact := by
  rw [Emitter.fragments, renderedMethods]
  induction emitter.includedMethods services with
  | nil => rfl
  | cons first rest ih =>
    obtain ⟨service, method⟩ := first
    cases hfragment : emitter.fragment? service method with
    | none => simpa [hfragment] using ih
    | some fragment => simpa [hfragment, artifact_of_fragment? hfragment] using ih

theorem fragment?_isSome_iff (h : emitter.Serves .cpp types namespaceName) (service : Service)
    (method : Method) :
    (emitter.fragment? service method).isSome ↔
      ∀ field ∈ codecFields method, Mappable types.customTypes field.type := by
  have hset : (RenderScope.mk Language.cpp.mappingSet types namespaceName).set = mappingSet := rfl
  rw [← method_rendered_iff hset service.name method, ← h.engine]
  unfold Emitter.fragment?
  split <;> simp_all

end Methods

section CustomTypes

/-- The custom types whose codecs are rendered. -/
def renderedTypes (emitter : Emitter) (services : List Service) (directory : String) :
    List CustomType :=
  (services.flatMap (·.customTypes)).filter fun type =>
    !(emitter.customEmission directory type).artifacts.isEmpty

/-- A custom type is rendered if the types of its fields have mappings, and skipped otherwise. -/
theorem customEmission_cases (h : emitter.Serves .cpp types namespaceName) (directory : String)
    (type : CustomType) :
    (∀ field ∈ type.fields, Mappable types.customTypes field.type) ∧
        (∃ writes, (emitter.customEmission directory type).artifacts = [⟨type.name, writes⟩]) ∨
      (¬ ∀ field ∈ type.fields, Mappable types.customTypes field.type) ∧
        (emitter.customEmission directory type).artifacts = [] ∧
        ∃ typeName, (emitter.customEmission directory type).skipped = [⟨type.name, typeName⟩] := by
  have hlanguage : Language.cpp.mappingSet.language = .cpp := rfl
  have hfiles : emitter.customFiles = .pair "_codec" "h" "cpp" := h.customFiles
  have hset : (RenderScope.mk Language.cpp.mappingSet types namespaceName).set = mappingSet := rfl
  obtain ⟨header, hheader⟩ :
      ∃ rendering, emitter.engine .customHeader (.customType type) = .ok rendering := by
    simp [h.engine, RenderScope.engine, hlanguage]
  obtain ⟨source, hsource⟩ :
      ∃ rendering, emitter.engine .customSource (.customType type) = .ok rendering := by
    simp [h.engine, RenderScope.engine, hlanguage]
  rw [← customType_rendered_iff hset type, ← h.engine, hheader, hsource]
  simp only [Emitter.customEmission, hfiles, Emitter.pairEmission, hheader, hsource]
  cases header <;> cases source <;>
    simp [Emission.ofArtifact, Emission.skip, Subject.artifact]

theorem rendered_customsEmission (h : emitter.Serves .cpp types namespaceName)
    (services : List Service) (directory : String) :
    (emitter.customsEmission services directory).report.rendered =
      (renderedTypes emitter services directory).map (·.name) := by
  change (emitter.customsEmission services directory).artifacts.map (·.name) = _
  rw [Emitter.customsEmission, Emission.concat, renderedTypes]
  induction services.flatMap (·.customTypes) with
  | nil => rfl
  | cons type rest ih =>
    simp only [List.map_cons, List.flatMap_cons, List.map_append, ih]
    rcases customEmission_cases h directory type with
      ⟨-, writes, hartifacts⟩ | ⟨-, hartifacts, -⟩ <;>
      simp [hartifacts]

theorem mem_renderedTypes_iff (h : emitter.Serves .cpp types namespaceName)
    {services : List Service} {directory : String} {type : CustomType} :
    type ∈ renderedTypes emitter services directory ↔ type ∈ services.flatMap (·.customTypes) ∧
      ∀ field ∈ type.fields, Mappable types.customTypes field.type := by
  rw [renderedTypes, List.mem_filter]
  refine and_congr_right fun _ => ?_
  rcases customEmission_cases h directory type with
    ⟨hfields, writes, hartifacts⟩ | ⟨hfields, hartifacts, -⟩
  · simpa [hartifacts] using hfields
  · simpa [hartifacts] using hfields

/-- Every custom type of the services is rendered or skipped. -/
theorem rendered_or_skipped (h : emitter.Serves .cpp types namespaceName) {services : List Service}
    (directory : String) {type : CustomType} (hmem : type ∈ services.flatMap (·.customTypes)) :
    type ∈ renderedTypes emitter services directory ∨
      ∃ typeName, ⟨type.name, typeName⟩ ∈
        (emitter.customsEmission services directory).report.skipped := by
  rcases customEmission_cases h directory type with ⟨hfields, -⟩ | ⟨-, -, typeName, hskipped⟩
  · exact .inl ((mem_renderedTypes_iff h).mpr ⟨hmem, hfields⟩)
  · refine .inr ⟨typeName, ?_⟩
    exact List.mem_flatMap.mpr ⟨_, List.mem_map_of_mem hmem, by simp [hskipped]⟩

end CustomTypes

/-- Whether one of the artifacts refers to a custom type. -/
def RefersTo (methods : List (Service × Method)) (types : List CustomType) (name : String) : Prop :=
  (∃ service method, (service, method) ∈ methods ∧
    ∃ field ∈ codecFields method, name ∈ field.type.customNames) ∨
  ∃ type ∈ types, ∃ field ∈ type.fields, name ∈ field.type.customNames

/-- What the rendered codecs refer to is declared. -/
theorem mem_customTypes_of_refersTo (h : emitter.Serves .cpp types namespaceName)
    {services : List Service} {directory : String} {name : String}
    (hrefers : RefersTo (renderedMethods emitter services)
      (renderedTypes emitter services directory) name) : name ∈ types.customTypes := by
  rcases hrefers with
    ⟨service, method, hmethod, field, hfield, hname⟩ | ⟨type, htype, field, hfield,
    hname⟩
  · have hfields := (fragment?_isSome_iff h service method).mp (List.mem_filter.mp hmethod).2
    exact (hfields field hfield).mem_of_mem_customNames hname
  · exact (((mem_renderedTypes_iff h).mp htype).2 field hfield).mem_of_mem_customNames hname

/-- In a run that succeeds, a custom type that the rendered C++ codecs refer to is declared by the
services and is rendered or skipped itself, and it is rendered exactly if the types of its fields
have mappings. -/
theorem references_of_run {engine : SchemaEngine} {configuration : Configuration}
    {registry : Registry} {options : RunOptions} {tree : FileTree} {summary : RunSummary}
    {scene : Scene} {language : LanguageSummary} (hset : registry.get? .cpp = some mappingSet)
    (hrun : (Run.run engine configuration registry options).start tree = (.ok summary, scene))
    (hmem : language ∈ summary.languages) (hlanguage : language.language = .cpp) :
    ∃ services methods types, Run.Finds engine configuration options tree services ∧
      methods.Sublist (services.flatMap fun service => service.methods.map (service, ·)) ∧
      types.Sublist (services.flatMap (·.customTypes)) ∧
      language.standard.rendered =
        (methods.map fun (service, method) => (Subject.method service.name method).artifact) ∧
      language.custom.rendered = types.map (·.name) ∧
      ∀ name, RefersTo methods types name →
        name ∈ Run.customTypeNames services ∧
        (name ∈ language.custom.rendered ∨
          ∃ typeName, ⟨name, typeName⟩ ∈ language.custom.skipped) ∧
        (name ∈ language.custom.rendered ↔
          ∃ type ∈ services.flatMap (·.customTypes), type.name = name ∧
            ∀ field ∈ type.fields, Mappable (Run.customTypeNames services) field.type) := by
  obtain ⟨services, targets, hfinds, htargets, rfl, -⟩ := Run.exists_of_start hrun
  obtain ⟨target, htarget, rfl⟩ := List.mem_map.mp hmem
  obtain ⟨found, -, hprepared⟩ := exists_mem_of_mapM htargets htarget
  obtain ⟨set, boilerplate, hfound, -, rfl⟩ := Run.target_eq_ok_iff.mp hprepared
  obtain rfl : found = .cpp := (Run.language_of_get? hfound).symm.trans hlanguage
  obtain rfl : set = mappingSet := Option.some.inj (hfound.symm.trans hset)
  let found :=
    Run.preparedTarget configuration (Run.customTypeNames services) mappingSet boilerplate
  have hserves : found.emitter.Serves .cpp
      ⟨configuration.types, Run.customTypeNames services⟩ found.settings.namespaceName :=
    ⟨rfl, rfl, rfl⟩
  let directory := Path.join options.output found.settings.customDirectory
  have hrendered := rendered_customsEmission hserves services directory
  refine ⟨services, renderedMethods found.emitter services,
    renderedTypes found.emitter services directory, hfinds, ?_, List.filter_sublist, ?_, hrendered,
    fun name hrefers => ?_⟩
  · exact List.filter_sublist.trans (List.filter_sublist.flatMap _)
  · rw [← map_artifact_fragments]
    change (Report.merge ⟨_, [], []⟩
      (found.emitter.sharedEmission services _ _).report).rendered = _
    rw [Report.merge, Emission.report, Emitter.artifacts_sharedEmission]
    simp
  · have hname := mem_customTypes_of_refersTo hserves hrefers
    refine ⟨hname, ?_, ?_⟩
    · obtain ⟨service, hservice, hdeclared⟩ := List.mem_flatMap.mp hname
      obtain ⟨type, htype, rfl⟩ := List.mem_map.mp hdeclared
      refine (rendered_or_skipped hserves directory
        (List.mem_flatMap.mpr ⟨service, hservice, htype⟩)).imp_left fun hmem => ?_
      exact hrendered ▸ List.mem_map_of_mem hmem
    · change name ∈ (found.emitter.customsEmission services directory).report.rendered ↔ _
      rw [hrendered, List.mem_map]
      simp only [mem_renderedTypes_iff hserves]
      constructor
      · rintro ⟨type, ⟨hmem, hfields⟩, rfl⟩
        exact ⟨type, hmem, rfl, hfields⟩
      · rintro ⟨type, hmem, rfl, hfields⟩
        exact ⟨type, ⟨hmem, hfields⟩, rfl⟩

section Example

def crateText : String :=
"id: 1
name: zoo
customTypes:
- name: Blob
  fields: [\x7bname: raw, type: Data\x7d]
- name: Crate
  fields: [\x7bname: content, type: Blob\x7d]
"

def crateTree : FileTree :=
  .ofEntries [(["protocol"], .directory), (["protocol", "zoo.yaml"], .file crateText.toUTF8)]

def crateOptions : RunOptions := ⟨"protocol", .builtin, "out", [.cpp]⟩

def crateSummary : LanguageSummary :=
  ⟨.cpp, ⟨["out/cpp/codec/codecs.h", "out/cpp/codec/codecs.cpp"], [], []⟩,
    ⟨["out/cpp/codec/crate_codec.h", "out/cpp/codec/crate_codec.cpp"], ["Crate"],
      [⟨"Blob", "Data"⟩]⟩⟩

/-- The codec of `Crate` is rendered though that of `Blob`, which it refers to, is skipped. -/
theorem references_of_run_skipped_type :
    ∃ scene, (Run.run (.draft7 .none) .standard .builtin crateOptions).start crateTree =
        (.ok ⟨1, [crateSummary]⟩, scene) ∧
      ∃ services methods types,
        Run.Finds (.draft7 .none) .standard crateOptions crateTree services ∧
        ["Crate"] = types.map (·.name) ∧
        ∀ name, RefersTo methods types name →
          name ∈ ["Crate"] ∨ ∃ typeName, ⟨name, typeName⟩ ∈ [Skipped.mk "Blob" "Data"] := by
  obtain ⟨scene, hrun⟩ : ∃ scene,
      (Run.run (.draft7 .none) .standard .builtin crateOptions).start crateTree =
        (.ok ⟨1, [crateSummary]⟩, scene) :=
    ⟨_, RunM.start_of_toOption (by decide +kernel)⟩
  obtain ⟨services, methods, types, hfinds, -, -, -, hrendered, hreferences⟩ :=
    references_of_run rfl hrun List.mem_cons_self rfl
  exact ⟨scene, hrun, services, methods, types, hfinds, hrendered, fun name hname =>
    (hreferences name hname).2.1⟩

end Example

end Cpp

end WireCodecs
