import WireCodecs.Proofs.Run.Completion
import WireCodecs.Proofs.Run.Consolidated

/-! Accounts of emissions. Every artifact that an emission is asked for is either rendered or
skipped, and the report has both in order. What is skipped leaves no trace in the files: without it
the same files are written and the same report is given, but for the skipped entries. -/

namespace WireCodecs

open RunM

/-- The emission without what it skips. -/
def Emission.kept (emission : Emission) : Emission := ⟨emission.artifacts, []⟩

@[simp] theorem Emission.writes_kept (emission : Emission) :
    emission.kept.writes = emission.writes :=
  rfl

@[simp] theorem Emission.report_kept (emission : Emission) :
    emission.kept.report = { emission.report with skipped := [] } :=
  rfl

theorem Emission.concat_cons (emission : Emission) (emissions : List Emission) :
    concat (emission :: emissions) =
      ⟨emission.artifacts ++ (concat emissions).artifacts,
        emission.skipped ++ (concat emissions).skipped⟩ := by
  simp [concat]

/-- The subject of a method's codec. -/
def Subject.ofMethod (entry : Service × Method) : Subject := .method entry.1.name entry.2

namespace Emitter

variable (emitter : Emitter)

/-- Each of the templates gives a text. -/
def Renders (templates : List Template) (subject : Subject) : Prop :=
  ∀ template ∈ templates, ∃ text, emitter.engine template subject = .ok (.rendered text)

/-- The type that is unmapped for the first template that gives no text. -/
def unmapped? (templates : List Template) (subject : Subject) : Option String :=
  templates.findSome? fun template =>
    match emitter.engine template subject with
    | .ok (.unmapped typeName) => some typeName
    | _ => none

/-- The subjects that every template has a text for are rendered and the others are skipped, both in
order, each of these with the type that is unmapped for it. -/
structure Accounts (templates : List Template) (subjects : List Subject) (report : Report) :
    Prop where
  renders : ∀ subject ∈ subjects,
    emitter.Renders templates subject ↔ emitter.unmapped? templates subject = none
  rendered : report.rendered =
    (subjects.filter fun subject => (emitter.unmapped? templates subject).isNone).map (·.artifact)
  skipped : report.skipped = subjects.filterMap fun subject =>
    (emitter.unmapped? templates subject).map (⟨subject.artifact, ·⟩)

section Subjects

/-- What is emitted for a subject is its artifact or a skipped entry. -/
inductive Decides (templates : List Template) (subject : Subject) : Emission → Prop where
  | rendered (hrenders : emitter.Renders templates subject)
      (hmapped : emitter.unmapped? templates subject = none) (writes : List CodecWrite) :
    Decides templates subject (.ofArtifact ⟨subject.artifact, writes⟩)
  | skipped (hfails : ¬ emitter.Renders templates subject) {typeName : String}
      (hunmapped : emitter.unmapped? templates subject = some typeName) :
    Decides templates subject (.skip subject.artifact typeName)

variable {emitter} {subject : Subject}

theorem decides_singleEmission {template : Template}
    (h : ∃ rendering, emitter.engine template subject = .ok rendering) (path : String) :
    emitter.Decides [template] subject (emitter.singleEmission template subject path) := by
  obtain ⟨rendering, hengine⟩ := h
  rw [singleEmission, hengine]
  cases rendering with
  | rendered text => exact .rendered (by simp [Renders, hengine]) (by simp [unmapped?, hengine]) _
  | unmapped typeName => exact .skipped (by simp [Renders, hengine]) (by simp [unmapped?, hengine])

/-- The header is asked first. -/
theorem decides_pairEmission {header source : Template}
    (hheader : ∃ rendering, emitter.engine header subject = .ok rendering)
    (hsource : ∃ rendering, emitter.engine source subject = .ok rendering)
    (writes : (header source : String) → List CodecWrite) :
    emitter.Decides [header, source] subject
      (emitter.pairEmission header source subject writes) := by
  obtain ⟨first, hfirst⟩ := hheader
  obtain ⟨second, hsecond⟩ := hsource
  rw [pairEmission, hfirst, hsecond]
  cases first with
  | unmapped typeName => exact .skipped (by simp [Renders, hfirst]) (by simp [unmapped?, hfirst])
  | rendered headerText =>
    cases second with
    | rendered sourceText =>
      exact .rendered (by simp [Renders, hfirst, hsecond])
        (by simp [unmapped?, hfirst, hsecond]) _
    | unmapped typeName =>
      exact .skipped (by simp [Renders, hfirst, hsecond]) (by simp [unmapped?, hfirst, hsecond])

theorem decides_customEmission (h : emitter.HasTemplates) (directory : String) (type : CustomType) :
    emitter.Decides emitter.customFiles.templates (.customType type)
      (emitter.customEmission directory type) := by
  have hcustoms := h.customs
  rw [customEmission]
  cases hfiles : emitter.customFiles with
  | pair suffix headerExtension sourceExtension =>
    rw [hfiles] at hcustoms
    exact decides_pairEmission (hcustoms _ (.head _) _) (hcustoms _ (.tail _ (.head _)) _) _
  | single extension =>
    rw [hfiles] at hcustoms
    exact decides_singleEmission (hcustoms _ (.head _) _) _

end Subjects

section Lists

variable {emitter} {α : Type} {templates : List Template} {items : List α} {subject : α → Subject}
  {f : α → Emission}

theorem accounts_concat (subject : α → Subject)
    (h : ∀ item ∈ items, emitter.Decides templates (subject item) (f item)) :
    emitter.Accounts templates (items.map subject) (Emission.concat (items.map f)).report := by
  induction items with
  | nil => exact ⟨by simp, rfl, rfl⟩
  | cons item items ih =>
    obtain ⟨hrenders, hrendered, hskipped⟩ :=
      ih fun other hother => h other (List.mem_cons_of_mem item hother)
    have hitem := h item List.mem_cons_self
    rw [List.map_cons, List.map_cons, Emission.report_concat_cons]
    generalize f item = emission at hitem
    cases hitem with
    | rendered hall hmapped writes =>
      refine ⟨List.forall_mem_cons.mpr ⟨iff_of_true hall hmapped, hrenders⟩, ?_, ?_⟩
      · rw [List.filter_cons_of_pos (by simp [hmapped]), List.map_cons, ← hrendered]
        rfl
      · rw [List.filterMap_cons_none (by simp [hmapped]), ← hskipped]
        rfl
    | skipped hfails hunmapped =>
      refine ⟨List.forall_mem_cons.mpr ⟨iff_of_false hfails (by simp [hunmapped]), hrenders⟩,
        ?_, ?_⟩
      · rw [List.filter_cons_of_neg (by simp [hunmapped]), ← hrendered]
        rfl
      · rw [List.filterMap_cons_some (by rw [hunmapped, Option.map_some]), ← hskipped]
        rfl

/-- Leaving out the items that are skipped leaves out nothing else. -/
theorem concat_filter_mapped
    (h : ∀ item ∈ items, emitter.Decides templates (subject item) (f item)) :
    Emission.concat
        ((items.filter fun item => (emitter.unmapped? templates (subject item)).isNone).map f) =
      (Emission.concat (items.map f)).kept := by
  induction items with
  | nil => rfl
  | cons item items ih =>
    have hrest := ih fun other hother => h other (List.mem_cons_of_mem item hother)
    have hitem := h item List.mem_cons_self
    rw [List.map_cons, Emission.concat_cons]
    generalize hemission : f item = emission at hitem
    cases hitem with
    | rendered hall hmapped writes =>
      rw [List.filter_cons_of_pos (by simp [hmapped]), List.map_cons, hemission,
        Emission.concat_cons, hrest]
      rfl
    | skipped hfails hunmapped =>
      rw [List.filter_cons_of_neg (by simp [hunmapped]), hrest]
      rfl

end Lists

section Methods

/-- The methods that codecs are asked for, as subjects. -/
def methodSubjects (services : List Service) : List Subject :=
  (emitter.includedMethods services).map .ofMethod

/-- The services without the methods that are skipped. -/
def keptMethods (services : List Service) : List Service :=
  services.map fun service =>
    if emitter.ignored.contains service.id then service
    else { service with methods := service.methods.filter fun method =>
      (emitter.unmapped? emitter.methodFiles.templates (.ofMethod (service, method))).isNone }

theorem map_includedMethods_keptMethods (services : List Service) {β : Type}
    {f : Service × Method → β}
    (hf : ∀ service methods method,
      f ({ service with methods := methods }, method) = f (service, method)) :
    (emitter.includedMethods (emitter.keptMethods services)).map f =
      ((emitter.includedMethods services).filter fun entry =>
        (emitter.unmapped? emitter.methodFiles.templates (.ofMethod entry)).isNone).map f := by
  induction services with
  | nil => rfl
  | cons service services ih =>
    simp only [keptMethods, includedMethods] at ih ⊢
    rw [List.map_cons]
    by_cases hignored : emitter.ignored.contains service.id
    · rw [if_pos hignored, List.filter_cons_of_neg (by rw [hignored]; decide),
        List.filter_cons_of_neg (by rw [hignored]; decide), ih]
    · rw [if_neg hignored, List.filter_cons_of_pos (by simpa using hignored),
        List.filter_cons_of_pos (by simpa using hignored), List.flatMap_cons, List.flatMap_cons,
        List.map_append, List.filter_append, List.map_append, ih, List.filter_map]
      simp [hf, Function.comp_def]

variable {emitter}

theorem concat_keptMethods (services : List Service) {f : Service × Method → Emission}
    (hf : ∀ service methods method,
      f ({ service with methods := methods }, method) = f (service, method))
    (hdecides : ∀ service method,
      emitter.Decides emitter.methodFiles.templates (.ofMethod (service, method))
        (f (service, method))) :
    Emission.concat ((emitter.includedMethods (emitter.keptMethods services)).map f) =
      (Emission.concat ((emitter.includedMethods services).map f)).kept := by
  rw [emitter.map_includedMethods_keptMethods services hf]
  exact concat_filter_mapped fun (service, method) _ => hdecides service method

variable (h : emitter.HasTemplates) (services : List Service) (directory : String)
include h

theorem accounts_codecReport :
    emitter.Accounts emitter.methodFiles.templates (emitter.methodSubjects services)
      (emitter.codecReport services directory) := by
  have hmethods := h.methods
  cases hfiles : emitter.methodFiles with
  | consolidated header source =>
    rw [hfiles] at hmethods
    simp only [codecReport, hfiles]
    have hshared : emitter.Accounts (MethodFiles.consolidated header source).templates
        (emitter.methodSubjects services) (emitter.sharedEmission services
          (Path.join directory header) (Path.join directory source)).report :=
      accounts_concat .ofMethod fun entry _ =>
        decides_pairEmission (hmethods _ (.head _) entry.1.name entry.2)
          (hmethods _ (.tail _ (.head _)) entry.1.name entry.2) _
    exact ⟨hshared.renders, hshared.rendered, hshared.skipped⟩
  | perMethod extension =>
    rw [hfiles] at hmethods
    simp only [codecReport, hfiles]
    exact accounts_concat .ofMethod fun entry _ =>
      decides_singleEmission (hmethods _ (.head _) entry.1.name entry.2) _

theorem codecs_keptMethods :
    emitter.codecWrites (emitter.keptMethods services) directory =
        emitter.codecWrites services directory ∧
      emitter.codecReport (emitter.keptMethods services) directory =
        { emitter.codecReport services directory with skipped := [] } := by
  have hmethods := h.methods
  cases hfiles : emitter.methodFiles with
  | consolidated header source =>
    rw [hfiles] at hmethods
    have hshared (headerPath sourcePath : String) :
        emitter.sharedEmission (emitter.keptMethods services) headerPath sourcePath =
          (emitter.sharedEmission services headerPath sourcePath).kept := by
      refine concat_keptMethods services (fun _ _ _ => rfl) fun service method => ?_
      rw [hfiles]
      exact decides_pairEmission (hmethods _ (.head _) _ _) (hmethods _ (.tail _ (.head _)) _ _) _
    simp [codecWrites, codecReport, consolidatedWrites, hfiles, hshared, Report.merge]
  | perMethod extension =>
    rw [hfiles] at hmethods
    have hown : emitter.methodsEmission (emitter.keptMethods services) directory extension =
        (emitter.methodsEmission services directory extension).kept := by
      refine concat_keptMethods services (fun _ _ _ => rfl) fun service method => ?_
      rw [hfiles]
      exact decides_singleEmission (hmethods _ (.head _) _ _) _
    simp [codecWrites, codecReport, hfiles, hown]

end Methods

section CustomTypes

/-- The custom types, as subjects. -/
def customSubjects (services : List Service) : List Subject :=
  (services.flatMap (·.customTypes)).map .customType

/-- The services without the custom types that are skipped. -/
def keptCustomTypes (services : List Service) : List Service :=
  services.map fun service =>
    { service with customTypes := service.customTypes.filter fun type =>
      (emitter.unmapped? emitter.customFiles.templates (.customType type)).isNone }

theorem customsEmission_keptCustomTypes {emitter : Emitter} (h : emitter.HasTemplates)
    (services : List Service) (directory : String) :
    emitter.customsEmission (emitter.keptCustomTypes services) directory =
      (emitter.customsEmission services directory).kept := by
  have htypes : (emitter.keptCustomTypes services).flatMap (·.customTypes) =
      (services.flatMap (·.customTypes)).filter fun type =>
        (emitter.unmapped? emitter.customFiles.templates (.customType type)).isNone := by
    rw [keptCustomTypes, List.flatMap_map, List.filter_flatMap]
  rw [customsEmission, customsEmission, htypes]
  exact concat_filter_mapped fun type _ => decides_customEmission h directory type

end CustomTypes

end Emitter

/-- A run that makes the writes of another one succeeds where that one does, with the same files. -/
theorem RunM.Makes.exists_again {run again : RunM Report} {writes : List CodecWrite}
    {report report' found : Report} {tree : FileTree} {scene : Scene}
    (hagain : Makes again writes report') (hrun : Emits run writes report)
    (hstart : run.start tree = (.ok found, scene)) :
    found = report ∧
      ∃ after, again.start tree = (.ok report', after) ∧ after.tree = scene.tree := by
  obtain ⟨hfound, hwrites⟩ := hrun _ _ _ (start_eq_ok_iff.mp hstart)
  obtain ⟨log, hyields⟩ := hagain _ _ hwrites
  exact ⟨hfound, ⟨scene.tree, log⟩, start_eq_ok_iff.mpr hyields, rfl⟩

/-- Where emitting codecs succeeds, the report accounts for every method of the services that are
not ignored, or for every custom type of all services. Without the skipped ones the emission
succeeds too, with the same report but for these, and leaves the same files. -/
theorem accounts_of_emissions {emitter : Emitter} (h : emitter.HasTemplates)
    (services : List Service) (directory : String) (tree : FileTree) :
    (∀ report scene, (emitter.emitCodecs services directory).start tree = (.ok report, scene) →
      emitter.Accounts emitter.methodFiles.templates (emitter.methodSubjects services) report ∧
      ∃ again, (emitter.emitCodecs (emitter.keptMethods services) directory).start tree =
          (.ok { report with skipped := [] }, again) ∧ again.tree = scene.tree) ∧
    (∀ report scene,
      (emitter.emitCustomCodecs services directory).start tree = (.ok report, scene) →
      emitter.Accounts emitter.customFiles.templates (Emitter.customSubjects services) report ∧
      ∃ again, (emitter.emitCustomCodecs (emitter.keptCustomTypes services) directory).start tree =
          (.ok { report with skipped := [] }, again) ∧ again.tree = scene.tree) := by
  constructor
  · intro report scene hstart
    have hkept := Emitter.makes_emitCodecs h (emitter.keptMethods services) directory
    obtain ⟨hwrites, hreport⟩ := Emitter.codecs_keptMethods h services directory
    rw [hwrites, hreport] at hkept
    obtain ⟨rfl, hagain⟩ :=
      hkept.exists_again (emitter.emits_emitCodecs services directory) hstart
    exact ⟨Emitter.accounts_codecReport h services directory, hagain⟩
  · intro report scene hstart
    have hkept := Emitter.makes_emitCustomCodecs h (emitter.keptCustomTypes services) directory
    rw [Emitter.customsEmission_keptCustomTypes h, Emission.writes_kept,
      Emission.report_kept] at hkept
    obtain ⟨rfl, hagain⟩ :=
      hkept.exists_again (emitter.emits_emitCustomCodecs services directory) hstart
    refine ⟨Emitter.accounts_concat .customType fun type _ => ?_, hagain⟩
    exact Emitter.decides_customEmission h directory type

/-- An engine without texts for the method `get` and the type `Blob`. -/
def partialEngine : Engine := fun template subject =>
  if subject.artifact = "map.get" then
    .ok (.unmapped (if template = .methodHeader then "Data" else "Zone"))
  else if subject.artifact = "Blob" then .ok (.unmapped "Data")
  else .ok (.rendered (subject.artifact ++ "\n"))

def partialServices : List Service :=
  [⟨1, "map", [fieldlessMethod "get", fieldlessMethod "put"],
      [⟨"Blob", none, []⟩, ⟨"Person", none, []⟩]⟩,
    ⟨7, "set", [fieldlessMethod "add"], []⟩]

/-- The header has no mapping for another type than the source; the header's is reported. -/
theorem accounts_of_emissions_partial :
    let emitter := sharedEmitter partialEngine
    (∃ scene again,
      (emitter.emitCodecs partialServices "out").start .empty =
        (.ok ⟨["out/codecs.h", "out/codecs.cpp"], ["map.put"], [⟨"map.get", "Data"⟩]⟩, scene) ∧
      (emitter.emitCodecs (emitter.keptMethods partialServices) "out").start .empty =
        (.ok ⟨["out/codecs.h", "out/codecs.cpp"], ["map.put"], []⟩, again) ∧
      again.tree = scene.tree) ∧
    ∃ scene again,
      (emitter.emitCustomCodecs partialServices "out").start .empty =
        (.ok ⟨["out/person_codec.h", "out/person_codec.cpp"], ["Person"], [⟨"Blob", "Data"⟩]⟩,
          scene) ∧
      (emitter.emitCustomCodecs (emitter.keptCustomTypes partialServices) "out").start .empty =
        (.ok ⟨["out/person_codec.h", "out/person_codec.cpp"], ["Person"], []⟩, again) ∧
      again.tree = scene.tree := by
  intro emitter
  have hengine : ∀ template subject,
      ∃ rendering, emitter.engine template subject = .ok rendering := by
    intro template subject
    show ∃ rendering, partialEngine template subject = .ok rendering
    unfold partialEngine
    split_ifs <;> exact ⟨_, rfl⟩
  have htemplates : emitter.HasTemplates :=
    ⟨fun template _ _ _ => hengine template _, fun template _ _ => hengine template _⟩
  obtain ⟨hmethods, hcustoms⟩ := accounts_of_emissions htemplates partialServices "out" .empty
  have hcodecs := @RunM.start_of_toOption _ (emitter.emitCodecs partialServices "out") .empty
    ⟨["out/codecs.h", "out/codecs.cpp"], ["map.put"], [⟨"map.get", "Data"⟩]⟩ (by decide +kernel)
  have htypes := @RunM.start_of_toOption _ (emitter.emitCustomCodecs partialServices "out") .empty
    ⟨["out/person_codec.h", "out/person_codec.cpp"], ["Person"], [⟨"Blob", "Data"⟩]⟩
    (by decide +kernel)
  obtain ⟨-, again, hagain, hsame⟩ := hmethods _ _ hcodecs
  obtain ⟨-, againTypes, hagainTypes, hsameTypes⟩ := hcustoms _ _ htypes
  exact ⟨⟨_, again, hcodecs, hagain, hsame⟩, _, againTypes, htypes, hagainTypes, hsameTypes⟩

end WireCodecs
