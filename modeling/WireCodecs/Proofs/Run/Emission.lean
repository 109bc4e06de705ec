import WireCodecs.Run.Emission
import WireCodecs.Proofs.Run.Success
import WireCodecs.Target.Registry

/-! What emissions write and report. An emission that succeeds writes files one after another and
gives a report, and both follow from the engine's answers alone: they depend on what is in the file
tree only in whether the emission succeeds. -/

namespace WireCodecs

/-- A codec that is emitted, with what is written for it. -/
structure Artifact where
  name : String
  writes : List CodecWrite
  deriving DecidableEq, Repr

/-- What is emitted for some subjects. -/
structure Emission where
  artifacts : List Artifact
  skipped : List Skipped
  deriving DecidableEq, Repr

namespace Emission

def empty : Emission := ⟨[], []⟩

def ofArtifact (artifact : Artifact) : Emission := ⟨[artifact], []⟩

def skip (artifact typeName : String) : Emission := ⟨[], [⟨artifact, typeName⟩]⟩

def concat (emissions : List Emission) : Emission :=
  ⟨emissions.flatMap (·.artifacts), emissions.flatMap (·.skipped)⟩

def writes (emission : Emission) : List CodecWrite := emission.artifacts.flatMap (·.writes)

/-- Only files that are created are reported as written. -/
def report (emission : Emission) : Report where
  written := (emission.writes.filter (·.mode = .create)).map (·.path)
  rendered := emission.artifacts.map (·.name)
  skipped := emission.skipped

@[simp] theorem writes_empty : empty.writes = [] := rfl

@[simp] theorem writes_skip (artifact typeName : String) : (skip artifact typeName).writes = [] :=
  rfl

@[simp] theorem writes_ofArtifact (artifact : Artifact) :
    (ofArtifact artifact).writes = artifact.writes := by
  simp [ofArtifact, writes]

theorem writes_concat_cons (emission : Emission) (emissions : List Emission) :
    (concat (emission :: emissions)).writes = emission.writes ++ (concat emissions).writes := by
  simp [concat, writes]

theorem report_concat_cons (emission : Emission) (emissions : List Emission) :
    (concat (emission :: emissions)).report = emission.report.merge (concat emissions).report := by
  simp [concat, report, writes, Report.merge]

theorem concat_flatMap {α : Type} (items : List α) (f : α → List Emission) :
    concat (items.flatMap f) = concat (items.map fun item => concat (f item)) := by
  simp [concat, List.flatMap_assoc, List.flatMap_map]

theorem concat_map_filter {α : Type} (p : α → Bool) (items : List α) (f : α → Emission) :
    concat ((items.filter p).map f) =
      concat (items.map fun item => if p item then f item else empty) := by
  induction items with
  | nil => rfl
  | cons item items ih =>
    simp only [concat, Emission.mk.injEq] at ih
    by_cases h : p item <;> simp [concat, h, ih, empty]

end Emission

open RunM

/-- Whenever the run succeeds, it gives the report and has made the writes. -/
def Emits (run : RunM Report) (writes : List CodecWrite) (report : Report) : Prop :=
  ∀ scene found after, Yields run scene found after →
    found = report ∧ FileTree.Performed writes scene.tree after.tree

section Writes

theorem performed_of_writeCodec {path text : String} {mode : WriteMode} {scene after : Scene}
    {value : Unit} (h : Yields (writeCodec path text mode) scene value after) :
    FileTree.Performed [⟨path, text, mode⟩] scene.tree after.tree :=
  ⟨after.tree, (yields_writeCodec_iff.mp h).1, rfl⟩

end Writes

namespace Emitter

/-- An emitter with the files and the built-in engine of a language. -/
structure Serves (language : Language) (types : TypeScope) (namespaceName : String)
    (emitter : Emitter) : Prop where
  methodFiles : emitter.methodFiles = language.mappingSet.methodFiles
  customFiles : emitter.customFiles = language.mappingSet.customFiles
  engine : emitter.engine = RenderScope.engine ⟨language.mappingSet, types, namespaceName⟩

section Each

theorem emits_emitEach {α : Type} {emit : α → RunM Report} {items : List α} {f : α → Emission}
    (h : ∀ item ∈ items, Emits (emit item) (f item).writes (f item).report) :
    Emits (emitEach emit items) (Emission.concat (items.map f)).writes
      (Emission.concat (items.map f)).report := by
  induction items with
  | nil =>
    intro scene found after hrun
    obtain ⟨rfl, rfl⟩ := yields_pure_iff.mp hrun
    exact ⟨rfl, rfl⟩
  | cons item items ih =>
    intro scene found after hrun
    obtain ⟨first, between, hfirst, hrun⟩ := yields_bind_iff.mp hrun
    obtain ⟨rest, later, hrest, hrun⟩ := yields_bind_iff.mp hrun
    obtain ⟨rfl, rfl⟩ := yields_pure_iff.mp hrun
    obtain ⟨rfl, hwrites⟩ := h item List.mem_cons_self _ _ _ hfirst
    obtain ⟨rfl, hrests⟩ := ih (fun other hother => h other (List.mem_cons_of_mem _ hother)) _ _ _
      hrest
    rw [List.map_cons, Emission.report_concat_cons, Emission.writes_concat_cons,
      FileTree.performed_append]
    exact ⟨rfl, _, hwrites, hrests⟩

end Each

variable (emitter : Emitter)

section Subjects

theorem yields_render_iff {template : Template} {subject : Subject} {scene after : Scene}
    {rendering : Rendering} : Yields (emitter.render template subject) scene rendering after ↔
      emitter.engine template subject = .ok rendering ∧ after = scene :=
  yields_ofResult_iff

theorem emits_skip (artifact typeName : String) :
    Emits (skip artifact typeName) [] (.skip artifact typeName) := by
  intro scene found after hrun
  obtain ⟨_, between, hlog, hrun⟩ := yields_bind_iff.mp hrun
  obtain ⟨rfl, rfl⟩ := yields_pure_iff.mp hrun
  exact ⟨rfl, yields_log hlog⟩

/-- What is emitted for a subject that has one text. -/
def singleEmission (template : Template) (subject : Subject) (path : String) : Emission :=
  match emitter.engine template subject with
  | .ok (.rendered text) => .ofArtifact ⟨subject.artifact, [⟨path, text, .create⟩]⟩
  | .ok (.unmapped typeName) => .skip subject.artifact typeName
  | .error _ => .empty

theorem emits_emitSingle (template : Template) (subject : Subject) (path : String) :
    Emits (emitter.emitSingle template subject path)
      (emitter.singleEmission template subject path).writes
      (emitter.singleEmission template subject path).report := by
  intro scene found after hrun
  obtain ⟨rendering, between, hrender, hrun⟩ := yields_bind_iff.mp hrun
  obtain ⟨hengine, rfl⟩ := (emitter.yields_render_iff).mp hrender
  rw [singleEmission, hengine]
  cases rendering with
  | rendered text =>
    obtain ⟨_, later, hwrite, hrun⟩ := yields_bind_iff.mp hrun
    obtain ⟨rfl, rfl⟩ := yields_pure_iff.mp hrun
    exact ⟨rfl, performed_of_writeCodec hwrite⟩
  | unmapped typeName => exact emits_skip _ _ _ _ _ hrun

/-- What is emitted for a subject that has a header and a source text. -/
def pairEmission (header source : Template) (subject : Subject)
    (writes : (header source : String) → List CodecWrite) : Emission :=
  match emitter.engine header subject, emitter.engine source subject with
  | .ok (.rendered header), .ok (.rendered source) =>
    .ofArtifact ⟨subject.artifact, writes header source⟩
  | .ok (.unmapped typeName), .ok _ | .ok (.rendered _), .ok (.unmapped typeName) =>
    .skip subject.artifact typeName
  | .error _, _ | _, .error _ => .empty

/-- The files of a pair that are created are the ones that are reported. -/
theorem emits_emitPair (header source : Template) (subject : Subject)
    {write : (header source : String) → RunM (List String)}
    {writes : (header source : String) → List CodecWrite}
    (hwrite : ∀ header source scene written after,
      Yields (write header source) scene written after →
      written = ((writes header source).filter (·.mode = .create)).map (·.path) ∧
        FileTree.Performed (writes header source) scene.tree after.tree) :
    Emits (emitter.emitPair header source subject write)
      (emitter.pairEmission header source subject writes).writes
      (emitter.pairEmission header source subject writes).report := by
  intro scene found after hrun
  obtain ⟨first, between, hheader, hnext⟩ := yields_bind_iff.mp hrun
  obtain ⟨hfirst, rfl⟩ := (emitter.yields_render_iff).mp hheader
  obtain ⟨second, later, hsource, hlast⟩ := yields_bind_iff.mp hnext
  obtain ⟨hsecond, rfl⟩ := (emitter.yields_render_iff).mp hsource
  rw [pairEmission, hfirst, hsecond]
  match first, second with
  | .rendered headerText, .rendered sourceText =>
    obtain ⟨written, last, hwritten, hreturn⟩ := yields_bind_iff.mp hlast
    obtain ⟨rfl, rfl⟩ := yields_pure_iff.mp hreturn
    obtain ⟨rfl, hperformed⟩ := hwrite _ _ _ _ _ hwritten
    simp only [Emission.writes_ofArtifact]
    exact ⟨by simp [Emission.report, Emission.writes, Emission.ofArtifact], hperformed⟩
  | .unmapped typeName, _ => exact emits_skip _ _ _ _ _ hlast
  | .rendered _, .unmapped typeName => exact emits_skip _ _ _ _ _ hlast

end Subjects

section Methods

/-- The methods whose service is not ignored. -/
def includedMethods (services : List Service) : List (Service × Method) :=
  (services.filter (!emitter.ignored.contains ·.id)).flatMap fun service =>
    service.methods.map (service, ·)

/-- Emitting service by service is emitting the methods of the services that are not ignored. -/
theorem concat_includedMethods (services : List Service) (f : Service × Method → Emission) :
    Emission.concat ((emitter.includedMethods services).map f) =
      Emission.concat (services.map fun service =>
        if !emitter.ignored.contains service.id then
          Emission.concat (service.methods.map fun method => f (service, method))
        else .empty) := by
  rw [← Emission.concat_map_filter, includedMethods, List.map_flatMap, Emission.concat_flatMap]
  simp only [List.map_map, Function.comp_def]

theorem emits_emitMethods (services : List Service) {emit : Service → Method → RunM Report}
    {f : Service × Method → Emission}
    (h : ∀ service method, Emits (emit service method) (f (service, method)).writes
      (f (service, method)).report) :
    Emits (emitter.emitMethods services emit)
      (Emission.concat ((emitter.includedMethods services).map f)).writes
      (Emission.concat ((emitter.includedMethods services).map f)).report := by
  rw [emitter.concat_includedMethods]
  refine emits_emitEach fun service _ scene found after hrun => ?_
  split at hrun
  · next hignored =>
    obtain ⟨_, between, hlog, hrun⟩ := yields_bind_iff.mp hrun
    obtain ⟨rfl, rfl⟩ := yields_pure_iff.mp hrun
    rw [if_neg (by simpa using hignored)]
    exact ⟨rfl, yields_log hlog⟩
  · next hincluded =>
    rw [if_pos (by simpa using hincluded)]
    exact emits_emitEach (fun method _ => h service method) _ _ _ hrun

/-- What is added for the methods to the files that they share. -/
def sharedEmission (services : List Service) (header source : String) : Emission :=
  .concat ((emitter.includedMethods services).map fun (service, method) =>
    emitter.pairEmission .methodHeader .methodSource (.method service.name method)
      fun headerText sourceText => [⟨header, headerText, .append⟩, ⟨source, sourceText, .append⟩])

theorem performed_of_writeBoth {path text path' text' : String} {mode mode' : WriteMode}
    {written found : List String} {scene after : Scene}
    (h : Yields (do
      writeCodec path text mode
      writeCodec path' text' mode'
      return written) scene found after) :
    found = written ∧ FileTree.Performed [⟨path, text, mode⟩, ⟨path', text', mode'⟩]
      scene.tree after.tree := by
  obtain ⟨_, between, hfirst, hrest⟩ := yields_bind_iff.mp h
  obtain ⟨_, later, hsecond, hreturn⟩ := yields_bind_iff.mp hrest
  obtain ⟨rfl, rfl⟩ := yields_pure_iff.mp hreturn
  exact ⟨rfl, _, (yields_writeCodec_iff.mp hfirst).1, performed_of_writeCodec hsecond⟩

def consolidatedWrites (services : List Service) (header source : String) : List CodecWrite :=
  [⟨header, emitter.boilerplate.headerStart, .create⟩,
    ⟨source, emitter.boilerplate.sourceStart, .create⟩] ++
  (emitter.sharedEmission services header source).writes ++
  [⟨header, emitter.boilerplate.footer, .append⟩, ⟨source, emitter.boilerplate.footer, .append⟩]

theorem emits_emitConsolidated (services : List Service) (header source : String) :
    Emits (emitter.emitConsolidated services header source)
      (emitter.consolidatedWrites services header source)
      (Report.merge ⟨[header, source], [], []⟩
        (emitter.sharedEmission services header source).report) := by
  have hshared := emitter.emits_emitMethods services
    (f := fun (service, method) =>
      emitter.pairEmission .methodHeader .methodSource (.method service.name method)
        fun headerText sourceText =>
          [⟨header, headerText, .append⟩, ⟨source, sourceText, .append⟩])
    fun service method => emitter.emits_emitPair .methodHeader .methodSource
      (.method service.name method) fun _ _ _ _ _ => performed_of_writeBoth
  intro scene found after hrun
  obtain ⟨_, first, hheader, hrest⟩ := yields_bind_iff.mp hrun
  obtain ⟨_, second, hsource, hrest⟩ := yields_bind_iff.mp hrest
  obtain ⟨report, third, hmethods, hrest⟩ := yields_bind_iff.mp hrest
  obtain ⟨_, fourth, hheaderEnd, hrest⟩ := yields_bind_iff.mp hrest
  obtain ⟨_, fifth, hsourceEnd, hreturn⟩ := yields_bind_iff.mp hrest
  obtain ⟨rfl, rfl⟩ := yields_pure_iff.mp hreturn
  obtain ⟨rfl, hwrites⟩ := hshared _ _ _ hmethods
  refine ⟨rfl, ?_⟩
  simp only [consolidatedWrites, FileTree.performed_append]
  exact ⟨_, ⟨_, ⟨_, (yields_writeCodec_iff.mp hheader).1, performed_of_writeCodec hsource⟩,
    hwrites⟩, _, (yields_writeCodec_iff.mp hheaderEnd).1, performed_of_writeCodec hsourceEnd⟩

/-- The path of the file of a method. -/
def methodPath (directory extension : String) (service : Service) (method : Method) : String :=
  Path.join directory (methodStem service method ++ "." ++ extension)

/-- What is emitted for the methods into files of their own. -/
def methodsEmission (services : List Service) (directory extension : String) : Emission :=
  .concat ((emitter.includedMethods services).map fun (service, method) =>
    emitter.singleEmission .methodCodec (.method service.name method)
      (methodPath directory extension service method))

def codecWrites (services : List Service) (directory : String) : List CodecWrite :=
  match emitter.methodFiles with
  | .consolidated header source =>
    emitter.consolidatedWrites services (Path.join directory header) (Path.join directory source)
  | .perMethod extension => (emitter.methodsEmission services directory extension).writes

def codecReport (services : List Service) (directory : String) : Report :=
  match emitter.methodFiles with
  | .consolidated header source =>
    Report.merge ⟨[Path.join directory header, Path.join directory source], [], []⟩
      (emitter.sharedEmission services (Path.join directory header)
        (Path.join directory source)).report
  | .perMethod extension => (emitter.methodsEmission services directory extension).report

theorem emits_emitCodecs (services : List Service) (directory : String) :
    Emits (emitter.emitCodecs services directory) (emitter.codecWrites services directory)
      (emitter.codecReport services directory) := by
  cases hfiles : emitter.methodFiles with
  | consolidated header source =>
    simp only [emitCodecs, codecWrites, codecReport, hfiles]
    exact emitter.emits_emitConsolidated services _ _
  | perMethod extension =>
    simp only [emitCodecs, codecWrites, codecReport, hfiles]
    exact emitter.emits_emitMethods services
      (f := fun (service, method) =>
        emitter.singleEmission .methodCodec (.method service.name method)
          (methodPath directory extension service method))
      fun service method => emitter.emits_emitSingle .methodCodec (.method service.name method) _

end Methods

section CustomTypes

/-- What is emitted for a custom type. -/
def customEmission (directory : String) (type : CustomType) : Emission :=
  match emitter.customFiles with
  | .pair suffix headerExtension sourceExtension =>
    let stem := Text.lowercase type.name ++ suffix
    emitter.pairEmission .customHeader .customSource (.customType type) fun header source =>
      [⟨Path.join directory (stem ++ "." ++ headerExtension), header, .create⟩,
        ⟨Path.join directory (stem ++ "." ++ sourceExtension), source, .create⟩]
  | .single extension =>
    emitter.singleEmission .customCodec (.customType type)
      (Path.join directory (Naming.capital type.name ++ "Codec." ++ extension))

/-- What is emitted for the custom types of all services. -/
def customsEmission (services : List Service) (directory : String) : Emission :=
  .concat ((services.flatMap (·.customTypes)).map (emitter.customEmission directory))

theorem emits_emitCustomCodec (directory : String) (type : CustomType) :
    Emits (emitter.emitCustomCodec directory type) (emitter.customEmission directory type).writes
      (emitter.customEmission directory type).report := by
  cases hfiles : emitter.customFiles with
  | pair suffix headerExtension sourceExtension =>
    simp only [emitCustomCodec, customEmission, hfiles]
    refine emitter.emits_emitPair .customHeader .customSource (.customType type) ?_
    intro headerText sourceText scene written after hwrite
    obtain ⟨rfl, hperformed⟩ := performed_of_writeBoth hwrite
    exact ⟨by simp, hperformed⟩
  | single extension =>
    simp only [emitCustomCodec, customEmission, hfiles]
    exact emitter.emits_emitSingle .customCodec (.customType type) _

theorem emits_emitCustomCodecs (services : List Service) (directory : String) :
    Emits (emitter.emitCustomCodecs services directory)
      (emitter.customsEmission services directory).writes
      (emitter.customsEmission services directory).report :=
  emits_emitEach fun type _ => emitter.emits_emitCustomCodec directory type

end CustomTypes

end Emitter

end WireCodecs
