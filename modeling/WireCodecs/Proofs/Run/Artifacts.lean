import WireCodecs.Proofs.Files.Overwriting
import WireCodecs.Proofs.Run.Emission
import WireCodecs.Target.Registry

/-! Codecs in files of their own. Every file is created, so what is in it at the end is the text of
the last artifact that was written to its place. No artifact is lost if no two of them have a file
in one place; nothing in the services rules that out, for the names of files are put together from
the names of services and methods. -/

namespace WireCodecs

namespace Language

/-- The extensions of the files of a language. -/
def extensions : Language → List String
  | java => ["java"]
  | cpp => ["h", "cpp"]

/-- Whether a path has an extension of the language. -/
def IsFile (language : Language) (path : String) : Prop :=
  ∃ extension ∈ language.extensions, Path.HasExtension extension path

theorem IsFile.isCodec {language : Language} {path : String} (h : language.IsFile path) :
    Path.IsCodec path := by
  obtain ⟨extension, hmem, hpath⟩ := h
  refine ⟨extension, hpath, fun htmp => absurd (htmp ▸ hmem) ?_⟩
  cases language <;> decide

/-- Files that are named after a stem that ends in at least two characters without slashes. -/
theorem isFile_join {language : Language} (directory front : String) {last extension : String}
    (hmem : extension ∈ language.extensions) (hlast : '/' ∉ last.toList) (hlong : 1 < last.length) :
    language.IsFile (Path.join directory (front ++ last ++ "." ++ extension)) := by
  have hname : Path.lastName (front ++ last) = Path.lastName front ++ last :=
    Path.lastName_of_segments (Path.segments_append front hlast)
  have hlength (other : String) (hother : other.length ≤ 1) :
      Path.lastName (front ++ last) ≠ other := by
    rw [hname]
    intro h
    have := congrArg String.length h
    rw [String.length_append] at this
    omega
  have hplain : '.' ∉ extension.toList ∧ '/' ∉ extension.toList := by
    revert extension
    cases language <;> decide
  exact ⟨extension, hmem, Path.hasExtension_join directory (front ++ last) hplain.1 hplain.2
    (hlength "" (by decide)) (hlength "." (by decide))⟩

end Language

namespace Emission

/-- Every file of every artifact holds the artifact's own text. -/
def Kept (emission : Emission) (tree : FileTree) : Prop :=
  ∀ artifact ∈ emission.artifacts, ∀ write ∈ artifact.writes,
    tree.readBytes write.path = .ok write.bytes

/-- Every artifact has files of its own, which are files of the language. -/
def Separate (language : Language) (emission : Emission) : Prop :=
  ∀ write ∈ emission.writes, write.mode = .create ∧ language.IsFile write.path

theorem written_of_creates {emission : Emission}
    (h : ∀ write ∈ emission.writes, write.mode = .create) :
    emission.report.written = emission.writes.map (·.path) := by
  rw [report, List.filter_eq_self.mpr fun write hmem => by simp [h write hmem]]

/-- What every part writes is all that is written. -/
theorem forall_writes_concat {α : Type} {items : List α} {f : α → Emission}
    {p : CodecWrite → Prop} (h : ∀ item ∈ items, ∀ write ∈ (f item).writes, p write) :
    ∀ write ∈ (concat (items.map f)).writes, p write := by
  intro write hmem
  simp only [writes, concat, List.flatMap_map, List.mem_flatMap] at hmem
  obtain ⟨artifact, ⟨item, hitem, hartifact⟩, hwrite⟩ := hmem
  exact h item hitem write (List.mem_flatMap.mpr ⟨artifact, hartifact, hwrite⟩)

end Emission

namespace Emitter

variable (emitter : Emitter)

theorem forall_writes_singleEmission (template : Template) (subject : Subject) {path : String}
    {p : CodecWrite → Prop} (h : ∀ text, p ⟨path, text, .create⟩) :
    ∀ write ∈ (emitter.singleEmission template subject path).writes, p write := by
  unfold singleEmission
  split <;> simp [h]

theorem forall_writes_pairEmission (header source : Template) (subject : Subject)
    {writes : (header source : String) → List CodecWrite} {p : CodecWrite → Prop}
    (h : ∀ header source, ∀ write ∈ writes header source, p write) :
    ∀ write ∈ (emitter.pairEmission header source subject writes).writes, p write := by
  unfold pairEmission
  split
  · simpa using h _ _
  all_goals simp

theorem separate_methodsEmission (services : List Service) (directory : String) :
    (emitter.methodsEmission services directory "java").Separate .java := by
  refine Emission.forall_writes_concat fun (service, method) _ => ?_
  refine emitter.forall_writes_singleEmission _ _ fun _ => ⟨rfl, ?_⟩
  exact Language.isFile_join directory _ (by decide) (by decide) (by decide)

theorem separate_customsEmission (services : List Service) (directory : String)
    {language : Language} (hfiles : emitter.customFiles = language.mappingSet.customFiles) :
    (emitter.customsEmission services directory).Separate language := by
  refine Emission.forall_writes_concat fun type _ => ?_
  cases language with
  | java =>
    change emitter.customFiles = .single "java" at hfiles
    rw [customEmission, hfiles]
    refine emitter.forall_writes_singleEmission _ _ fun _ => ⟨rfl, ?_⟩
    rw [show "Codec." = "Codec" ++ "." from rfl, ← String.append_assoc]
    exact Language.isFile_join directory _ (by decide) (by decide) (by decide)
  | cpp =>
    change emitter.customFiles = .pair "_codec" "h" "cpp" at hfiles
    rw [customEmission, hfiles]
    refine emitter.forall_writes_pairEmission _ _ _ fun _ _ => ?_
    simp only [List.forall_mem_cons, List.not_mem_nil, false_implies, implies_true, and_true,
      true_and]
    exact ⟨Language.isFile_join directory _ (by decide) (by decide) (by decide),
      Language.isFile_join directory _ (by decide) (by decide) (by decide)⟩

/-- The emissions that give every artifact files of its own. -/
inductive EmitsSeparately (services : List Service) (directory : String) :
    RunM Report → Emission → Prop
  | methods (hfiles : emitter.methodFiles = Java.mappingSet.methodFiles) :
    EmitsSeparately services directory (emitter.emitCodecs services directory)
      (emitter.methodsEmission services directory "java")
  | customs (language : Language) (hfiles : emitter.customFiles = language.mappingSet.customFiles) :
    EmitsSeparately services directory (emitter.emitCustomCodecs services directory)
      (emitter.customsEmission services directory)

variable {emitter}

theorem EmitsSeparately.separate {services : List Service} {directory : String} {run : RunM Report}
    {emission : Emission} (h : emitter.EmitsSeparately services directory run emission) :
    (∃ language, emission.Separate language) ∧ Emits run emission.writes emission.report := by
  cases h with
  | methods hfiles =>
    change emitter.methodFiles = .perMethod "java" at hfiles
    have hemits := emitter.emits_emitCodecs services directory
    simp only [codecWrites, codecReport, hfiles] at hemits
    exact ⟨⟨.java, emitter.separate_methodsEmission services directory⟩, hemits⟩
  | customs language hfiles =>
    exact ⟨⟨language, emitter.separate_customsEmission services directory hfiles⟩,
      emitter.emits_emitCustomCodecs services directory⟩

end Emitter

/-- A written file holds the text of the last artifact that was written to its place. If the places
of the written files differ, their paths differ and every artifact's files hold the artifact's own
text. -/
theorem kept_of_emitsSeparately {emitter : Emitter} {services : List Service} {directory : String}
    {run : RunM Report} {emission : Emission} {tree : FileTree} {report : Report} {scene : Scene}
    (hemission : emitter.EmitsSeparately services directory run emission)
    (hclear : tree.ClearFor emission.writes)
    (halone : FileTree.AloneFor tree scene.tree emission.writes)
    (hrun : run.start tree = (.ok report, scene)) :
    report.rendered = emission.artifacts.map (·.name) ∧
      report.written = emission.writes.map (·.path) ∧
      (∀ write ∈ emission.writes, ∃ final,
        lastTo? scene.tree.placeOf (scene.tree.placeOf write.path) emission.writes = some final ∧
          scene.tree.readBytes write.path = .ok final.bytes) ∧
      ((emission.writes.map (scene.tree.placeOf ·.path)).Nodup →
        report.written.Nodup ∧ emission.Kept scene.tree) := by
  obtain ⟨⟨language, hseparate⟩, hemits⟩ := hemission.separate
  obtain ⟨rfl, hperformed⟩ := hemits _ _ _ (RunM.start_eq_ok_iff.mp hrun)
  have hcreates : ∀ write ∈ emission.writes, write.mode = .create := fun write hmem =>
    (hseparate write hmem).1
  have hlast : ∀ write ∈ emission.writes, ∃ final,
      lastTo? scene.tree.placeOf (scene.tree.placeOf write.path) emission.writes = some final ∧
        scene.tree.readBytes write.path = .ok final.bytes := by
    intro write hmem
    obtain ⟨content, hread, hcontent⟩ := FileTree.readBytes_of_performed hclear halone
      (fun write hmem => (hseparate write hmem).2.isCodec)
      (createsFirst_of_creates hcreates) hperformed
      (fun other hother directory hreaches => by
        obtain ⟨extension, -, hpath⟩ := (hseparate other hother).2
        exact FileTree.placeOf_eq hpath hreaches) hmem
    obtain ⟨final, hfinal⟩ : ∃ final, lastTo? scene.tree.placeOf (scene.tree.placeOf write.path)
        emission.writes = some final := exists_lastTo? hmem
    rw [contentAfter_of_creates hcreates, hfinal, Option.map_some, Option.some_or,
      Option.some.injEq] at hcontent
    exact ⟨final, hfinal, hcontent ▸ hread⟩
  refine ⟨rfl, Emission.written_of_creates hcreates, hlast, fun hplaces => ⟨?_, ?_⟩⟩
  · rw [Emission.written_of_creates hcreates]
    exact List.Nodup.of_map scene.tree.placeOf (by rwa [List.map_map])
  · intro artifact hartifact write hwrite
    have hmem : write ∈ emission.writes := List.mem_flatMap.mpr ⟨artifact, hartifact, hwrite⟩
    obtain ⟨final, hfinal, hread⟩ := hlast write hmem
    rw [lastTo?_of_nodup hplaces hmem, Option.some.injEq] at hfinal
    rw [hread, hfinal]

/-- An emitter for Java codecs whose texts are the names of the artifacts. -/
def namingEmitter : Emitter where
  language := .java
  methodFiles := Java.mappingSet.methodFiles
  customFiles := Java.mappingSet.customFiles
  engine := fun _ subject => .ok (.rendered subject.artifact)
  ignored := []
  boilerplate := .empty

def serviceOf (id : UInt8) (name : String) (methods : List String) : Service where
  id := id
  name := name
  methods := methods.map fun method => ⟨1, method, none, none, ⟨⟨0⟩, none, []⟩, ⟨⟨1⟩, none, []⟩, []⟩
  customTypes := []

theorem kept_of_emitsSeparately_distinct_names :
    ∃ scene, (namingEmitter.emitCodecs [serviceOf 1 "map" ["get", "put"]] "out").start .empty =
        (.ok ⟨["out/MapGetCodec.java", "out/MapPutCodec.java"], ["map.get", "map.put"], []⟩,
          scene) ∧
      (namingEmitter.methodsEmission [serviceOf 1 "map" ["get", "put"]] "out" "java").Kept
        scene.tree := by
  have hrun : (namingEmitter.emitCodecs [serviceOf 1 "map" ["get", "put"]] "out").start .empty =
      (.ok ⟨["out/MapGetCodec.java", "out/MapPutCodec.java"], ["map.get", "map.put"], []⟩,
        ((namingEmitter.emitCodecs [serviceOf 1 "map" ["get", "put"]] "out").start .empty).2) :=
    RunM.start_of_toOption (by decide +kernel)
  obtain ⟨-, -, -, hkept⟩ := kept_of_emitsSeparately (.methods rfl)
    (FileTree.linkFree_empty.clearFor _) (FileTree.hasNoHardLinks_empty.aloneFor _ _) hrun
  exact ⟨_, hrun, (hkept (by decide +kernel)).2⟩

def collidingServices : List Service := [serviceOf 1 "map" ["putAll"], serviceOf 2 "mapPut" ["all"]]

/-- The method `putAll` of `map` and the method `all` of `mapPut` have one file, so one of them is
lost, though both are reported as rendered. -/
example :
    ((namingEmitter.emitCodecs collidingServices "out").start .empty).1.toOption =
        some ⟨["out/MapPutAllCodec.java", "out/MapPutAllCodec.java"],
          ["map.putAll", "mapPut.all"], []⟩ ∧
      (((namingEmitter.emitCodecs collidingServices "out").start .empty).2.tree.readBytes
        "out/MapPutAllCodec.java").toOption = some "mapPut.all".toUTF8 := by
  decide +kernel

end WireCodecs
