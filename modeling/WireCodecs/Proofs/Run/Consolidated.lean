import WireCodecs.Proofs.Files.Appending
import WireCodecs.Proofs.Run.Emission
import WireCodecs.Target.Cpp

/-! The files that all methods share. The header and the source file hold the fixed texts with the
fragments of the methods between them, in order, each text sealed by itself; a method is in both
files or in neither. -/

namespace WireCodecs

/-- The parts of the shared files that belong to a method. -/
structure Fragment where
  artifact : String
  header : String
  source : String
  deriving DecidableEq, Repr

/-- Texts that are sealed one by one. -/
def sharedText (start : String) (parts : List String) (finish : String) : String :=
  sealedText start ++ String.join (parts.map sealedText) ++ sealedText finish

namespace Emitter

variable (emitter : Emitter)

def fragment? (service : Service) (method : Method) : Option Fragment :=
  match emitter.engine .methodHeader (.method service.name method),
    emitter.engine .methodSource (.method service.name method) with
  | .ok (.rendered header), .ok (.rendered source) =>
    some ⟨(Subject.method service.name method).artifact, header, source⟩
  | _, _ => none

/-- The fragments of the methods whose service is not ignored, if both parts are rendered. -/
def fragments (services : List Service) : List Fragment :=
  (emitter.includedMethods services).filterMap fun (service, method) =>
    emitter.fragment? service method

theorem artifacts_sharedEmission (services : List Service) (header source : String) :
    (emitter.sharedEmission services header source).artifacts =
      (emitter.fragments services).map fun fragment =>
        ⟨fragment.artifact,
          [⟨header, fragment.header, .append⟩, ⟨source, fragment.source, .append⟩]⟩ := by
  have hmethod : ∀ service method,
      (emitter.pairEmission .methodHeader .methodSource (.method service.name method)
        fun headerText sourceText =>
          [⟨header, headerText, .append⟩, ⟨source, sourceText, .append⟩]).artifacts =
      ((emitter.fragment? service method).map fun fragment => Artifact.mk fragment.artifact
        [⟨header, fragment.header, .append⟩, ⟨source, fragment.source, .append⟩]).toList := by
    intro service method
    unfold pairEmission fragment?
    split <;> simp_all [Emission.ofArtifact, Emission.skip, Emission.empty]
  rw [sharedEmission, Emission.concat, List.flatMap_map, fragments, List.map_filterMap,
    List.filterMap_eq_flatMap_toList]
  exact List.flatMap_congr fun pair _ => hmethod pair.1 pair.2

/-- What is appended to the files after their first texts. -/
def sharedAppends (services : List Service) (header source : String) : List CodecWrite :=
  (emitter.sharedEmission services header source).writes ++
    [⟨header, emitter.boilerplate.footer, .append⟩, ⟨source, emitter.boilerplate.footer, .append⟩]

theorem mem_sharedAppends {services : List Service} {header source : String} {write : CodecWrite}
    (h : write ∈ emitter.sharedAppends services header source) :
    write.mode = .append ∧ write.path ∈ [header, source] := by
  rw [sharedAppends, Emission.writes, artifacts_sharedEmission] at h
  simp only [List.flatMap_map, List.mem_append, List.mem_flatMap, List.mem_cons,
    List.not_mem_nil, or_false] at h
  rcases h with ⟨fragment, -, rfl | rfl⟩ | rfl | rfl <;> simp

/-- Each of the two files gets its own part of every fragment. -/
theorem appended_sharedAppends (services : List Service) {header source : String}
    (hne : header ≠ source) :
    FileTree.appended header (emitter.sharedAppends services header source) =
        String.join (((emitter.fragments services).map (·.header)).map sealedText) ++
          sealedText emitter.boilerplate.footer ∧
      FileTree.appended source (emitter.sharedAppends services header source) =
        String.join (((emitter.fragments services).map (·.source)).map sealedText) ++
          sealedText emitter.boilerplate.footer := by
  have happended (path : String) : FileTree.appended path
      (emitter.sharedAppends services header source) =
        String.join ((emitter.fragments services).map fun fragment =>
          FileTree.appended path
            [⟨header, fragment.header, .append⟩, ⟨source, fragment.source, .append⟩]) ++
        FileTree.appended path [⟨header, emitter.boilerplate.footer, .append⟩,
          ⟨source, emitter.boilerplate.footer, .append⟩] := by
    rw [sharedAppends, FileTree.appended_append, Emission.writes, artifacts_sharedEmission,
      List.flatMap_map]
    congr 1
    generalize emitter.fragments services = fragments
    induction fragments with
    | nil => rfl
    | cons fragment rest ih => rw [List.flatMap_cons, FileTree.appended_append, ih]; simp
  have hne' := hne.symm
  rw [happended, happended]
  simp [FileTree.appended, hne, hne', Function.comp_def]

end Emitter

/-- Each of the shared files of the C++ codecs holds its first text, its part of every fragment in
the order of the methods, and its last text, unless a link stands where the file is written first or
the two places where the files are written first are names of one file. -/
theorem sharedFiles_of_emitCodecs {emitter : Emitter} {services : List Service} {directory : String}
    {tree : FileTree} {report : Report} {scene : Scene}
    (hfiles : emitter.methodFiles = Cpp.mappingSet.methodFiles)
    (hlink : ∀ name ∈ ["codecs.h", "codecs.cpp"],
      (tree.makeParent (Path.join directory "codecs.h")).1.isLink
        (Path.temporary (Path.join directory name)) = false)
    (hsame : (tree.makeParent (Path.join directory "codecs.h")).1.isSameFile
      (Path.temporary (Path.join directory "codecs.h"))
      (Path.temporary (Path.join directory "codecs.cpp")) = false)
    (hrun : (emitter.emitCodecs services directory).start tree = (.ok report, scene)) :
    scene.tree.readBytes (Path.join directory "codecs.h") =
        .ok (sharedText emitter.boilerplate.headerStart
          ((emitter.fragments services).map (·.header)) emitter.boilerplate.footer).toUTF8 ∧
      scene.tree.readBytes (Path.join directory "codecs.cpp") =
        .ok (sharedText emitter.boilerplate.sourceStart
          ((emitter.fragments services).map (·.source)) emitter.boilerplate.footer).toUTF8 ∧
      report.rendered = (emitter.fragments services).map (·.artifact) := by
  obtain ⟨hreport, hperformed⟩ := emitter.emits_emitCodecs services directory _ _ _
    (RunM.start_eq_ok_iff.mp hrun)
  change emitter.methodFiles = .consolidated "codecs.h" "codecs.cpp" at hfiles
  simp only [Emitter.codecReport, Emitter.codecWrites, hfiles] at hreport hperformed
  have hheader : Path.HasExtension "h" (Path.join directory "codecs.h") :=
    Path.hasExtension_join directory "codecs" (by decide) (by decide) (by decide) (by decide)
  have hsource : Path.HasExtension "cpp" (Path.join directory "codecs.cpp") :=
    Path.hasExtension_join directory "codecs" (by decide) (by decide) (by decide) (by decide)
  have hway : Path.way (Path.join directory "codecs.h") =
      Path.way (Path.join directory "codecs.cpp") := by
    have hplain : '/' ∉ "codecs.h".toList ∧ '/' ∉ "codecs.cpp".toList := by decide
    rw [Path.way, Path.way, Path.folder_join_eq directory hplain.1 hplain.2]
  have hname : Path.lastName (Path.join directory "codecs.h") ≠
      Path.lastName (Path.join directory "codecs.cpp") := by
    rw [Path.lastName_join, Path.lastName_join]
    decide
  have hne : Path.join directory "codecs.h" ≠ Path.join directory "codecs.cpp" :=
    fun h => hname (h ▸ rfl)
  rw [Emitter.consolidatedWrites, List.append_assoc] at hperformed
  obtain ⟨hreadHeader, hreadSource⟩ := FileTree.readBytes_of_shared hheader hsource (by decide) hway
    hname (hlink _ (by simp)) (hlink _ (by simp)) hsame (fun _ => emitter.mem_sharedAppends)
    (by simp [Emitter.sharedAppends]) hperformed
  obtain ⟨happendHeader, happendSource⟩ := emitter.appended_sharedAppends services hne
  rw [happendHeader, ← String.append_assoc] at hreadHeader
  rw [happendSource, ← String.append_assoc] at hreadSource
  refine ⟨hreadHeader, hreadSource, ?_⟩
  rw [hreport, Report.merge, Emission.report, Emitter.artifacts_sharedEmission]
  simp

/-- An emitter for the shared files of C++ codecs, with the given engine. -/
def sharedEmitter (engine : Engine) : Emitter where
  language := .cpp
  methodFiles := Cpp.mappingSet.methodFiles
  customFiles := Cpp.mappingSet.customFiles
  engine := engine
  ignored := [7]
  boilerplate := ⟨"first\n", "second\n", "last\n"⟩

/-- An engine without a header text for the method `get`. -/
def halfEngine : Engine := fun template subject =>
  if template = .methodHeader ∧ subject.artifact = "map.get" then .ok (.unmapped "Data")
  else .ok (.rendered (subject.artifact ++ "\n"))

def fieldlessMethod (name : String) : Method :=
  ⟨1, name, none, none, ⟨⟨0⟩, none, []⟩, ⟨⟨1⟩, none, []⟩, []⟩

/-- A service with two methods, and one that is ignored. -/
def mapServices : List Service :=
  [⟨1, "map", [fieldlessMethod "get", fieldlessMethod "put"], []⟩,
    ⟨7, "set", [fieldlessMethod "add"], []⟩]

/-- A method that has only one of its parts is in neither file, nor is what was there before. -/
theorem sharedFiles_of_emitCodecs_half_mapped :
    ∃ scene, ((sharedEmitter halfEngine).emitCodecs mapServices "out").start
        (.ofEntries [(["out"], .directory), (["out", "codecs.h"], .file "old".toUTF8)]) =
          (.ok ⟨["out/codecs.h", "out/codecs.cpp"], ["map.put"], [⟨"map.get", "Data"⟩]⟩, scene) ∧
      scene.tree.readBytes "out/codecs.h" = .ok "first\nmap.put\nlast\n".toUTF8 ∧
      scene.tree.readBytes "out/codecs.cpp" = .ok "second\nmap.put\nlast\n".toUTF8 := by
  obtain ⟨scene, hrun⟩ : ∃ scene,
      ((sharedEmitter halfEngine).emitCodecs mapServices "out").start
        (.ofEntries [(["out"], .directory), (["out", "codecs.h"], .file "old".toUTF8)]) =
          (.ok ⟨["out/codecs.h", "out/codecs.cpp"], ["map.put"], [⟨"map.get", "Data"⟩]⟩, scene) :=
    ⟨_, RunM.start_of_toOption (by decide +kernel)⟩
  obtain ⟨hheader, hsource, -⟩ :=
    sharedFiles_of_emitCodecs rfl (by decide +kernel) (by decide +kernel) hrun
  have hpaths : Path.join "out" "codecs.h" = "out/codecs.h" ∧
      Path.join "out" "codecs.cpp" = "out/codecs.cpp" := by
    decide +kernel
  have htexts : sharedText "first\n" ["map.put\n"] "last\n" = "first\nmap.put\nlast\n" ∧
      sharedText "second\n" ["map.put\n"] "last\n" = "second\nmap.put\nlast\n" := by
    decide +kernel
  have hfragments : (sharedEmitter halfEngine).fragments mapServices =
      [⟨"map.put", "map.put\n", "map.put\n"⟩] := by
    decide +kernel
  refine ⟨scene, hrun, ?_, ?_⟩
  · rw [← hpaths.1, hheader, hfragments, ← htexts.1]
    rfl
  · rw [← hpaths.2, hsource, hfragments, ← htexts.2]
    rfl

/-- With a link to the header where the source file is written first, the two become one file, and
so they do if the places where they are written first are names of one file. -/
theorem sharedFiles_of_linked_sibling :
    (∃ scene, ((sharedEmitter halfEngine).emitCodecs mapServices "out").start
        (.ofEntries [(["out"], .directory), (["out", "codecs.cpp.tmp"], .link "codecs.h")]) =
          (.ok ⟨["out/codecs.h", "out/codecs.cpp"], ["map.put"], [⟨"map.get", "Data"⟩]⟩, scene) ∧
      scene.tree.readBytes "out/codecs.h" ≠
        .ok (sharedText "first\n"
          (((sharedEmitter halfEngine).fragments mapServices).map (·.header)) "last\n").toUTF8) ∧
    ∃ scene, ((sharedEmitter halfEngine).emitCodecs mapServices "out").start
        ⟨[(["out"], .directory), (["out", "codecs.h.tmp"], .file 0),
          (["out", "codecs.cpp.tmp"], .file 0)], fun _ => ByteArray.empty⟩ =
          (.ok ⟨["out/codecs.h", "out/codecs.cpp"], ["map.put"], [⟨"map.get", "Data"⟩]⟩, scene) ∧
      scene.tree.readBytes "out/codecs.h" ≠
        .ok (sharedText "first\n"
          (((sharedEmitter halfEngine).fragments mapServices).map (·.header)) "last\n").toUTF8 :=
  ⟨⟨_, RunM.start_of_toOption (by decide +kernel),
      fun h => absurd (congrArg Except.toOption h) (by decide +kernel)⟩,
    _, RunM.start_of_toOption (by decide +kernel),
    fun h => absurd (congrArg Except.toOption h) (by decide +kernel)⟩

end WireCodecs
