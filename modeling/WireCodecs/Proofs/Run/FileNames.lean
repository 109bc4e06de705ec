import WireCodecs.Proofs.Codec.Fields
import WireCodecs.Proofs.Code
import WireCodecs.Proofs.Files.Path
import WireCodecs.Proofs.Naming
import WireCodecs.Proofs.Run.Emission
import WireCodecs.Target.Registry

/-! The names of files and what is in them. A Java class is in a file of its own, whose name the
emission puts together from the same names as the codec puts together the name of the class. For a
method the two always agree up to slashes. For a custom type the file has the capitalised name and
the class the Pascal form of it, so they agree only for names without underscores and parentheses.
The C++ source of a custom type includes the header that is written next to it, whatever the name.
-/

namespace WireCodecs

namespace Java

theorem blocks_documentation (doc since : Option String) :
    (documentation doc since).blocks = [] := by
  cases doc <;> cases since <;> rfl

theorem blocks_methodCode (scope : RenderScope) (service : String) (method : Method)
    (plan : PlannedMethod) :
    (methodCode scope service method plan).blocks =
      ["public final class " ++ className service method.name] := by
  have hheader : (fileHeader scope.namespaceName).blocks = [] := rfl
  have hnote : generatedNote.blocks = [] := rfl
  simp [methodCode, hheader, hnote, blocks_documentation, Code.braces, Code.blocks]

theorem blocks_customCode (scope : RenderScope) (type : CustomType) (plans : Plans) :
    (customCode scope type plans).blocks =
      ["public final class " ++ (scope.set.typeCase type.name ++ "Codec")] := by
  have hheader : (fileHeader scope.namespaceName).blocks = [] := rfl
  have hnote : generatedNote.blocks = [] := rfl
  simp [customCode, hheader, hnote, blocks_documentation, Code.braces, Code.blocks]

end Java

namespace Cpp

/-- The file that the source of a custom type includes. -/
def includedHeader (type : CustomType) : String := customStructName type.name ++ ".h"

theorem inText_include (scope : RenderScope) (type : CustomType) (plans : Plans) :
    Code.InText indent ((customSourceCode scope type plans).render indent)
      (.line ("#include \"" ++ includedHeader type ++ "\"")) := by
  have hline : "#include \"" ++ includedHeader type ++ "\"" =
      "#include \"" ++ customStructName type.name ++ ".h\"" := by
    rw [includedHeader, String.append_assoc, String.append_assoc, String.append_assoc]
    rfl
  rw [hline]
  exact Code.PartOf.inText (.item 1 rfl .whole)

end Cpp

section Stems

/-- A codec file with an extension of a language has a stem. -/
theorem Path.stem?_codec (directory front : String) {extension : String}
    (hperiod : '.' ∉ extension.toList) (hslash : '/' ∉ extension.toList) :
    Path.stem? (Path.join directory (front ++ "Codec" ++ "." ++ extension)) =
      some (Path.lastName (front ++ "Codec")) := by
  have hname : Path.lastName (front ++ "Codec") = Path.lastName front ++ "Codec" :=
    Path.lastName_of_segments (Path.segments_append front (by decide))
  have hlong : ∀ other : String, other.length ≤ 1 → Path.lastName (front ++ "Codec") ≠ other := by
    intro other hother h
    have hlength := congrArg String.length (hname.symm.trans h)
    rw [String.length_append] at hlength
    have hcodec : "Codec".length = 5 := rfl
    omega
  exact Path.stem?_join directory _ hperiod hslash (hlong "" (by decide)) (hlong "." (by decide))

/-- A stem has no slashes, so it is a name only if the name has none and is what the file is named
after. -/
theorem Path.lastName_eq_iff {named name : String} (h : '/' ∈ named.toList ↔ '/' ∈ name.toList) :
    Path.lastName named = name ↔ '/' ∉ name.toList ∧ named = name := by
  constructor
  · rintro rfl
    have hslash := Path.slash_notMem_lastName named
    exact ⟨hslash, (Path.lastName_of_notMem (mt h.mp hslash)).symm⟩
  · rintro ⟨hslash, rfl⟩
    exact Path.lastName_of_notMem hslash

end Stems

section Emissions

theorem Emission.mem_writes_concat_iff {α : Type} {items : List α} {f : α → Emission}
    {write : CodecWrite} :
    write ∈ (Emission.concat (items.map f)).writes ↔ ∃ item ∈ items, write ∈ (f item).writes := by
  simp only [writes, concat, List.flatMap_map, List.mem_flatMap]
  constructor
  · rintro ⟨artifact, ⟨item, hitem, hartifact⟩, hwrite⟩
    exact ⟨item, hitem, artifact, hartifact, hwrite⟩
  · rintro ⟨item, hitem, artifact, hartifact, hwrite⟩
    exact ⟨artifact, ⟨item, hitem, hartifact⟩, hwrite⟩

theorem Rendering.eq_ok_of_ofResult {result : Except Unmapped String} {text : String}
    (h : ofResult result = .rendered text) : result = .ok text := by
  cases result with
  | ok other => exact congrArg _ (Rendering.rendered.inj h)
  | error type => cases h

namespace Emitter

variable {emitter : Emitter} {subject : Subject}

theorem exists_of_mem_singleEmission {template : Template} {path : String} {write : CodecWrite}
    (h : write ∈ (emitter.singleEmission template subject path).writes) :
    ∃ text, emitter.engine template subject = .ok (.rendered text) ∧
      write = ⟨path, text, .create⟩ := by
  unfold singleEmission at h
  split at h
  · next text hengine =>
    rw [Emission.writes_ofArtifact] at h
    exact ⟨text, hengine, List.mem_singleton.mp h⟩
  · cases h
  · cases h

theorem exists_of_mem_pairEmission {header source : Template}
    {writes : (header source : String) → List CodecWrite} {artifact : Artifact}
    (h : artifact ∈ (emitter.pairEmission header source subject writes).artifacts) :
    ∃ headerText sourceText, emitter.engine header subject = .ok (.rendered headerText) ∧
      emitter.engine source subject = .ok (.rendered sourceText) ∧
      artifact.writes = writes headerText sourceText := by
  unfold pairEmission at h
  split at h
  · next headerText sourceText hheader hsource =>
    obtain rfl := List.mem_singleton.mp h
    exact ⟨headerText, sourceText, hheader, hsource, rfl⟩
  all_goals cases h

end Emitter

end Emissions

section Files

variable {emitter : Emitter} {types : TypeScope} {namespaceName : String}
  {services : List Service} {directory : String}

/-- A file for the stem has the text of the code, whose only block is the class. -/
structure Java.IsClassFile (directory stem name : String) (code : Code Empty)
    (write : CodecWrite) : Prop where
  path : write.path = Path.join directory (stem ++ "." ++ "java")
  text : write.text = code.render Java.indent
  block : code.blocks = ["public final class " ++ name]

theorem Java.exists_of_mem_codecWrites (h : emitter.Serves .java types namespaceName)
    {write : CodecWrite} (hmem : write ∈ emitter.codecWrites services directory) :
    let scope : RenderScope := ⟨mappingSet, types, namespaceName⟩
    ∃ service ∈ services, ∃ method ∈ service.methods, ∃ plan,
      planMethod scope method = .ok plan ∧
      IsClassFile directory (className service.name method.name)
        (className service.name method.name) (methodCode scope service.name method plan) write := by
  intro scope
  have hfiles : emitter.methodFiles = .perMethod "java" := h.methodFiles
  simp only [Emitter.codecWrites, hfiles] at hmem
  obtain ⟨⟨service, method⟩, hincluded, hwrite⟩ := Emission.mem_writes_concat_iff.mp hmem
  obtain ⟨listed, hlisted, hmethod⟩ := List.mem_flatMap.mp hincluded
  obtain ⟨other, hother, hpair⟩ := List.mem_map.mp hmethod
  cases hpair
  obtain ⟨text, hengine, rfl⟩ := Emitter.exists_of_mem_singleEmission hwrite
  rw [h.engine] at hengine
  obtain ⟨plan, hplan, htext⟩ :=
    bind_eq_ok_iff.mp (Rendering.eq_ok_of_ofResult (Except.ok.inj hengine))
  refine ⟨service, List.mem_of_mem_filter hlisted, method, hother, plan, hplan, ?_⟩
  constructor
  case path => rw [Emitter.methodPath, Emitter.methodStem, className]
  case text => exact pure_eq_ok_iff.mp htext
  case block => exact blocks_methodCode scope service.name method plan

theorem Java.exists_of_mem_customWrites (h : emitter.Serves .java types namespaceName)
    {write : CodecWrite} (hmem : write ∈ (emitter.customsEmission services directory).writes) :
    let scope : RenderScope := ⟨mappingSet, types, namespaceName⟩
    ∃ service ∈ services, ∃ type ∈ service.customTypes, ∃ plans,
      scope.plans type.fields = .ok plans ∧
      IsClassFile directory (Naming.capital type.name ++ "Codec")
        (Naming.pascal type.name ++ "Codec") (customCode scope type plans) write := by
  intro scope
  have hfiles : emitter.customFiles = .single "java" := h.customFiles
  obtain ⟨type, htype, hwrite⟩ := Emission.mem_writes_concat_iff.mp hmem
  obtain ⟨service, hservice, hdeclared⟩ := List.mem_flatMap.mp htype
  simp only [Emitter.customEmission, hfiles] at hwrite
  obtain ⟨text, hengine, rfl⟩ := Emitter.exists_of_mem_singleEmission hwrite
  rw [h.engine] at hengine
  obtain ⟨plans, hplans, htext⟩ :=
    bind_eq_ok_iff.mp (Rendering.eq_ok_of_ofResult (Except.ok.inj hengine))
  refine ⟨service, hservice, type, hdeclared, plans, hplans, ?_, pure_eq_ok_iff.mp htext,
    blocks_customCode scope type plans⟩
  rw [show "Codec." = "Codec" ++ "." from rfl, ← String.append_assoc]

theorem Cpp.exists_of_mem_customArtifacts (h : emitter.Serves .cpp types namespaceName)
    {artifact : Artifact}
    (hmem : artifact ∈ (emitter.customsEmission services directory).artifacts) :
    ∃ service ∈ services, ∃ type ∈ service.customTypes, ∃ header source,
      artifact.writes = [⟨Path.join directory (includedHeader type), header, .create⟩,
        ⟨Path.join directory (customStructName type.name ++ ".cpp"), source, .create⟩] ∧
      Code.InText indent source (.line ("#include \"" ++ includedHeader type ++ "\"")) := by
  have hfiles : emitter.customFiles = .pair "_codec" "h" "cpp" := h.customFiles
  obtain ⟨emission, hemission, hartifact⟩ := List.mem_flatMap.mp hmem
  obtain ⟨type, htype, rfl⟩ := List.mem_map.mp hemission
  obtain ⟨service, hservice, hdeclared⟩ := List.mem_flatMap.mp htype
  simp only [Emitter.customEmission, hfiles] at hartifact
  obtain ⟨header, source, -, hsource, hwrites⟩ := Emitter.exists_of_mem_pairEmission hartifact
  rw [h.engine] at hsource
  obtain ⟨plans, -, htext⟩ :=
    bind_eq_ok_iff.mp (Rendering.eq_ok_of_ofResult (Except.ok.inj hsource))
  refine ⟨service, hservice, type, hdeclared, header, source, ?_, ?_⟩
  · rw [hwrites, includedHeader, customStructName]
    simp only [String.append_assoc]
    rfl
  · rw [pure_eq_ok_iff.mp htext]
    exact inText_include _ type plans

end Files

section Agreement

variable {directory : String}

theorem Java.slash_mem_className_iff (service method : String) :
    '/' ∈ (className service method).toList ↔ '/' ∈ service.toList ∨ '/' ∈ method.toList := by
  have hmark : Text.isMark '/' := by decide
  simp [className, Naming.mem_capital_iff hmark]

/-- The file of a method has the name of the class in it, as far as a file can. -/
theorem Java.stem?_of_method {service method : String} {code : Code Empty} {write : CodecWrite}
    (h : IsClassFile directory (className service method) (className service method) code write) :
    Path.stem? write.path = some (className service method) ↔
      '/' ∉ service.toList ∧ '/' ∉ method.toList := by
  have hstem : Path.stem? write.path = some (Path.lastName (className service method)) := by
    rw [h.path, className]
    exact Path.stem?_codec directory _ (by decide) (by decide)
  rw [hstem, Option.some.injEq, Path.lastName_eq_iff Iff.rfl, and_iff_left rfl,
    slash_mem_className_iff, not_or]

/-- The file of a custom type has the name of the class in it exactly if nothing is dropped from the
name of the type to make the name of the class. -/
theorem Java.stem?_of_customType {name : String} {code : Code Empty} {write : CodecWrite}
    (h : IsClassFile directory (Naming.capital name ++ "Codec") (Naming.pascal name ++ "Codec") code
      write) :
    Path.stem? write.path = some (Naming.pascal name ++ "Codec") ↔
      '/' ∉ name.toList ∧ Naming.IsPlain name := by
  have hstem : Path.stem? write.path = some (Path.lastName (Naming.capital name ++ "Codec")) := by
    rw [h.path]
    exact Path.stem?_codec directory _ (by decide) (by decide)
  have hmark : Text.isMark '/' := by decide
  have hkept : '/' ∉ Naming.droppedMarks := by decide
  have hcapital : '/' ∈ (Naming.capital name ++ "Codec").toList ↔ '/' ∈ name.toList := by
    simp [Naming.mem_capital_iff hmark]
  have hpascal : '/' ∈ (Naming.pascal name ++ "Codec").toList ↔ '/' ∈ name.toList := by
    simp [Naming.mem_pascal_iff hmark, hkept]
  rw [hstem, Option.some.injEq, Path.lastName_eq_iff (hcapital.trans hpascal.symm), hpascal,
    String.append_left_inj, Naming.capital_eq_pascal_iff]

end Agreement

/-- Every file of a Java emission holds the text of a codec with one class. The file of a method is
named after the class, which a path without slashes in the names shows in full. The file of a custom
type is named after the capitalised name and its class after the Pascal form, so the two agree only
for names without underscores and parentheses. A C++ source file includes the header that is written
for the same type, whatever its name. -/
theorem fileNames_of_emitters {types : TypeScope} {javaNamespace cppNamespace : String}
    {java cpp : Emitter} (hjava : java.Serves .java types javaNamespace)
    (hcpp : cpp.Serves .cpp types cppNamespace) (services : List Service) (directory : String) :
    let scope : RenderScope := ⟨Java.mappingSet, types, javaNamespace⟩
    (Emits (java.emitCodecs services directory) (java.codecWrites services directory)
        (java.codecReport services directory) ∧
      ∀ write ∈ java.codecWrites services directory,
        ∃ service ∈ services, ∃ method ∈ service.methods, ∃ plan,
          Java.planMethod scope method = .ok plan ∧
          let name := Java.className service.name method.name
          Java.IsClassFile directory name name
            (Java.methodCode scope service.name method plan) write ∧
          (Path.stem? write.path = some name ↔
            '/' ∉ service.name.toList ∧ '/' ∉ method.name.toList)) ∧
    (Emits (java.emitCustomCodecs services directory)
        (java.customsEmission services directory).writes
        (java.customsEmission services directory).report ∧
      ∀ write ∈ (java.customsEmission services directory).writes,
        ∃ service ∈ services, ∃ type ∈ service.customTypes, ∃ plans,
          scope.plans type.fields = .ok plans ∧
          let name := Naming.pascal type.name ++ "Codec"
          Java.IsClassFile directory (Naming.capital type.name ++ "Codec") name
            (Java.customCode scope type plans) write ∧
          (Path.stem? write.path = some name ↔
            '/' ∉ type.name.toList ∧ Naming.IsPlain type.name)) ∧
    (Emits (cpp.emitCustomCodecs services directory)
        (cpp.customsEmission services directory).writes
        (cpp.customsEmission services directory).report ∧
      ∀ artifact ∈ (cpp.customsEmission services directory).artifacts,
        ∃ service ∈ services, ∃ type ∈ service.customTypes, ∃ header source,
          artifact.writes = [⟨Path.join directory (Cpp.includedHeader type), header, .create⟩,
            ⟨Path.join directory (Cpp.customStructName type.name ++ ".cpp"), source, .create⟩] ∧
          Code.InText Cpp.indent source
            (.line ("#include \"" ++ Cpp.includedHeader type ++ "\""))) := by
  intro scope
  refine ⟨⟨java.emits_emitCodecs services directory, ?methods⟩,
    ⟨java.emits_emitCustomCodecs services directory, ?customs⟩,
    ⟨cpp.emits_emitCustomCodecs services directory, ?headers⟩⟩
  case methods =>
    intro write hmem
    obtain ⟨service, hservice, method, hmethod, plan, hplan, hfile⟩ :=
      Java.exists_of_mem_codecWrites hjava hmem
    exact ⟨service, hservice, method, hmethod, plan, hplan, hfile, Java.stem?_of_method hfile⟩
  case customs =>
    intro write hmem
    obtain ⟨service, hservice, type, htype, plans, hplans, hfile⟩ :=
      Java.exists_of_mem_customWrites hjava hmem
    exact ⟨service, hservice, type, htype, plans, hplans, hfile, Java.stem?_of_customType hfile⟩
  case headers =>
    intro artifact hmem
    exact Cpp.exists_of_mem_customArtifacts hcpp hmem

/-- An emitter with the built-in templates and fixed texts of a language. -/
def Language.emitter (language : Language) (types : TypeScope) (namespaceName : String) :
    Emitter where
  language := language
  methodFiles := language.mappingSet.methodFiles
  customFiles := language.mappingSet.customFiles
  engine := RenderScope.engine ⟨language.mappingSet, types, namespaceName⟩
  ignored := []
  boilerplate := .builtin namespaceName language.mappingSet.methodFiles

theorem Language.serves_emitter (language : Language) (types : TypeScope) (namespaceName : String) :
    (language.emitter types namespaceName).Serves language types namespaceName :=
  ⟨rfl, rfl, rfl⟩

/-- The class of a type with an underscore in its name is not in the file that Java looks for. -/
theorem fileNames_of_emitters_underscore :
    let types : TypeScope := ⟨.standard, ["entry_view"]⟩
    let view : CustomType := ⟨"entry_view", none, [⟨"key", .primitive "String", false, none, none⟩]⟩
    let services : List Service := [⟨1, "map", [], [view]⟩]
    let emission := (Language.java.emitter types "codec").customsEmission services "out"
    ∃ write ∈ emission.writes, ∃ code : Code Empty, write.text = code.render Java.indent ∧
      code.blocks = ["public final class EntryViewCodec"] ∧
      Path.stem? write.path ≠ some "EntryViewCodec" := by
  intro types view services emission
  have hwritten : ∃ write, write ∈ emission.writes := ⟨_, List.mem_singleton_self _⟩
  obtain ⟨write, hwrite⟩ := hwritten
  obtain ⟨-, ⟨-, hcustoms⟩, -⟩ :=
    fileNames_of_emitters (Language.serves_emitter .java types "codec")
      (Language.serves_emitter .cpp types "codec") services "out"
  obtain ⟨service, hservice, type, htype, plans, -, hfile, hstem⟩ := hcustoms write hwrite
  obtain rfl := List.mem_singleton.mp hservice
  obtain rfl := List.mem_singleton.mp htype
  have hname : Naming.pascal view.name ++ "Codec" = "EntryViewCodec" := by decide
  have hmarked : ¬ Naming.IsPlain view.name := by decide
  rw [hname] at hfile hstem
  exact ⟨write, hwrite, _, hfile.text, hfile.block, mt hstem.mp fun h => hmarked h.2⟩

end WireCodecs
