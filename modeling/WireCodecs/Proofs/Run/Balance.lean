import WireCodecs.Proofs.Codec.Cpp.Balance
import WireCodecs.Proofs.Codec.Java.Balance
import WireCodecs.Proofs.Fingerprint.Placeholders
import WireCodecs.Proofs.Run.Consolidated
import WireCodecs.Proofs.Run.FileNames

/-! Braces in emitted files. Codecs of documents without braces are balanced, and a fingerprint adds
no braces to them. In the files that all methods share the first text leaves the namespace open,
each fragment is balanced inside of it, and the last text closes it. -/

namespace WireCodecs

open Text

section Sealing

theorem bracesOf_joinWith {glue : String} (hglue : Braceless glue) (pieces : List String) :
    bracesOf (joinWith glue pieces) = pieces.flatMap bracesOf := by
  induction pieces with
  | nil => rfl
  | cons piece pieces ih =>
    cases pieces with
    | nil => exact (List.append_nil _).symm
    | cons next rest =>
      rw [joinWith_cons (List.cons_ne_nil next rest), bracesOf_append, bracesOf_append,
        bracesOf_of_braceless hglue, ih, List.append_nil]
      rfl

/-- Neither the placeholder nor the fingerprint has braces. -/
theorem bracesOf_sealedText (text : String) : bracesOf (sealedText text) = bracesOf text := by
  have hdigits : Braceless "0123456789abcdef" := .literal rfl
  have hfingerprint : Braceless (fingerprint text) :=
    hdigits.of_subset (isDigest_fingerprint text).digits
  obtain ⟨pieces, hpieces, hfill, -⟩ :=
    @fillPlaceholders_eq_joinWith _ text (isDigest_fingerprint text)
  rw [sealedText, hfill, bracesOf_joinWith hfingerprint,
    ← bracesOf_joinWith lacks_fingerprintPlaceholder, ((hpieces pieces).mpr rfl).joinWith_eq]

theorem bracesOf_join (texts : List String) :
    bracesOf (String.join texts) = texts.flatMap bracesOf := by
  induction texts with
  | nil => rfl
  | cons text texts ih => rw [String.join_cons, bracesOf_append, ih, List.flatMap_cons]

theorem bracesOf_sharedText (start : String) (parts : List String) (finish : String) :
    bracesOf (sharedText start parts finish) =
      bracesOf start ++ parts.flatMap bracesOf ++ bracesOf finish := by
  rw [sharedText, bracesOf_append, bracesOf_append, bracesOf_join, List.flatMap_map]
  simp only [bracesOf_sealedText]

end Sealing

namespace Boilerplate

variable {namespaceName : String}

theorem bracesOf_textOfLines (lines : List String) :
    bracesOf (textOfLines lines) = lines.flatMap bracesOf := by
  have hfeed : Braceless "\n" := rfl
  have hline (line : String) : bracesOf (line ++ "\n") = bracesOf line := by
    rw [bracesOf_append, bracesOf_of_braceless hfeed, List.append_nil]
  rw [textOfLines, bracesOf_join, List.flatMap_map]
  simp only [hline]

theorem flatMap_bracesOf_cons {line : String} {lines : List String} (h : Braceless line) :
    (line :: lines).flatMap bracesOf = lines.flatMap bracesOf := by
  rw [List.flatMap_cons, bracesOf_of_braceless h, List.nil_append]

theorem braceless_markerLine : Braceless markerLine := by
  rw [markerLine]
  exact .between rfl rfl lacks_fingerprintPlaceholder

theorem bracesOf_namespaceLine (h : Braceless namespaceName) :
    bracesOf (namespaceLine namespaceName) = ['\x7b'] := by
  rw [namespaceLine, bracesOf_append, bracesOf_append, bracesOf_of_braceless h,
    bracesOf_literal rfl, bracesOf_literal rfl]
  rfl

/-- The lines before the one that opens the namespace have no braces. -/
theorem bracesOf_headerStart (h : Braceless namespaceName) (header source : String) :
    bracesOf (builtin namespaceName (.consolidated header source)).headerStart = ['\x7b'] := by
  rw [builtin, bracesOf_textOfLines, flatMap_bracesOf_cons braceless_markerLine]
  iterate 13 rw [flatMap_bracesOf_cons (.literal rfl)]
  rw [List.flatMap_cons, bracesOf_namespaceLine h, flatMap_bracesOf_cons (.literal rfl)]
  rfl

theorem bracesOf_sourceStart (h : Braceless namespaceName) {header : String}
    (hheader : Braceless header) (source : String) :
    bracesOf (builtin namespaceName (.consolidated header source)).sourceStart = ['\x7b'] := by
  have hinclude : Braceless ("#include \"" ++ header ++ "\"") :=
    .between rfl rfl hheader
  rw [builtin, bracesOf_textOfLines, flatMap_bracesOf_cons braceless_markerLine,
    flatMap_bracesOf_cons hinclude, flatMap_bracesOf_cons (.literal rfl), List.flatMap_cons,
    bracesOf_namespaceLine h, flatMap_bracesOf_cons (.literal rfl)]
  rfl

theorem bracesOf_footer (h : Braceless namespaceName) (header source : String) :
    bracesOf (builtin namespaceName (.consolidated header source)).footer = ['\x7d'] := by
  rw [builtin, bracesOf_textOfLines, List.flatMap_singleton, bracesOf_append,
    bracesOf_of_braceless h, bracesOf_literal rfl]
  rfl

/-- In the files that methods share, the fixed texts leave the same number of braces open before the
first codec as they close after the last one. -/
theorem nests_builtin (language : Language) (h : Braceless namespaceName) :
    let texts := builtin namespaceName language.mappingSet.methodFiles
    ∃ depth, Nests 0 depth (bracesOf texts.headerStart) ∧
      Nests 0 depth (bracesOf texts.sourceStart) ∧ Nests depth 0 (bracesOf texts.footer) := by
  intro texts
  cases language with
  | java => exact ⟨0, Nests.nil 0, Nests.nil 0, Nests.nil 0⟩
  | cpp =>
    have hheader := bracesOf_headerStart h "codecs.h" "codecs.cpp"
    have hname : Braceless "codecs.h" := .literal rfl
    have hsource := bracesOf_sourceStart h hname "codecs.cpp"
    have hfooter := bracesOf_footer h "codecs.h" "codecs.cpp"
    refine ⟨1, ?_, ?_, ?_⟩
    · show Nests 0 1 (bracesOf (builtin _ (.consolidated "codecs.h" "codecs.cpp")).headerStart)
      rw [hheader]
      decide
    · show Nests 0 1 (bracesOf (builtin _ (.consolidated "codecs.h" "codecs.cpp")).sourceStart)
      rw [hsource]
      decide
    · show Nests 1 0 (bracesOf (builtin _ (.consolidated "codecs.h" "codecs.cpp")).footer)
      rw [hfooter]
      decide

end Boilerplate

section Engine

variable {language : Language} {types : TypeScope} {namespaceName : String} {template : Template}
  {text : String}

theorem nests_of_method {service : String} {method : Method} (hnamespace : Braceless namespaceName)
    (hservice : Braceless service) (hmethod : ∀ text ∈ method.texts, Braceless text)
    (h : RenderScope.engine ⟨language.mappingSet, types, namespaceName⟩ template
      (.method service method) = .ok (.rendered text)) : Nests 0 0 (bracesOf text) := by
  unfold RenderScope.engine at h
  split at h
  case h_1 hsubject =>
    obtain ⟨rfl, rfl⟩ := Subject.method.inj hsubject
    exact Java.nests_of_methodCodec hnamespace hservice hmethod
      (Rendering.eq_ok_of_ofResult (Except.ok.inj h))
  case h_3 hsubject =>
    obtain ⟨rfl, rfl⟩ := Subject.method.inj hsubject
    exact Cpp.nests_of_methodHeader hservice hmethod
      (Rendering.eq_ok_of_ofResult (Except.ok.inj h))
  case h_4 hsubject =>
    obtain ⟨rfl, rfl⟩ := Subject.method.inj hsubject
    exact Cpp.nests_of_methodSource hservice hmethod
      (Rendering.eq_ok_of_ofResult (Except.ok.inj h))
  case h_2 hsubject => cases hsubject
  case h_5 hsubject => cases hsubject
  case h_6 hsubject => cases hsubject
  case h_7 => cases h

theorem nests_of_customType {type : CustomType} (hnamespace : Braceless namespaceName)
    (htype : ∀ text ∈ type.texts, Braceless text)
    (h : RenderScope.engine ⟨language.mappingSet, types, namespaceName⟩ template
      (.customType type) = .ok (.rendered text)) : Nests 0 0 (bracesOf text) := by
  unfold RenderScope.engine at h
  split at h
  case h_2 hsubject =>
    obtain rfl := Subject.customType.inj hsubject
    exact Java.nests_of_customCodec hnamespace htype
      (Rendering.eq_ok_of_ofResult (Except.ok.inj h))
  case h_5 hsubject =>
    obtain rfl := Subject.customType.inj hsubject
    exact Cpp.nests_of_customHeader hnamespace htype
      (Rendering.eq_ok_of_ofResult (Except.ok.inj h))
  case h_6 hsubject =>
    obtain rfl := Subject.customType.inj hsubject
    exact Cpp.nests_of_customSource hnamespace htype
      (Rendering.eq_ok_of_ofResult (Except.ok.inj h))
  case h_1 hsubject => cases hsubject
  case h_3 hsubject => cases hsubject
  case h_4 hsubject => cases hsubject
  case h_7 => cases h

end Engine

section Fragments

variable {emitter : Emitter} {services : List Service}

theorem exists_of_mem_fragments {fragment : Fragment} (h : fragment ∈ emitter.fragments services) :
    ∃ service ∈ services, ∃ method ∈ service.methods,
      emitter.engine .methodHeader (.method service.name method) =
        .ok (.rendered fragment.header) ∧
      emitter.engine .methodSource (.method service.name method) =
        .ok (.rendered fragment.source) := by
  obtain ⟨⟨service, method⟩, hincluded, hfragment⟩ := List.mem_filterMap.mp h
  obtain ⟨listed, hlisted, hmethod⟩ := List.mem_flatMap.mp hincluded
  obtain ⟨_, hmethod, hpair⟩ := List.mem_map.mp hmethod
  cases hpair
  simp only [Emitter.fragment?] at hfragment
  split at hfragment
  · next header source hheader hsource =>
    obtain rfl := Option.some.inj hfragment
    exact ⟨service, List.mem_of_mem_filter hlisted, method, hmethod, hheader, hsource⟩
  · cases hfragment

end Fragments

/-- The codecs of the services are balanced, as they are rendered and as they are written with their
fingerprints, and so are the two files that all methods share, with their first and last texts. -/
structure Emitter.IsBalanced (emitter : Emitter) (services : List Service) : Prop where
  method : ∀ service ∈ services, ∀ method ∈ service.methods, ∀ template text,
    emitter.engine template (.method service.name method) = .ok (.rendered text) →
      Text.IsBalanced text ∧ Text.IsBalanced (sealedText text)
  customType : ∀ service ∈ services, ∀ type ∈ service.customTypes, ∀ template text,
    emitter.engine template (.customType type) = .ok (.rendered text) →
      Text.IsBalanced text ∧ Text.IsBalanced (sealedText text)
  sharedHeader : Text.IsBalanced (sharedText emitter.boilerplate.headerStart
    ((emitter.fragments services).map (·.header)) emitter.boilerplate.footer)
  sharedSource : Text.IsBalanced (sharedText emitter.boilerplate.sourceStart
    ((emitter.fragments services).map (·.source)) emitter.boilerplate.footer)

theorem isBalanced_sealed {text : String} (h : Nests 0 0 (bracesOf text)) :
    Text.IsBalanced text ∧ Text.IsBalanced (sealedText text) :=
  ⟨isBalanced_of_nests h, isBalanced_of_nests (by rwa [bracesOf_sealedText])⟩

theorem isBalanced_sharedText {start finish : String} {parts : List String} {depth : Nat}
    (hstart : Nests 0 depth (bracesOf start)) (hfinish : Nests depth 0 (bracesOf finish))
    (hparts : ∀ part ∈ parts, Nests 0 0 (bracesOf part)) :
    Text.IsBalanced (sharedText start parts finish) := by
  refine isBalanced_of_nests ?_
  rw [bracesOf_sharedText]
  refine (hstart.append (Nests.flatMap fun part hpart => ?_)).append hfinish
  have hdeeper := (hparts part hpart).deeper depth
  rwa [Nat.zero_add] at hdeeper

/-- With the built-in templates and fixed texts of a language all files are balanced, as long as the
services and the namespace have no braces in them. -/
theorem isBalanced_of_braceless {emitter : Emitter} {language : Language} {types : TypeScope}
    {namespaceName : String} {services : List Service}
    (hserves : emitter.Serves language types namespaceName)
    (hboilerplate : emitter.boilerplate = .builtin namespaceName emitter.methodFiles)
    (hnamespace : Braceless namespaceName)
    (hservices : ∀ service ∈ services, ∀ text ∈ service.texts, Braceless text) :
    emitter.IsBalanced services := by
  obtain ⟨depth, hheaderStart, hsourceStart, hfooter⟩ :=
    Boilerplate.nests_builtin language hnamespace
  rw [← hserves.methodFiles, ← hboilerplate] at hheaderStart hsourceStart hfooter
  have hmethod (service : Service) (hservice : service ∈ services) (method : Method)
      (hlisted : method ∈ service.methods) (template : Template) (text : String)
      (h : emitter.engine template (.method service.name method) = .ok (.rendered text)) :
      Nests 0 0 (bracesOf text) := by
    rw [hserves.engine] at h
    exact nests_of_method hnamespace (hservices service hservice _ List.mem_cons_self)
      (fun text htext => hservices service hservice text (Service.texts_of_method hlisted htext)) h
  constructor
  case method =>
    intro service hservice method hlisted template text h
    exact isBalanced_sealed (hmethod service hservice method hlisted template text h)
  case customType =>
    intro service hservice type hlisted template text h
    rw [hserves.engine] at h
    exact isBalanced_sealed <| nests_of_customType hnamespace
      (fun text htext =>
        hservices service hservice text (Service.texts_of_customType hlisted htext)) h
  case sharedHeader =>
    refine isBalanced_sharedText hheaderStart hfooter ?_
    refine List.forall_mem_map.mpr fun fragment hfragment => ?_
    obtain ⟨service, hservice, method, hlisted, h, -⟩ := exists_of_mem_fragments hfragment
    exact hmethod service hservice method hlisted _ _ h
  case sharedSource =>
    refine isBalanced_sharedText hsourceStart hfooter ?_
    refine List.forall_mem_map.mpr fun fragment hfragment => ?_
    obtain ⟨service, hservice, method, hlisted, -, h⟩ := exists_of_mem_fragments hfragment
    exact hmethod service hservice method hlisted _ _ h

/-- A service with a null in a request, an event with a field, and a method with raw data. -/
def clusterService : Service where
  id := 1
  name := "cluster"
  methods := [
    { id := 1, name := "watch", since := some "2.1", doc := some "Watches a member."
      request := ⟨⟨0x010100⟩, none, [⟨"member", .custom "Address", true, none, none⟩,
        ⟨"count", .primitive "Int32", false, none, none⟩]⟩
      response := ⟨⟨0x010101⟩, none, []⟩
      events := [⟨⟨0x010102⟩, some "memberAdded", [⟨"members",
        .list (.custom "Address"), true, none, some "All members."⟩]⟩] },
    { id := 2, name := "send", since := none, doc := none
      request := ⟨⟨0x010200⟩, none, [⟨"data", .primitive "Data", false, none, none⟩]⟩
      response := ⟨⟨0x010201⟩, none, []⟩
      events := [] }]
  customTypes := [⟨"Address", none, [⟨"host", .primitive "String", false, none, none⟩,
    ⟨"port", .primitive "Int32", false, none, none⟩]⟩]

/-- In C++ the method with raw data is skipped, and the shared files are balanced without it. -/
theorem isBalanced_of_braceless_skipped :
    let types : TypeScope := ⟨.standard, ["Address"]⟩
    (Language.java.emitter types "codec").IsBalanced [clusterService] ∧
      (Language.cpp.emitter types "codec::impl").IsBalanced [clusterService] ∧
      ((Language.cpp.emitter types "codec::impl").fragments [clusterService]).map (·.artifact) =
        ["cluster.watch"] := by
  have hservices : ∀ service ∈ [clusterService], ∀ text ∈ service.texts, Braceless text := by
    decide +kernel
  exact ⟨isBalanced_of_braceless (Language.serves_emitter _ _ _) rfl (by decide) hservices,
    isBalanced_of_braceless (Language.serves_emitter _ _ _) rfl (by decide) hservices,
    by decide +kernel⟩

end WireCodecs
