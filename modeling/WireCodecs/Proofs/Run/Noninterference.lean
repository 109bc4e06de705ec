import WireCodecs.Proofs.Json
import WireCodecs.Proofs.Run.Preparation
import WireCodecs.Proofs.Run.Relocation
import WireCodecs.Proofs.Service.Order

/-! Runs that share a language. What a run writes and reports for a language follows from the
services, the type table, and the language's own mapping set, settings and texts, up to the
directory that it writes to. The other languages do not count if their files are in other places.
Nor does what was there before, since every file is created first. -/

namespace WireCodecs

/-- Whether no file of another language is in the place of one of a language, and every file has an
extension that is not that of temporary siblings. With the program's own mapping sets it is always
so. -/
structure RunSummary.KeepsApart (summary : RunSummary) (language : Language) : Prop where
  isCodec : ∀ entry ∈ summary.languages, ∀ path ∈ entry.written, Path.IsCodec path
  apart : ∀ entry ∈ summary.languages, entry.language = language → ∀ path ∈ entry.written,
    ∀ other ∈ summary.languages, other.language ≠ language → ∀ foreign ∈ other.written,
      FileTree.named foreign ≠ FileTree.named path

/-- Whether no temporary sibling of a written file is one of several names of a file. -/
def FileTree.IsAloneBeside (tree : FileTree) (summary : RunSummary) : Prop :=
  ∀ entry ∈ summary.languages, ∀ path ∈ entry.written, tree.IsAlone (named (Path.temporary path))

namespace Run

section OneRun

variable {services : List Service} {output : String} {target : Target} {targets : List Target}

/-- What is reported for the targets. -/
def summaryOf (services : List Service) (output : String) (targets : List Target) : RunSummary :=
  ⟨services.length, targets.map (languageSummary services output)⟩

theorem forall_written_iff {p : LanguageSummary → String → Prop} :
    (∀ entry ∈ (summaryOf services output targets).languages, ∀ path ∈ entry.written,
      p entry path) ↔
      ∀ target ∈ targets, ∀ write ∈ targetWrites services output target,
        p (languageSummary services output target) write.path := by
  simp only [summaryOf, List.forall_mem_map, mem_written_iff, forall_exists_index, and_imp,
    forall_apply_eq_imp_iff₂]

/-- In the files of a target only what is written for it counts. -/
theorem contentAfter_allWrites
    (hunique : ∀ other ∈ targets, other.language = target.language → other = target)
    (hapart : (summaryOf services output targets).KeepsApart target.language)
    (hmem : target ∈ targets) {write : CodecWrite}
    (hwrite : write ∈ targetWrites services output target) (present : Option ByteArray) :
    contentAfter FileTree.named (FileTree.named write.path) (allWrites services output targets)
        present =
      contentAfter FileTree.named (FileTree.named write.path) (targetWrites services output target)
        present := by
  have hother (other : Target) (hmem' : other ∈ targets) (hne : other ≠ target)
      (foreign : CodecWrite) (hforeign : foreign ∈ targetWrites services output other) :
      FileTree.named foreign.path ≠ FileTree.named write.path :=
    hapart.apart _ (List.mem_map_of_mem hmem) rfl _ (mem_written_iff.mpr ⟨write, hwrite, rfl⟩)
      _ (List.mem_map_of_mem hmem') (fun h => hne (hunique other hmem' h)) _
      (mem_written_iff.mpr ⟨foreign, hforeign, rfl⟩)
  rw [allWrites, targetWrites, contentAfter_append, contentAfter_append,
    (createsFirst_customWrites []).renews.contentAfter_flatMap hmem
      fun other hmem' hne foreign hforeign =>
        hother other hmem' hne foreign (List.mem_append_right _ hforeign),
    (createsFirst_standardWrites []).renews.contentAfter_flatMap hmem
      fun other hmem' hne foreign hforeign =>
        hother other hmem' hne foreign (List.mem_append_left _ hforeign)]

/-- Every file that is written for a target can be read, and holds what the writes for the target
leave there, whatever was there before and whatever is written for other targets. -/
theorem exists_readBytes {tree tree' : FileTree} (hfree : tree.LinkFree)
    (hunique : ∀ other ∈ targets, other.language = target.language → other = target)
    (hapart : (summaryOf services output targets).KeepsApart target.language)
    (halone : tree.IsAloneBeside (summaryOf services output targets))
    (hmem : target ∈ targets)
    (h : FileTree.Performed (allWrites services output targets) tree tree')
    {write : CodecWrite} (hwrite : write ∈ targetWrites services output target) :
    ∃ content, tree'.readBytes write.path = .ok content ∧
      ∀ present, contentAfter FileTree.named (FileTree.named write.path)
        (targetWrites services output target) present = some content := by
  have hpaths : ∀ other ∈ allWrites services output targets, Path.IsCodec other.path := by
    intro other hother
    obtain ⟨owner, howner, hother⟩ := mem_allWrites_iff.mp hother
    exact forall_written_iff.mp hapart.isCodec owner howner other hother
  have hclear := hfree.clearFor (allWrites services output targets)
  have hfree' : tree'.LinkFree := (FileTree.keeps_of_performed hclear hpaths h).1.linkFree hfree
  have halone' : tree.AloneFor tree' (allWrites services output targets) := by
    intro other hother directory hreaches
    obtain ⟨extension, hextension, -⟩ := hpaths other hother
    rw [← hfree'.named_temporary hextension hreaches]
    obtain ⟨owner, howner, hother⟩ := mem_allWrites_iff.mp hother
    exact forall_written_iff.mp halone owner howner other hother
  obtain ⟨content, hread, hcontent⟩ := FileTree.readBytes_of_performed hclear halone' hpaths
    createsFirst_allWrites h (fun other _ directory hreaches => hfree'.named_eq hreaches)
    (mem_allWrites_iff.mpr ⟨target, hmem, hwrite⟩)
  obtain ⟨renewed, hrenewed⟩ := createsFirst_targetWrites.renews _ ⟨write, hwrite, rfl⟩
  rw [contentAfter_allWrites hunique hapart hmem hwrite, hrenewed, Option.some.injEq] at hcontent
  subst hcontent
  exact ⟨renewed, hread, hrenewed⟩

end OneRun

section TwoRuns

/-- What a run works with. -/
structure Input where
  configuration : Configuration
  registry : Registry
  options : RunOptions
  tree : FileTree

/-- The result of a run, with what it leaves behind. -/
def Input.start (engine : SchemaEngine) (input : Input) : Except RunError RunSummary × Scene :=
  (run engine input.configuration input.registry input.options).start input.tree

/-- Two runs with the given documents, which are the same up to the order in which they and their
methods are listed, with one schema and with one type table. -/
structure SameProtocol (engine : SchemaEngine) (input input' : Input) (validator : Validator)
    (documents documents' : List ServiceDocument) : Prop where
  loads : ServiceDocument.loadAll input.tree input.options.protocolDirectory = .ok documents
  loads' : ServiceDocument.loadAll input'.tree input'.options.protocolDirectory = .ok documents'
  same : SameDocuments documents documents'
  compiles : input.options.schema.load engine input.tree = .ok validator
  compiles' : input'.options.schema.load engine input'.tree = .ok validator
  types : input.configuration.types = input'.configuration.types

/-- Two runs with the same mapping set and settings and the same files in place of built-in texts
for a language. -/
structure SameLanguage (input input' : Input) (language : Language) : Prop where
  mappings : input.registry.get? language = input'.registry.get? language
  settings : input.configuration.settings language = input'.configuration.settings language
  boilerplate : ∀ directory, (input.configuration.settings language).boilerplate = some directory →
    ∀ name ∈ Boilerplate.fileNames,
      FileTree.SameFile input.tree input'.tree (Path.join directory name)

variable {engine : SchemaEngine} {input input' : Input} {language : Language}

theorem SameLanguage.refl (input : Input) (language : Language) :
    SameLanguage input input language :=
  ⟨rfl, rfl, fun _ _ _ _ _ => Iff.rfl⟩

section Targets

variable {customTypes : List String} {languages languages' : List Language}
  {targets targets' : List Target} {found found' : Target}

/-- What is ready for a language in two runs is the same. -/
theorem SameLanguage.target_eq (h : SameLanguage input input' language)
    (htypes : input.configuration.types = input'.configuration.types)
    (htargets : languages.mapM (target input.configuration input.registry input.tree customTypes) =
      .ok targets)
    (htargets' : languages'.mapM
      (target input'.configuration input'.registry input'.tree customTypes) = .ok targets')
    (hfound : found ∈ targets) (hfound' : found' ∈ targets')
    (hlanguage : found.language = language) (hlanguage' : found'.language = language) :
    found = found' := by
  obtain ⟨set, texts, hset, hload, heq⟩ := exists_of_mem_targets htargets hfound
  obtain ⟨set', texts', hset', hload', heq'⟩ := exists_of_mem_targets htargets' hfound'
  rw [hlanguage] at hset hload
  rw [hlanguage'] at hset' hload'
  obtain rfl := Option.some.inj (hset.symm.trans (h.mappings.trans hset'))
  have hsame := Boilerplate.load_of_sameFile h.boilerplate hload
  rw [h.settings, hload', Except.ok.injEq] at hsame
  rw [heq, heq', hsame]
  simp only [preparedTarget, language_of_get? hset, h.settings, htypes]

theorem eq_of_mem_targets
    (htargets : languages.mapM (target input.configuration input.registry input.tree customTypes) =
      .ok targets)
    (hfound : found ∈ targets) (hfound' : found' ∈ targets)
    (hlanguage : found'.language = found.language) : found' = found :=
  (SameLanguage.refl input found.language).target_eq rfl htargets htargets hfound' hfound hlanguage
    rfl

end Targets

theorem Finds.enriches {services : List Service} {documents : List ServiceDocument}
    (h : Finds engine input.configuration input.options input.tree services)
    (hdocuments : ServiceDocument.loadAll input.tree input.options.protocolDirectory =
      .ok documents) :
    Enriches input.configuration.types documents services := by
  obtain ⟨found, _, decls, hfound, -, -, hdecls, hresolve⟩ := h
  obtain rfl := Except.ok.inj (hfound.symm.trans hdocuments)
  exact ⟨decls, hdecls, hresolve⟩

theorem keepsApart_of_isStandard (hregistry : input.registry.IsStandard) {summary : RunSummary}
    {scene : Scene} (h : input.start engine = (.ok summary, scene)) (language : Language) :
    summary.KeepsApart language := by
  obtain ⟨services, targets, -, htargets, rfl, -⟩ := exists_of_start h
  have hfile : ∀ target ∈ targets,
      ∀ write ∈ targetWrites services input.options.output target,
        target.language.IsFile write.path := by
    intro found hfound write hwrite
    refine isFile_of_targetWrites ?_ hwrite
    obtain ⟨set, texts, hset, -, heq⟩ := exists_of_mem_targets htargets hfound
    rw [heq, hregistry.eq_mappingSet hset]
    exact ⟨by rw [preparedTarget, Language.language_mappingSet],
      by rw [preparedTarget, Language.language_mappingSet]⟩
  have hwritten : ∀ entry ∈ targets.map (languageSummary services input.options.output),
      ∀ path ∈ entry.written, entry.language.IsFile path :=
    forall_written_iff.mpr hfile
  constructor
  · exact fun entry hentry path hpath => (hwritten entry hentry path hpath).isCodec
  · intro entry hentry hlanguage path hpath other hother hne foreign hforeign heq
    exact hne (hlanguage ▸ Language.eq_of_named (hwritten other hother foreign hforeign)
      (hwritten entry hentry path hpath) heq)

end TwoRuns

end Run

/-- Runs on the same protocol find the same services, whatever the order of documents and methods,
and report the same files for a language that they have the same settings for, seen from the output
directory. The files hold the same, if nothing else goes to their places and the same of them are in
one place. Whether the documents are valid agrees too, unless the schema judges items by their
position. -/
theorem runs_of_sameProtocol {engine : SchemaEngine} {input input' : Run.Input}
    {validator : Validator} {documents documents' : List ServiceDocument}
    (hsame : Run.SameProtocol engine input input' validator documents documents')
    (hlinks : input.tree.LinkFree ∧ input'.tree.LinkFree) :
    (∀ (set : SchemaSet) (nested : Bool),
      (∀ value, validator value = [] ↔ set.violations value = []) → set.IsPositionFree nested →
      (nested = true ∨ ∀ document ∈ documents, ∀ items, document.value ≠ .array items) →
      (Validation.violations validator documents = [] ↔
        Validation.violations validator documents' = [])) ∧
    (∀ services, Enriches input.configuration.types documents services ↔
      Enriches input'.configuration.types documents' services) ∧
    ∀ language, Run.SameLanguage input input' language →
      ∀ summary summary' scene scene', input.start engine = (.ok summary, scene) →
        input'.start engine = (.ok summary', scene') →
        ∀ entry ∈ summary.languages, ∀ entry' ∈ summary'.languages,
          entry.language = language → entry'.language = language →
          ∃ relative : LanguageSummary, entry = relative.under input.options.output ∧
            entry' = relative.under input'.options.output ∧
            (summary.KeepsApart language → summary'.KeepsApart language →
              input.tree.IsAloneBeside summary → input'.tree.IsAloneBeside summary' →
              SamePlaces input.options.output input'.options.output relative.written →
              ∀ path ∈ relative.written, ∃ content,
                scene.tree.readBytes (Path.join input.options.output path) = .ok content ∧
                scene'.tree.readBytes (Path.join input'.options.output path) = .ok content) := by
  refine ⟨fun set nested hset hfree hnested =>
    validation_of_sameDocuments hset hfree hnested hsame.same, ?_, ?_⟩
  · rw [hsame.types]
    exact enriches_iff_of_sameDocuments hsame.same
  intro language hlanguage summary summary' scene scene' hrun hrun' entry hentry entry' hentry' hof
    hof'
  obtain ⟨services, targets, hfinds, htargets, rfl, hperformed⟩ := Run.exists_of_start hrun
  obtain ⟨services', targets', hfinds', htargets', rfl, hperformed'⟩ := Run.exists_of_start hrun'
  -- Both runs find the same services, so the same target is ready for the language.
  have henriches := enriches_of_sameDocuments hsame.same (hfinds.enriches hsame.loads)
  rw [hsame.types] at henriches
  obtain rfl := henriches.unique (hfinds'.enriches hsame.loads')
  obtain ⟨found, hfound, rfl⟩ := List.mem_map.mp hentry
  obtain ⟨found', hfound', rfl⟩ := List.mem_map.mp hentry'
  obtain rfl : found = found' :=
    hlanguage.target_eq hsame.types htargets htargets' hfound hfound' hof hof'
  obtain rfl : found.language = language := hof
  refine ⟨Run.languageSummary services "" found, Run.languageSummary_eq _ _ _,
    Run.languageSummary_eq _ _ _, fun hapart hapart' halone halone' hplaces path hpath => ?_⟩
  obtain ⟨write, hwrite, rfl⟩ := Run.mem_written_iff.mp hpath
  have hmem (output : String) :
      write.under output ∈ Run.targetWrites services output found := by
    rw [Run.targetWrites_eq]
    exact List.mem_map_of_mem hwrite
  obtain ⟨content, hread, hcontent⟩ := Run.exists_readBytes hlinks.1
    (fun other hother => Run.eq_of_mem_targets htargets hfound hother) hapart halone hfound
    hperformed (hmem _)
  obtain ⟨content', hread', hcontent'⟩ := Run.exists_readBytes hlinks.2
    (fun other hother => Run.eq_of_mem_targets htargets' hfound' hother) hapart' halone' hfound'
    hperformed' (hmem _)
  have hplaced : ∀ other ∈ Run.targetWrites services "" found,
      FileTree.named (Path.join input.options.output other.path) =
          FileTree.named (Path.join input.options.output write.path) ↔
        FileTree.named (Path.join input'.options.output other.path) =
          FileTree.named (Path.join input'.options.output write.path) :=
    fun other hother => hplaces _ hpath _ (Run.mem_written_iff.mpr ⟨other, hother, rfl⟩)
  have hmoved := contentAfter_under hplaced none
  rw [← Run.targetWrites_eq, ← Run.targetWrites_eq] at hmoved
  obtain rfl : content = content' :=
    Option.some.inj ((hcontent none).symm.trans (hmoved.trans (hcontent' none)))
  exact ⟨content, hread, hread'⟩

/-- A method whose messages have no fields. -/
def orderedMethod (method : Nat × String) : Json :=
  .object [("id", .int method.1), ("name", .string method.2), ("request", .object []),
    ("response", .object [])]

/-- A document of a service with such methods. -/
def orderedDocument (methods : List (Nat × String)) : Json :=
  .object [("id", .int 1), ("methods", .array (methods.map orderedMethod)), ("name", .string "m")]

theorem sameMethods_orderedDocument {methods methods' : List (Nat × String)}
    (h : methods.Perm methods') :
    SameMethods (orderedDocument methods) (orderedDocument methods') :=
  @SameMethods.entry [("id", .int 1)] _ _ _ (h.map _)

/-- A directory with that document. -/
def orderedEntries (directory : String) (methods : List (Nat × String)) :
    List (FilePlace × FileEntry ByteArray) :=
  [([directory], .directory),
    ([directory, "m.yaml"], .file (orderedDocument methods).render.toUTF8)]

/-- A run for some languages into a directory, with more files in the tree. -/
def orderedInput (output : String) (methods : List (Nat × String)) (languages : List Language)
    (more : List (FilePlace × FileEntry ByteArray)) : Run.Input where
  configuration := .standard
  registry := .builtin
  options := ⟨"protocol", .builtin, output, languages⟩
  tree := .ofEntries (orderedEntries "protocol" methods ++ more)

/-- What an earlier run into the directory has left. -/
def earlierEntries (output : String) : List (FilePlace × FileEntry ByteArray) :=
  [([output], .directory), ([output, "java"], .directory), ([output, "java", "codec"], .directory),
    ([output, "java", "codec", "MACodec.java"], .file "old".toUTF8)]

def orderedDecl (id : UInt8) (name : String) : MethodDecl :=
  ⟨id, name, none, none, ⟨none, []⟩, ⟨none, []⟩, []⟩

def orderedService : Service where
  id := 1
  name := "m"
  methods := [
    ⟨1, "a", none, none, ⟨.derive 1 1 .request, none, []⟩, ⟨.derive 1 1 .response, none, []⟩, []⟩,
    ⟨2, "b", none, none, ⟨.derive 1 2 .request, none, []⟩, ⟨.derive 1 2 .response, none, []⟩, []⟩]
  customTypes := []

def javaSummary : LanguageSummary :=
  ⟨.java, ⟨["java/codec/MACodec.java", "java/codec/MBCodec.java"], ["m.a", "m.b"], []⟩, .empty⟩

def cppSummary : LanguageSummary :=
  ⟨.cpp, ⟨["cpp/codec/codecs.h", "cpp/codec/codecs.cpp"], ["m.a", "m.b"], []⟩, .empty⟩

theorem enriches_orderedDocument :
    Enriches .standard [⟨"protocol/m.yaml", orderedDocument [(1, "a"), (2, "b")]⟩]
      [orderedService] := by
  refine ⟨[⟨1, "m", [orderedDecl 1 "a", orderedDecl 2 "b"], []⟩],
    eq_ok_of_toOption (by decide +kernel), resolve_eq_ok_iff.mpr
      ⟨by decide, [orderedService], mapM_eq_ok_iff.mpr (.cons ?_ .nil), ?_⟩⟩
  · refine Resolution.service_eq_ok_iff.mpr ⟨by decide, orderedService.methods, [],
      eq_ok_of_toOption (by decide +kernel), rfl, ?_⟩
    rw [Resolution.sortById, List.mergeSort_of_pairwise (by decide)]
    rfl
  · rw [Resolution.sortById, List.mergeSort_of_pairwise (by decide)]

theorem linkFree_orderedInput {output : String} {methods : List (Nat × String)}
    {languages : List Language} {more : List (FilePlace × FileEntry ByteArray)}
    (h : ∀ entry ∈ more, ∀ target, entry.2 ≠ .link target) :
    (orderedInput output methods languages more).tree.LinkFree := by
  refine FileTree.linkFree_ofEntries fun entry hmem => ?_
  simp only [orderedEntries, List.cons_append, List.nil_append, List.mem_cons] at hmem
  rcases hmem with rfl | rfl | hmem
  · simp
  · simp
  · exact h entry hmem

/-- With methods in another order, another language before it, an old file in place of a new one and
another directory to write to, a run leaves the same for a language. -/
theorem runs_of_sameProtocol_swapped_methods :
    ∃ scene scene',
      (orderedInput "first" [(1, "a"), (2, "b")] [.java] []).start (.draft7 .none) =
        (.ok ⟨1, [javaSummary.under "first"]⟩, scene) ∧
      (orderedInput "second" [(2, "b"), (1, "a")] [.cpp, .java] (earlierEntries "second")).start
          (.draft7 .none) =
        (.ok ⟨1, [cppSummary.under "second", javaSummary.under "second"]⟩, scene') ∧
      ∃ content, scene.tree.readBytes "first/java/codec/MACodec.java" = .ok content ∧
        scene'.tree.readBytes "second/java/codec/MACodec.java" = .ok content := by
  have hsame : Run.SameProtocol (.draft7 .none)
      (orderedInput "first" [(1, "a"), (2, "b")] [.java] [])
      (orderedInput "second" [(2, "b"), (1, "a")] [.cpp, .java] (earlierEntries "second"))
      ServiceSchema.set.violations
      [⟨"protocol/m.yaml", orderedDocument [(1, "a"), (2, "b")]⟩]
      [⟨"protocol/m.yaml", orderedDocument [(2, "b"), (1, "a")]⟩] :=
    ⟨eq_ok_of_toOption (by decide +kernel), eq_ok_of_toOption (by decide +kernel),
      ⟨_, .cons (sameMethods_orderedDocument (.swap _ _ _)) .nil, .refl _⟩, rfl, rfl, rfl⟩
  have hregistry : Registry.builtin.IsStandard := Registry.isStandard_ofLanguages _
  obtain ⟨hvalidity, henrichment, hlanguages⟩ := runs_of_sameProtocol hsame
    ⟨linkFree_orderedInput (by simp), linkFree_orderedInput (by simp [earlierEntries])⟩
  have hvalid : Validation.violations ServiceSchema.set.violations
      [⟨"protocol/m.yaml", orderedDocument [(1, "a"), (2, "b")]⟩] = [] := by
    decide +kernel
  obtain ⟨decls, hdecls, hresolve⟩ := enriches_orderedDocument
  obtain ⟨decls', hdecls', hresolve'⟩ := (henrichment _).mp enriches_orderedDocument
  obtain ⟨scene, hrun⟩ : ∃ scene,
      (orderedInput "first" [(1, "a"), (2, "b")] [.java] []).start (.draft7 .none) =
        (.ok ⟨1, [javaSummary.under "first"]⟩, scene) :=
    Run.exists_start hsame.loads hsame.compiles hvalid hdecls hresolve (by decide +kernel)
  obtain ⟨scene', hrun'⟩ : ∃ scene',
      (orderedInput "second" [(2, "b"), (1, "a")] [.cpp, .java] (earlierEntries "second")).start
          (.draft7 .none) =
        (.ok ⟨1, [cppSummary.under "second", javaSummary.under "second"]⟩, scene') :=
    Run.exists_start hsame.loads' hsame.compiles'
      ((hvalidity _ true (fun _ => Iff.rfl) (SchemaSet.isPositionFree_serviceSchema _)
        (.inl rfl)).mp hvalid) hdecls' hresolve' (by decide +kernel)
  have hlanguage : Run.SameLanguage (orderedInput "first" [(1, "a"), (2, "b")] [.java] [])
      (orderedInput "second" [(2, "b"), (1, "a")] [.cpp, .java] (earlierEntries "second")) .java :=
    ⟨rfl, rfl, fun _ hdirectory => nomatch hdirectory⟩
  obtain ⟨relative, hfirst, hsecond, hfiles⟩ := hlanguages .java hlanguage _ _ _ _ hrun hrun' _
    List.mem_cons_self _ (List.mem_cons_of_mem _ List.mem_cons_self) rfl rfl
  -- The paths seen from the output directories are those of the summary.
  have hwritten : relative.written.map (Path.join "first") =
      ["first/java/codec/MACodec.java", "first/java/codec/MBCodec.java"] := by
    rw [← LanguageSummary.written_under, ← show _ = relative.under "first" from hfirst]
    decide
  have hwritten' : relative.written.map (Path.join "second") =
      ["second/java/codec/MACodec.java", "second/java/codec/MBCodec.java"] := by
    rw [← LanguageSummary.written_under, ← show _ = relative.under "second" from hsecond]
    decide
  obtain ⟨path, other, hpaths⟩ : ∃ path other, relative.written = [path, other] :=
    List.length_eq_two.mp (by simpa using congrArg List.length hwritten)
  simp only [hpaths, List.map_cons, List.map_nil, List.cons.injEq, and_true] at hwritten hwritten'
  have hplaces : SamePlaces "first" "second" relative.written := by
    simp only [SamePlaces, hpaths, List.forall_mem_cons, hwritten.1, hwritten.2, hwritten'.1,
      hwritten'.2, List.not_mem_nil, false_implies, implies_true, and_true]
    decide
  obtain ⟨content, hread, hread'⟩ := hfiles (Run.keepsApart_of_isStandard hregistry hrun _)
    (Run.keepsApart_of_isStandard hregistry hrun' _)
    (fun _ _ _ _ => FileTree.hasNoHardLinks_ofEntries _ _)
    (fun _ _ _ _ => FileTree.hasNoHardLinks_ofEntries _ _) hplaces path (by simp [hpaths])
  exact ⟨scene, scene', hrun, hrun', content, by rwa [← hwritten.1], by rwa [← hwritten'.1]⟩

/-- A run on one document with a schema of its own. -/
def judgedInput (schema document : Json) : Run.Input where
  configuration := .standard
  registry := .builtin
  options := ⟨"protocol", .file "schema.json", "out", []⟩
  tree := .ofEntries [(["schema.json"], .file schema.render.toUTF8), (["protocol"], .directory),
    (["protocol", "m.yaml"], .file document.render.toUTF8)]

def documentsOf (value : Json) : List ServiceDocument := [⟨"protocol/m.yaml", value⟩]

/-- A schema finds nothing wrong with a document and something with the same one in another
order. -/
structure Run.JudgesOrder (schema value value' : Json) : Prop where
  same : SameMethods value value'
  verdict : ∃ validator, SameProtocol (.draft7 .none) (judgedInput schema value)
      (judgedInput schema value') validator (documentsOf value) (documentsOf value') ∧
    Validation.violations validator (documentsOf value) = [] ∧
    Validation.violations validator (documentsOf value') ≠ []

theorem judgesOrder_of_verdict {schema value value' : Json} (hsame : SameMethods value value')
    (hloads : ∀ document ∈ [value, value'], (ServiceDocument.loadAll
      (judgedInput schema document).tree "protocol").toOption = some (documentsOf document))
    (hschema : ∀ document ∈ [value, value'],
      (SchemaSource.loadJson (judgedInput schema document).tree "schema.json").toOption =
        some schema)
    (hverdict : (SchemaSet.ofJson? .none schema).any fun set =>
      (Validation.violations set.violations (documentsOf value)).isEmpty &&
        !(Validation.violations set.violations (documentsOf value')).isEmpty) :
    Run.JudgesOrder schema value value' := by
  obtain ⟨set, hset, hverdict⟩ := (Option.any_eq_true _ _).mp hverdict
  rw [Bool.and_eq_true, List.isEmpty_iff, Bool.not_eq_true', List.isEmpty_eq_false_iff] at hverdict
  have hcompiles (document : Json) (hmem : document ∈ [value, value']) :
      (judgedInput schema document).options.schema.load (.draft7 .none)
        (judgedInput schema document).tree = .ok set.violations := by
    have hjson : SchemaSource.loadJson (judgedInput schema document).tree "schema.json" =
        .ok schema := eq_ok_of_toOption (hschema document hmem)
    change (SchemaSource.loadJson (judgedInput schema document).tree "schema.json" >>=
      SchemaSource.compile (.draft7 .none)) = _
    rw [hjson]
    change SchemaSource.compile (.draft7 .none) schema = _
    simp only [SchemaSource.compile, SchemaEngine.draft7, hset, Option.map_some]
  exact ⟨hsame, set.violations,
    ⟨eq_ok_of_toOption (hloads _ (by simp)), eq_ok_of_toOption (hloads _ (by simp)),
      ⟨_, .cons hsame .nil, .refl _⟩, hcompiles _ (by simp), hcompiles _ (by simp), rfl⟩,
    hverdict.1, hverdict.2⟩

/-- A schema of the methods alone. -/
def methodsSchema (schema : List (String × Json)) : Json :=
  .object [("properties", .object [("methods", .object schema)])]

/-- The service as the array of its parts. -/
def partsDocument (methods customTypes : List (Nat × String)) : Json :=
  .array [.int 1, .string "m", .array (methods.map orderedMethod),
    .array (customTypes.map orderedMethod)]

theorem sameMethods_partsDocument {methods methods' : List (Nat × String)}
    (h : methods.Perm methods') (customTypes : List (Nat × String)) :
    SameMethods (partsDocument methods customTypes) (partsDocument methods' customTypes) :=
  .part (h.map _)

/-- The first method has an id of at most one. -/
def firstMethodSchema : Json :=
  methodsSchema [("items", .array [.object [("properties", .object [("id",
    .object [("maximum", .int 1)])])]])]

theorem judgesOrder_firstMethodSchema :
    Run.JudgesOrder firstMethodSchema (orderedDocument [(1, "a"), (2, "b")])
      (orderedDocument [(2, "b"), (1, "a")]) := by
  refine judgesOrder_of_verdict (sameMethods_orderedDocument (.swap _ _ _)) ?_ ?_ ?_
  all_goals decide +kernel

/-- The methods are these, one after the other. -/
def fixedMethodsSchema : Json :=
  methodsSchema [("const", .array ([(1, "a"), (2, "b")].map orderedMethod))]

theorem judgesOrder_fixedMethodsSchema :
    Run.JudgesOrder fixedMethodsSchema (orderedDocument [(1, "a"), (2, "b")])
      (orderedDocument [(2, "b"), (1, "a")]) := by
  refine judgesOrder_of_verdict (sameMethods_orderedDocument (.swap _ _ _)) ?_ ?_ ?_
  all_goals decide +kernel

/-- The parts of a document are different. -/
def differentPartsSchema : Json := .object [("uniqueItems", .bool true)]

theorem judgesOrder_differentPartsSchema :
    Run.JudgesOrder differentPartsSchema
      (partsDocument [(1, "a"), (2, "b")] [(2, "b"), (1, "a")])
      (partsDocument [(2, "b"), (1, "a")] [(2, "b"), (1, "a")]) := by
  refine judgesOrder_of_verdict (sameMethods_partsDocument (.swap _ _ _) _) ?_ ?_ ?_
  all_goals decide +kernel

/-- A tree with no service documents, with texts for shared files, and with two temporary siblings
that are names of one file. -/
def linkedTree : FileTree :=
  ((FileTree.ofEntries [(["protocol"], .directory), (["texts"], .directory),
      (["texts", "header_includes.txt"], .file "header\n".toUTF8),
      (["texts", "source_header.txt"], .file "source\n".toUTF8),
      (["texts", "footer.txt"], .file "footer\n".toUTF8), (["linked"], .directory),
      (["linked", "cpp"], .directory), (["linked", "cpp", "codec"], .directory)]).put
    ["linked", "cpp", "codec", "codecs.h.tmp"] (.file 5)).put
    ["linked", "cpp", "codec", "codecs.cpp.tmp"] (.file 5)

/-- A run in that tree, with the given files for method codecs. -/
def linkedInput (files : Language → MethodFiles) (output : String) (languages : List Language) :
    Run.Input where
  configuration :=
    ⟨.standard, Language.all.map fun language => (language, { LanguageOverrides.empty with
      boilerplate := some "texts" })⟩
  registry := ⟨Language.all.map fun language => { language.mappingSet with
    methodFiles := files language }⟩
  options := ⟨"protocol", .builtin, output, languages⟩
  tree := linkedTree

/-- What a run that succeeds leaves in a file, if it leaves the file. -/
def Run.Input.left? (input : Run.Input) (path : String) : Option (Option String) :=
  match input.start (.draft7 .none) with
  | (.ok _, scene) => some (scene.tree.readText path).toOption
  | (.error _, _) => none

/-- Two runs with one protocol and one configuration of the C++ codecs, which do not leave the same
text in two files. -/
structure Run.Disagree (input input' : Run.Input) (path path' : String) : Prop where
  protocol : SameProtocol (.draft7 .none) input input' ServiceSchema.set.violations [] []
  linkFree : input.tree.LinkFree ∧ input'.tree.LinkFree
  language : SameLanguage input input' .cpp
  texts : ∃ text found, input.left? path = some (some text) ∧ input'.left? path' = some found ∧
    found ≠ some text

theorem linkFree_linkedTree : linkedTree.LinkFree :=
  ((FileTree.linkFree_ofEntries (by simp)).put _ (by simp)).put _ (by simp)

theorem disagree_linkedInput {files files' : Language → MethodFiles} {output output' : String}
    {languages languages' : List Language} {path path' text : String} {found : Option String}
    (hfiles : files .cpp = files' .cpp)
    (h : (linkedInput files output languages).left? path = some (some text))
    (h' : (linkedInput files' output' languages').left? path' = some found)
    (hne : found ≠ some text) :
    Run.Disagree (linkedInput files output languages) (linkedInput files' output' languages')
      path path' where
  protocol := by
    have hloads : ServiceDocument.loadAll linkedTree "protocol" = .ok [] :=
      eq_ok_of_toOption (by decide +kernel)
    exact ⟨hloads, hloads, ⟨[], .nil, .refl _⟩, rfl, rfl, rfl⟩
  linkFree := ⟨linkFree_linkedTree, linkFree_linkedTree⟩
  language := by
    refine ⟨?_, rfl, fun _ _ _ _ _ => Iff.rfl⟩
    change some { Cpp.mappingSet with methodFiles := files .cpp } =
      some { Cpp.mappingSet with methodFiles := files' .cpp }
    rw [hfiles]
  texts := ⟨text, found, h, h', hne⟩

/-- The method codecs go to the files given for a language; all others are as they are. -/
def filesWith (language : Language) (files : MethodFiles) (other : Language) : MethodFiles :=
  if other = language then files else other.mappingSet.methodFiles

/-- A run for C++ with the language's own files. -/
def ownFilesInput (output : String) : Run.Input :=
  linkedInput (·.mappingSet.methodFiles) output [.cpp]

/-- A run for C++ and for Java, which has files in the places of the other language. -/
def foreignFilesInput : Run.Input :=
  linkedInput (filesWith .java (.consolidated "x.java" "../../cpp/codec/codecs.h")) "out"
    [.cpp, .java]

/-- A run for C++ with two files, which are in one place if the output directory is `out`. -/
def crossedFilesInput (output : String) : Run.Input :=
  linkedInput (filesWith .cpp (.consolidated "codecs.h" "../../../out/cpp/codec/codecs.h")) output
    [.cpp]

/-- A run for C++ with a file that has the name of a temporary sibling, and for Java, which may have
the file that the sibling is one of. -/
def temporaryFileInput (languages : List Language) : Run.Input :=
  linkedInput (fun language => if language = .cpp then .consolidated "codecs.h.tmp" "codecs.cpp"
    else .consolidated "x.java" "../../cpp/codec/codecs.h") "out" languages

theorem reported_ownFilesInput (output : String) (h : output ∈ ["out", "linked"]) :
    ((ownFilesInput output).start (.draft7 .none)).1.toOption =
      some ⟨0, [⟨.cpp, ⟨[output ++ "/cpp/codec/codecs.h", output ++ "/cpp/codec/codecs.cpp"], [],
        []⟩, .empty⟩]⟩ := by
  revert output
  decide +kernel

theorem left?_ownFilesInput :
    (ownFilesInput "out").left? "out/cpp/codec/codecs.h" = some (some "header\nfooter\n") := by
  decide +kernel

theorem disagree_ownFilesInput :
    Run.Disagree (ownFilesInput "out") (ownFilesInput "linked")
      "out/cpp/codec/codecs.h" "linked/cpp/codec/codecs.h" :=
  disagree_linkedInput rfl left?_ownFilesInput
    (show _ = some (some "source\nfooter\nfooter\n") by decide +kernel) (by decide)

theorem disagree_foreignFilesInput :
    Run.Disagree (ownFilesInput "out") foreignFilesInput
      "out/cpp/codec/codecs.h" "out/cpp/codec/codecs.h" :=
  disagree_linkedInput rfl left?_ownFilesInput
    (show _ = some (some "source\nfooter\n") by decide +kernel) (by decide)

theorem disagree_crossedFilesInput :
    Run.Disagree (crossedFilesInput "other") (crossedFilesInput "out")
      "other/cpp/codec/codecs.h" "out/cpp/codec/codecs.h" :=
  disagree_linkedInput rfl (show _ = some (some "header\nfooter\n") by decide +kernel)
    (show _ = some (some "source\nfooter\nfooter\n") by decide +kernel) (by decide)

theorem disagree_temporaryFileInput :
    Run.Disagree (temporaryFileInput [.cpp]) (temporaryFileInput [.cpp, .java])
      "out/cpp/codec/codecs.h.tmp" "out/cpp/codec/codecs.h.tmp" :=
  disagree_linkedInput rfl (show _ = some (some "header\nfooter\n") by decide +kernel)
    (show _ = some none by decide +kernel) (by decide)

/-- Runs with one protocol and one configuration of a language disagree on the validity of documents
if the schema depends on the order of items; on the reports if they write to different directories;
and on the files if temporary siblings of two are names of one file, if another language has a file
in the same place or one whose temporary sibling is in the same place, or if more files of the
language are in one place. -/
theorem runs_disagree :
    (Run.JudgesOrder firstMethodSchema (orderedDocument [(1, "a"), (2, "b")])
        (orderedDocument [(2, "b"), (1, "a")]) ∧
      Run.JudgesOrder fixedMethodsSchema (orderedDocument [(1, "a"), (2, "b")])
        (orderedDocument [(2, "b"), (1, "a")]) ∧
      Run.JudgesOrder differentPartsSchema
        (partsDocument [(1, "a"), (2, "b")] [(2, "b"), (1, "a")])
        (partsDocument [(2, "b"), (1, "a")] [(2, "b"), (1, "a")])) ∧
    ((ownFilesInput "out").start (.draft7 .none)).1.toOption ≠
      ((ownFilesInput "linked").start (.draft7 .none)).1.toOption ∧
    Run.Disagree (ownFilesInput "out") (ownFilesInput "linked")
      "out/cpp/codec/codecs.h" "linked/cpp/codec/codecs.h" ∧
    Run.Disagree (ownFilesInput "out") foreignFilesInput
      "out/cpp/codec/codecs.h" "out/cpp/codec/codecs.h" ∧
    Run.Disagree (temporaryFileInput [.cpp]) (temporaryFileInput [.cpp, .java])
      "out/cpp/codec/codecs.h.tmp" "out/cpp/codec/codecs.h.tmp" ∧
    Run.Disagree (crossedFilesInput "other") (crossedFilesInput "out")
      "other/cpp/codec/codecs.h" "out/cpp/codec/codecs.h" := by
  refine ⟨⟨judgesOrder_firstMethodSchema, judgesOrder_fixedMethodsSchema,
    judgesOrder_differentPartsSchema⟩, ?_, disagree_ownFilesInput, disagree_foreignFilesInput,
    disagree_temporaryFileInput, disagree_crossedFilesInput⟩
  rw [reported_ownFilesInput "out" (by simp), reported_ownFilesInput "linked" (by simp)]
  decide

end WireCodecs
