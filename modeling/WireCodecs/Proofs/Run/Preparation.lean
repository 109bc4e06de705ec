import WireCodecs.Proofs.Files.Writing
import WireCodecs.Proofs.Run.Generation

/-! Targets that are made ready. With the program's own mapping sets, what is ready for a language
follows from its settings, the type table, the declared custom types, and the files that replace its
built-in texts. -/

namespace WireCodecs

section Registries

/-- Whether all mapping sets are the program's own. -/
def Registry.IsStandard (registry : Registry) : Prop :=
  ∀ set ∈ registry.sets, set = set.language.mappingSet

theorem Language.language_mappingSet (language : Language) :
    language.mappingSet.language = language := by
  cases language <;> rfl

namespace Registry

theorem mem_insertSet {set other : MappingSet} {sets : List MappingSet}
    (h : other ∈ insertSet set sets) : other = set ∨ other ∈ sets := by
  induction sets with
  | nil => exact .inl (List.mem_singleton.mp h)
  | cons first sets ih =>
    rw [insertSet] at h
    split at h
    · exact List.mem_cons.mp h
    · split at h
      · exact (List.mem_cons.mp h).imp_right (List.mem_cons_of_mem first)
      · rcases List.mem_cons.mp h with rfl | h
        · exact .inr List.mem_cons_self
        · exact (ih h).imp_right (List.mem_cons_of_mem first)

theorem IsStandard.register {registry : Registry} (h : registry.IsStandard) (language : Language) :
    (registry.register language.mappingSet).IsStandard := by
  intro set hmem
  rcases mem_insertSet hmem with rfl | hmem
  · rw [language.language_mappingSet]
  · exact h set hmem

theorem isStandard_ofLanguages (languages : List Language) :
    (ofLanguages languages).IsStandard := by
  rw [ofLanguages]
  generalize hstart : empty = start
  have h : start.IsStandard := by
    rw [← hstart]
    exact fun set hmem => absurd hmem List.not_mem_nil
  clear hstart
  induction languages generalizing start with
  | nil => exact h
  | cons language languages ih => exact ih _ (h.register language)

theorem IsStandard.eq_mappingSet {registry : Registry} (h : registry.IsStandard)
    {language : Language} {set : MappingSet} (hset : registry.get? language = some set) :
    set = language.mappingSet := by
  rw [h set (List.mem_of_find?_eq_some hset), Run.language_of_get? hset]

end Registry

end Registries

namespace FileTree

section Files

variable {tree tree' : FileTree} {path : String}

/-- Whether a path leads to the same file in both trees, or to none in either. -/
def SameFile (tree tree' : FileTree) (path : String) : Prop :=
  ∀ content, tree.readBytes path = .ok content ↔ tree'.readBytes path = .ok content

theorem isFile_iff : tree.isFile path ↔ ∃ content, tree.readBytes path = .ok content := by
  simp only [readBytes_eq_ok_iff, content?_eq_some_iff, isFile]
  cases hplace : tree.place true path with
  | error fault => simp
  | ok place =>
    simp only [Except.ok.injEq, exists_eq_left']
    cases tree.get? place with
    | none => simp
    | some entry => cases entry <;> simp

theorem readText_eq_ok_iff {text : String} : tree.readText path = .ok text ↔
    ∃ content, tree.readBytes path = .ok content ∧ String.fromUTF8? content = some text := by
  rw [readText, bind_eq_ok_iff]
  refine exists_congr fun content => and_congr_right fun _ => ?_
  cases String.fromUTF8? content <;> simp [pure, Except.pure, throw, throwThe, MonadExceptOf.throw]

end Files

end FileTree

namespace Boilerplate

open FileTree (SameFile)

/-- The files that replace built-in texts. -/
def fileNames : List String := ["header_includes.txt", "source_header.txt", "footer.txt"]

variable {tree tree' : FileTree} {directory : String}

theorem override_eq_ok_iff {name text found : String} :
    override tree directory name text = .ok found ↔
      (∃ content, tree.readBytes (Path.join directory name) = .ok content ∧
        String.fromUTF8? content = some found) ∨
      (∀ content, tree.readBytes (Path.join directory name) ≠ .ok content) ∧ found = text := by
  rw [← FileTree.readText_eq_ok_iff, override]
  by_cases hfile : tree.isFile (Path.join directory name)
  · obtain ⟨content, hcontent⟩ := FileTree.isFile_iff.mp hfile
    have hthere : ¬∀ content, tree.readBytes (Path.join directory name) ≠ .ok content :=
      fun hnone => hnone content hcontent
    simp only [hfile, if_true, hthere, false_and, or_false]
    cases tree.readText (Path.join directory name) <;> simp
  · have hnone : ∀ content, tree.readBytes (Path.join directory name) ≠ .ok content :=
      fun content hcontent => hfile (FileTree.isFile_iff.mpr ⟨content, hcontent⟩)
    have hunread : tree.readText (Path.join directory name) ≠ .ok found := fun htext => by
      obtain ⟨content, hcontent, -⟩ := FileTree.readText_eq_ok_iff.mp htext
      exact hnone content hcontent
    simp [hfile, hnone, hunread, eq_comm]

/-- The same files give the same texts. -/
theorem load_of_sameFile {namespaceName : String} {files : MethodFiles} {directory : Option String}
    {texts : Boilerplate}
    (h : ∀ folder, directory = some folder → ∀ name ∈ fileNames,
      SameFile tree tree' (Path.join folder name))
    (hload : load tree namespaceName files directory = .ok texts) :
    load tree' namespaceName files directory = .ok texts := by
  cases directory with
  | none => exact hload
  | some folder =>
    have hsame (name : String) (hname : name ∈ fileNames) {text found : String}
        (hfound : override tree folder name text = .ok found) :
        override tree' folder name text = .ok found := by
      have hread := h folder rfl name hname
      simpa only [override_eq_ok_iff, ne_eq, hread _] using hfound
    simp only [load, bind_eq_ok_iff, pure_eq_ok_iff] at hload ⊢
    obtain ⟨header, hheader, source, hsource, footer, hfooter, rfl⟩ := hload
    exact ⟨header, hsame _ (by decide) hheader, source, hsame _ (by decide) hsource, footer,
      hsame _ (by decide) hfooter, rfl⟩

end Boilerplate

namespace Run

/-- Every target is the one that is ready for its language. -/
theorem exists_of_mem_targets {configuration : Configuration} {registry : Registry}
    {tree : FileTree} {customTypes : List String} {languages : List Language}
    {targets : List Target} {found : Target}
    (htargets : languages.mapM (target configuration registry tree customTypes) = .ok targets)
    (hmem : found ∈ targets) :
    ∃ set boilerplate, registry.get? found.language = some set ∧
      Boilerplate.load tree (configuration.settings found.language).namespaceName set.methodFiles
          (configuration.settings found.language).boilerplate = .ok boilerplate ∧
      found = preparedTarget configuration customTypes set boilerplate := by
  obtain ⟨language, -, htarget⟩ := exists_mem_of_mapM htargets hmem
  obtain ⟨set, boilerplate, hset, hload, rfl⟩ := target_eq_ok_iff.mp htarget
  have hlanguage : (preparedTarget configuration customTypes set boilerplate).language = language :=
    language_of_get? hset
  rw [hlanguage]
  exact ⟨set, boilerplate, hset, hload, rfl⟩

end Run

end WireCodecs
