import WireCodecs.Proofs.Run.Artifacts
import WireCodecs.Proofs.Run.Consolidated
import WireCodecs.Proofs.Run.Generation

/-! The files of a target. The files that are reported are the ones that are written to, and each of
them is created before anything is appended to it, whatever the layout. In the layout of the
program's own mapping sets they have the extensions of the language, which no two languages
share. -/

namespace WireCodecs

section Languages

theorem Language.eq_of_extension {language other : Language} {extension : String}
    (h : extension ∈ language.extensions) (h' : extension ∈ other.extensions) :
    language = other := by
  cases language <;> cases other <;> simp_all [extensions]

/-- Files of different languages have different places. -/
theorem Language.eq_of_named {language other : Language} {path path' : String}
    (h : language.IsFile path) (h' : other.IsFile path')
    (heq : FileTree.named path = FileTree.named path') : language = other := by
  obtain ⟨extension, hmem, hpath⟩ := h
  obtain ⟨extension', hmem', hpath'⟩ := h'
  have hlast : Path.lastName path = Path.lastName path' :=
    List.singleton_inj.mp (List.append_inj' heq rfl).2
  obtain rfl := hpath.eq_of_lastName hpath' hlast
  exact eq_of_extension hmem hmem'

end Languages

/-- All files that are reported for a language. -/
def LanguageSummary.written (summary : LanguageSummary) : List String :=
  summary.standard.written ++ summary.custom.written

namespace Emitter

variable {emitter : Emitter} {services : List Service} {directory : String}

theorem creates_methodsEmission {extension : String} :
    ∀ write ∈ (emitter.methodsEmission services directory extension).writes,
      write.mode = .create :=
  Emission.forall_writes_concat fun _ _ => emitter.forall_writes_singleEmission _ _ fun _ => rfl

theorem creates_customsEmission :
    ∀ write ∈ (emitter.customsEmission services directory).writes, write.mode = .create := by
  refine Emission.forall_writes_concat fun type _ => ?_
  unfold customEmission
  split
  · exact emitter.forall_writes_pairEmission _ _ _ fun _ _ => by simp
  · exact emitter.forall_writes_singleEmission _ _ fun _ => rfl

theorem consolidatedWrites_eq (header source : String) :
    emitter.consolidatedWrites services header source =
      [⟨header, emitter.boilerplate.headerStart, .create⟩,
        ⟨source, emitter.boilerplate.sourceStart, .create⟩] ++
      emitter.sharedAppends services header source :=
  List.append_assoc _ _ _

theorem mem_consolidatedWrites {header source : String} {write : CodecWrite}
    (h : write ∈ emitter.consolidatedWrites services header source) :
    write.path ∈ [header, source] := by
  rw [consolidatedWrites_eq] at h
  rcases List.mem_append.mp h with h | h
  · simp only [List.mem_cons, List.not_mem_nil, or_false] at h
    rcases h with rfl | rfl <;> simp
  · exact (emitter.mem_sharedAppends h).2

theorem createsFirst_codecWrites (created : List String) :
    CreatesFirst created (emitter.codecWrites services directory) := by
  unfold codecWrites
  split
  · rw [consolidatedWrites_eq]
    refine (createsFirst_of_creates (by simp)).append fun created' _ hcreated => ?_
    refine createsFirst_of_mem fun write hmem => ?_
    have hpath := (emitter.mem_sharedAppends hmem).2
    simp only [List.forall_mem_cons, List.not_mem_nil, false_implies, implies_true,
      and_true] at hcreated
    simp only [List.mem_cons, List.not_mem_nil, or_false] at hpath
    rcases hpath with hpath | hpath <;> rw [hpath]
    · exact hcreated.1
    · exact hcreated.2
  · exact createsFirst_of_creates creates_methodsEmission

theorem mem_written_codecReport_iff {path : String} :
    path ∈ (emitter.codecReport services directory).written ↔
      ∃ write ∈ emitter.codecWrites services directory, write.path = path := by
  unfold codecReport codecWrites
  split
  · next header source _ =>
    -- What is appended is not reported again.
    have hnone : (emitter.sharedEmission services (Path.join directory header)
        (Path.join directory source)).report.written = [] := by
      refine List.map_eq_nil_iff.mpr (List.filter_eq_nil_iff.mpr fun write hmem => ?_)
      have hmode := (emitter.mem_sharedAppends (List.mem_append_left _ hmem)).1
      simp [hmode]
    rw [Report.merge, hnone, List.append_nil]
    constructor
    · intro h
      simp only [List.mem_cons, List.not_mem_nil, or_false] at h
      rcases h with rfl | rfl <;> simp [consolidatedWrites]
    · rintro ⟨write, hmem, rfl⟩
      exact mem_consolidatedWrites hmem
  · rw [Emission.written_of_creates creates_methodsEmission, List.mem_map]

theorem isFile_of_codecWrites {language : Language}
    (hfiles : emitter.methodFiles = language.mappingSet.methodFiles)
    {write : CodecWrite} (h : write ∈ emitter.codecWrites services directory) :
    language.IsFile write.path := by
  cases language with
  | java =>
    change emitter.methodFiles = .perMethod "java" at hfiles
    simp only [codecWrites, hfiles] at h
    exact (emitter.separate_methodsEmission services directory write h).2
  | cpp =>
    change emitter.methodFiles = .consolidated "codecs.h" "codecs.cpp" at hfiles
    simp only [codecWrites, hfiles] at h
    have hpath := mem_consolidatedWrites h
    simp only [List.mem_cons, List.not_mem_nil, or_false] at hpath
    rcases hpath with hpath | hpath <;> rw [hpath]
    · exact ⟨"h", by decide, Path.hasExtension_join directory "codecs" (by decide) (by decide)
        (by decide) (by decide)⟩
    · exact ⟨"cpp", by decide, Path.hasExtension_join directory "codecs" (by decide) (by decide)
        (by decide) (by decide)⟩

end Emitter

/-- Whether a target writes the files of its language. -/
structure Target.IsStandard (target : Target) : Prop where
  methodFiles : target.emitter.methodFiles = target.language.mappingSet.methodFiles
  customFiles : target.emitter.customFiles = target.language.mappingSet.customFiles

namespace Run

/-- What is written for a target. -/
def targetWrites (services : List Service) (output : String) (target : Target) : List CodecWrite :=
  standardWrites services output target ++ customWrites services output target

variable {services : List Service} {output : String} {target : Target} {targets : List Target}

theorem mem_allWrites_iff {write : CodecWrite} :
    write ∈ allWrites services output targets ↔
      ∃ target ∈ targets, write ∈ targetWrites services output target := by
  simp only [allWrites, targetWrites, List.mem_append, List.mem_flatMap, and_or_left, exists_or]

theorem mem_written_iff {path : String} :
    path ∈ (languageSummary services output target).written ↔
      ∃ write ∈ targetWrites services output target, write.path = path := by
  simp only [LanguageSummary.written, languageSummary, targetWrites, List.mem_append,
    Emitter.mem_written_codecReport_iff, or_and_right, exists_or]
  refine or_congr Iff.rfl ?_
  rw [customEmission, Emission.written_of_creates Emitter.creates_customsEmission, List.mem_map]
  rfl

theorem createsFirst_standardWrites (created : List String) :
    CreatesFirst created (standardWrites services output target) :=
  Emitter.createsFirst_codecWrites created

theorem createsFirst_customWrites (created : List String) :
    CreatesFirst created (customWrites services output target) :=
  createsFirst_of_creates Emitter.creates_customsEmission

theorem createsFirst_targetWrites : CreatesFirst [] (targetWrites services output target) :=
  (createsFirst_standardWrites []).append fun _ _ _ => createsFirst_customWrites _

theorem createsFirst_allWrites : CreatesFirst [] (allWrites services output targets) :=
  (createsFirst_flatMap fun _ _ => createsFirst_standardWrites).append fun _ _ _ =>
    createsFirst_flatMap fun _ _ => createsFirst_customWrites

theorem isFile_of_targetWrites (hstandard : target.IsStandard) {write : CodecWrite}
    (h : write ∈ targetWrites services output target) : target.language.IsFile write.path := by
  rcases List.mem_append.mp h with h | h
  · exact Emitter.isFile_of_codecWrites hstandard.methodFiles h
  · exact (target.emitter.separate_customsEmission services _ hstandard.customFiles write h).2

end Run

end WireCodecs
