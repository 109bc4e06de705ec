import WireCodecs.Proofs.Run.TargetFiles

/-! Emissions into another directory. What is written for a target and reported on it is the same in
every output directory, up to the paths. -/

namespace WireCodecs

/-- The write to the path in a directory. -/
def CodecWrite.under (root : String) (write : CodecWrite) : CodecWrite :=
  { write with path := Path.join root write.path }

/-- Whether paths that lead to one place in a directory do so in another one. -/
def SamePlaces (root root' : String) (paths : List String) : Prop :=
  ∀ path ∈ paths, ∀ other ∈ paths,
    FileTree.named (Path.join root other) = FileTree.named (Path.join root path) ↔
      FileTree.named (Path.join root' other) = FileTree.named (Path.join root' path)

/-- What a file holds does not depend on the directory if the same writes go to its place. -/
theorem contentAfter_under {root root' path : String} {writes : List CodecWrite}
    (h : ∀ write ∈ writes,
      FileTree.named (Path.join root write.path) = FileTree.named (Path.join root path) ↔
        FileTree.named (Path.join root' write.path) = FileTree.named (Path.join root' path))
    (present : Option ByteArray) :
    contentAfter FileTree.named (FileTree.named (Path.join root path))
        (writes.map (·.under root)) present =
      contentAfter FileTree.named (FileTree.named (Path.join root' path))
        (writes.map (·.under root')) present := by
  induction writes generalizing present with
  | nil => rfl
  | cons write writes ih =>
    simp only [List.map_cons, contentAfter, CodecWrite.under, CodecWrite.apply, CodecWrite.bytes,
      h write List.mem_cons_self]
    exact ih (fun other hother => h other (List.mem_cons_of_mem _ hother)) _

/-- The report on the files in a directory. -/
def Report.under (root : String) (report : Report) : Report :=
  { report with written := report.written.map (Path.join root) }

def LanguageSummary.under (root : String) (summary : LanguageSummary) : LanguageSummary :=
  ⟨summary.language, summary.standard.under root, summary.custom.under root⟩

theorem LanguageSummary.written_under (root : String) (summary : LanguageSummary) :
    (summary.under root).written = summary.written.map (Path.join root) := by
  simp [written, under, Report.under]

theorem Report.merge_under (root : String) (first second : Report) :
    (first.merge second).under root = (first.under root).merge (second.under root) := by
  simp [under, merge]

namespace Emission

def under (root : String) (emission : Emission) : Emission where
  artifacts := emission.artifacts.map fun artifact =>
    ⟨artifact.name, artifact.writes.map (·.under root)⟩
  skipped := emission.skipped

theorem writes_under (root : String) (emission : Emission) :
    (emission.under root).writes = emission.writes.map (·.under root) := by
  simp [under, writes, List.map_flatMap, List.flatMap_map]

theorem report_under (root : String) (emission : Emission) :
    (emission.under root).report = emission.report.under root := by
  rw [report, writes_under, List.filter_map, List.map_map]
  simp [report, Report.under, under, Function.comp_def, CodecWrite.under]

theorem concat_under (root : String) (emissions : List Emission) :
    (concat emissions).under root = concat (emissions.map (·.under root)) := by
  simp [concat, under, List.map_flatMap, List.flatMap_map]

/-- What is emitted for each of some items moves with them. -/
theorem concat_map_under {α : Type} (root : String) {f g : α → Emission}
    (h : ∀ item, (f item).under root = g item) (items : List α) :
    (concat (items.map f)).under root = concat (items.map g) := by
  rw [concat_under, List.map_map]
  exact congrArg concat (List.map_congr_left fun item _ => h item)

end Emission

namespace Emitter

variable (emitter : Emitter) (root : String)

theorem singleEmission_under (template : Template) (subject : Subject) (path : String) :
    (emitter.singleEmission template subject path).under root =
      emitter.singleEmission template subject (Path.join root path) := by
  unfold singleEmission
  split <;> rfl

theorem pairEmission_under (header source : Template) (subject : Subject)
    {writes moved : (header source : String) → List CodecWrite}
    (h : ∀ header source, (writes header source).map (·.under root) = moved header source) :
    (emitter.pairEmission header source subject writes).under root =
      emitter.pairEmission header source subject moved := by
  unfold pairEmission
  split
  · simp [Emission.under, Emission.ofArtifact, h]
  all_goals rfl

theorem sharedEmission_under (services : List Service) (header source : String) :
    (emitter.sharedEmission services header source).under root =
      emitter.sharedEmission services (Path.join root header) (Path.join root source) :=
  Emission.concat_map_under root (fun _ => emitter.pairEmission_under root _ _ _ fun _ _ => rfl) _

theorem methodsEmission_under (services : List Service) (directory extension : String) :
    (emitter.methodsEmission services directory extension).under root =
      emitter.methodsEmission services (Path.join root directory) extension := by
  refine Emission.concat_map_under root (fun (service, method) => ?_) _
  simp only [singleEmission_under, methodPath, Path.join_join]

theorem codecWrites_under (services : List Service) (directory : String) :
    (emitter.codecWrites services directory).map (·.under root) =
      emitter.codecWrites services (Path.join root directory) := by
  unfold codecWrites
  split
  · simp only [consolidatedWrites, List.map_append, ← Emission.writes_under, sharedEmission_under,
      Path.join_join]
    rfl
  · rw [← Emission.writes_under, methodsEmission_under]

theorem codecReport_under (services : List Service) (directory : String) :
    (emitter.codecReport services directory).under root =
      emitter.codecReport services (Path.join root directory) := by
  unfold codecReport
  split
  · rw [Report.merge_under, ← Emission.report_under, sharedEmission_under]
    simp only [Path.join_join]
    rfl
  · rw [← Emission.report_under, methodsEmission_under]

theorem customsEmission_under (services : List Service) (directory : String) :
    (emitter.customsEmission services directory).under root =
      emitter.customsEmission services (Path.join root directory) := by
  refine Emission.concat_map_under root (fun type => ?_) _
  unfold customEmission
  split
  · simp only [Path.join_join]
    exact emitter.pairEmission_under root _ _ _ fun _ _ => rfl
  · rw [singleEmission_under, Path.join_join]

end Emitter

namespace Run

variable (services : List Service) (output : String) (target : Target)

/-- In a directory, the same is written as in the directory where the program runs. -/
theorem targetWrites_eq :
    targetWrites services output target =
      (targetWrites services "" target).map (·.under output) := by
  simp only [targetWrites, standardWrites, customWrites, customEmission, List.map_append,
    Emitter.codecWrites_under, ← Emission.writes_under, Emitter.customsEmission_under,
    Path.join_empty]

theorem languageSummary_eq :
    languageSummary services output target = (languageSummary services "" target).under output := by
  simp only [languageSummary, LanguageSummary.under, customEmission, Emitter.codecReport_under,
    ← Emission.report_under, Emitter.customsEmission_under, Path.join_empty]

end Run

end WireCodecs
