import WireCodecs.Proofs.Run.Emission
import WireCodecs.Proofs.Run.Failure

/-! Emissions that succeed. If the engine answers whatever the emitter asks it for, an emission
succeeds wherever its writes can be made; what else is in the file tree does not matter. -/

namespace WireCodecs

namespace RunM

variable {α β : Type}

/-- Wherever the writes can be made, the run makes them and ends with the value. -/
def Makes (run : RunM α) (writes : List CodecWrite) (value : α) : Prop :=
  ∀ scene tree, FileTree.Performed writes scene.tree tree →
    ∃ log, Yields run scene value ⟨tree, log⟩

theorem makes_pure (value : α) : Makes (pure value) [] value := by
  rintro scene tree rfl
  exact ⟨scene.log, yields_pure_iff.mpr ⟨rfl, rfl⟩⟩

theorem Makes.bind {run : RunM α} {next : α → RunM β} {writes writes' : List CodecWrite}
    {first : α} {value : β} (h : Makes run writes first)
    (hnext : Makes (next first) writes' value) :
    Makes (run >>= next) (writes ++ writes') value := by
  intro scene tree hperformed
  obtain ⟨between, hwrites, hrest⟩ := FileTree.performed_append.mp hperformed
  obtain ⟨log, hrun⟩ := h scene between hwrites
  obtain ⟨log', hlast⟩ := hnext ⟨between, log⟩ tree hrest
  exact ⟨log', yields_bind_iff.mpr ⟨first, ⟨between, log⟩, hrun, hlast⟩⟩

theorem Makes.bind_pure {run : RunM α} {writes : List CodecWrite} {value : α}
    (h : Makes run writes value) (f : α → β) :
    Makes (run >>= fun found => pure (f found)) writes (f value) := by
  rw [← List.append_nil writes]
  exact h.bind (makes_pure (f value))

theorem makes_log (level : LogLevel) (message : String) (fields : List (String × String)) :
    Makes (log level message fields) [] () := by
  rintro scene tree rfl
  exact ⟨_, yields_log_iff.mpr rfl⟩

theorem makes_writeCodec (path text : String) (mode : WriteMode) :
    Makes (writeCodec path text mode) [⟨path, text, mode⟩] () := by
  rintro scene tree ⟨between, hwrite, rfl⟩
  exact ⟨scene.log, yields_writeCodec_iff.mpr ⟨hwrite, rfl⟩⟩

/-- Two writes after each other. -/
theorem makes_writeBoth (path text path' text' : String) (mode mode' : WriteMode) (value : α) :
    Makes (do
      writeCodec path text mode
      writeCodec path' text' mode'
      return value) [⟨path, text, mode⟩, ⟨path', text', mode'⟩] value :=
  (makes_writeCodec path text mode).bind <|
    (makes_writeCodec path' text' mode').bind (makes_pure value)

end RunM

open RunM

namespace Emitter

theorem makes_emitEach {α : Type} {emit : α → RunM Report} {items : List α} {f : α → Emission}
    (h : ∀ item ∈ items, Makes (emit item) (f item).writes (f item).report) :
    Makes (emitEach emit items) (Emission.concat (items.map f)).writes
      (Emission.concat (items.map f)).report := by
  induction items with
  | nil => exact makes_pure _
  | cons item items ih =>
    have hrest := ih fun other hother => h other (List.mem_cons_of_mem item hother)
    rw [List.map_cons, Emission.report_concat_cons, Emission.writes_concat_cons]
    exact (h item List.mem_cons_self).bind (hrest.bind_pure _)

variable {emitter : Emitter}

section Subjects

theorem makes_render {template : Template} {subject : Subject} {rendering : Rendering}
    (h : emitter.engine template subject = .ok rendering) :
    Makes (emitter.render template subject) [] rendering := by
  rintro scene tree rfl
  exact ⟨scene.log, (emitter.yields_render_iff).mpr ⟨h, rfl⟩⟩

theorem makes_skip (artifact typeName : String) :
    Makes (skip artifact typeName) [] (.skip artifact typeName) :=
  (makes_log _ _ _).bind (makes_pure _)

theorem makes_emitSingle {template : Template} {subject : Subject}
    (h : ∃ rendering, emitter.engine template subject = .ok rendering) (path : String) :
    Makes (emitter.emitSingle template subject path)
      (emitter.singleEmission template subject path).writes
      (emitter.singleEmission template subject path).report := by
  obtain ⟨rendering, hengine⟩ := h
  rw [singleEmission, hengine]
  refine (makes_render hengine).bind ?_
  cases rendering with
  | rendered text => exact (makes_writeCodec path text .create).bind (makes_pure _)
  | unmapped typeName => exact makes_skip _ typeName

/-- The files of a pair that are created are the ones that are reported. -/
theorem makes_emitPair {header source : Template} {subject : Subject}
    (hheader : ∃ rendering, emitter.engine header subject = .ok rendering)
    (hsource : ∃ rendering, emitter.engine source subject = .ok rendering)
    {write : (header source : String) → RunM (List String)}
    {writes : (header source : String) → List CodecWrite}
    (hwrite : ∀ headerText sourceText, Makes (write headerText sourceText)
      (writes headerText sourceText)
      (((writes headerText sourceText).filter (·.mode = .create)).map (·.path))) :
    Makes (emitter.emitPair header source subject write)
      (emitter.pairEmission header source subject writes).writes
      (emitter.pairEmission header source subject writes).report := by
  obtain ⟨first, hfirst⟩ := hheader
  obtain ⟨second, hsecond⟩ := hsource
  match first, second with
  | .rendered headerText, .rendered sourceText =>
    have hpair : emitter.pairEmission header source subject writes =
        .ofArtifact ⟨subject.artifact, writes headerText sourceText⟩ := by
      rw [pairEmission, hfirst, hsecond]
    have hreport : (Emission.ofArtifact ⟨subject.artifact, writes headerText sourceText⟩).report =
        ⟨((writes headerText sourceText).filter (·.mode = .create)).map (·.path),
          [subject.artifact], []⟩ := by
      simp [Emission.report, Emission.writes, Emission.ofArtifact]
    rw [hpair, Emission.writes_ofArtifact, hreport]
    exact (makes_render hfirst).bind <| (makes_render hsecond).bind <|
      (hwrite headerText sourceText).bind_pure _
  | .unmapped typeName, _ =>
    rw [pairEmission, hfirst, hsecond]
    exact (makes_render hfirst).bind ((makes_render hsecond).bind (makes_skip _ typeName))
  | .rendered _, .unmapped typeName =>
    rw [pairEmission, hfirst, hsecond]
    exact (makes_render hfirst).bind ((makes_render hsecond).bind (makes_skip _ typeName))

end Subjects

section Emissions

theorem makes_emitMethods (services : List Service) {emit : Service → Method → RunM Report}
    {f : Service × Method → Emission}
    (h : ∀ service method, Makes (emit service method) (f (service, method)).writes
      (f (service, method)).report) :
    Makes (emitter.emitMethods services emit)
      (Emission.concat ((emitter.includedMethods services).map f)).writes
      (Emission.concat ((emitter.includedMethods services).map f)).report := by
  rw [concat_includedMethods]
  refine makes_emitEach fun service _ => ?_
  split
  · next hignored =>
    rw [if_neg (by simpa using hignored)]
    exact (makes_log _ _ _).bind (makes_pure _)
  · next hincluded =>
    rw [if_pos (by simpa using hincluded)]
    exact makes_emitEach fun method _ => h service method

theorem makes_emitConsolidated
    (hengine : ∀ template ∈ [Template.methodHeader, .methodSource], ∀ service method,
      ∃ rendering, emitter.engine template (.method service method) = .ok rendering)
    (services : List Service) (header source : String) :
    Makes (emitter.emitConsolidated services header source)
      (emitter.consolidatedWrites services header source)
      (Report.merge ⟨[header, source], [], []⟩
        (emitter.sharedEmission services header source).report) := by
  have hshared := @makes_emitMethods emitter services _
    (fun entry =>
      emitter.pairEmission .methodHeader .methodSource (.method entry.1.name entry.2)
        fun headerText sourceText =>
          [⟨header, headerText, .append⟩, ⟨source, sourceText, .append⟩])
    fun service method =>
      makes_emitPair (hengine _ (.head _) _ _) (hengine _ (.tail _ (.head _)) _ _)
      fun _ _ => makes_writeBoth _ _ _ _ _ _ _
  rw [consolidatedWrites, List.append_assoc]
  exact (makes_writeCodec _ _ _).bind <| (makes_writeCodec _ _ _).bind <|
    hshared.bind (makes_writeBoth _ _ _ _ _ _ _)

variable (h : emitter.HasTemplates) (services : List Service) (directory : String)
include h

theorem makes_emitCodecs :
    Makes (emitter.emitCodecs services directory) (emitter.codecWrites services directory)
      (emitter.codecReport services directory) := by
  have hmethods := h.methods
  cases hfiles : emitter.methodFiles with
  | consolidated header source =>
    rw [hfiles] at hmethods
    simp only [emitCodecs, codecWrites, codecReport, hfiles]
    exact makes_emitConsolidated hmethods services _ _
  | perMethod extension =>
    rw [hfiles] at hmethods
    simp only [emitCodecs, codecWrites, codecReport, hfiles]
    exact makes_emitMethods services
      (f := fun entry =>
        emitter.singleEmission .methodCodec (.method entry.1.name entry.2)
          (methodPath directory extension entry.1 entry.2))
      fun service method => makes_emitSingle (hmethods _ (.head _) _ _) _

theorem makes_emitCustomCodecs :
    Makes (emitter.emitCustomCodecs services directory)
      (emitter.customsEmission services directory).writes
      (emitter.customsEmission services directory).report := by
  have hcustoms := h.customs
  refine makes_emitEach fun type _ => ?_
  cases hfiles : emitter.customFiles with
  | pair suffix headerExtension sourceExtension =>
    rw [hfiles] at hcustoms
    simp only [emitCustomCodec, customEmission, hfiles]
    refine makes_emitPair (hcustoms _ (.head _) _) (hcustoms _ (.tail _ (.head _)) _) ?_
    intro headerText sourceText
    simp only [List.filter_cons, decide_true, if_true, List.filter_nil, List.map_cons, List.map_nil]
    exact makes_writeBoth _ _ _ _ _ _ _
  | single extension =>
    rw [hfiles] at hcustoms
    simp only [emitCustomCodec, customEmission, hfiles]
    exact makes_emitSingle (hcustoms _ (.head _) _) _

end Emissions

end Emitter

end WireCodecs
