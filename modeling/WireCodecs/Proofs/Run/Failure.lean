import WireCodecs.Run.Emission
import WireCodecs.Proofs.Run.Success

/-! Runs that fail. A sequence of steps fails exactly if one of them fails in the scene that the
steps before it leave. With an engine that has the templates of its files, an emission fails only
by a file operation. -/

namespace WireCodecs

/-- A file operation has failed. -/
def RunError.IsFile (error : RunError) : Prop := ∃ fault, error = .file fault

namespace RunM

section Sequences

variable {α β : Type} {scene : Scene} {error : RunError}

/-- The run ends with the error. -/
def Fails (run : RunM α) (scene : Scene) (error : RunError) : Prop :=
  (outcome run scene).1 = .error error

theorem start_eq_error_iff {run : RunM α} {tree : FileTree} {after : Scene} :
    run.start tree = (.error error, after) ↔
      Fails run ⟨tree, []⟩ error ∧ (outcome run ⟨tree, []⟩).2 = after :=
  Prod.ext_iff

theorem exists_start_iff {run : RunM α} {tree : FileTree} :
    (∃ after, run.start tree = (.error error, after)) ↔ Fails run ⟨tree, []⟩ error := by
  simp only [start_eq_error_iff, exists_and_left, exists_eq', and_true]

theorem fails_bind_iff {run : RunM α} {next : α → RunM β} :
    Fails (run >>= next) scene error ↔
      Fails run scene error ∨
        ∃ first between, Yields run scene first between ∧ Fails (next first) between error := by
  simp only [Fails, Yields, outcome_bind]
  rcases outcome run scene with ⟨other | first, between⟩ <;> simp

theorem not_fails_pure {value : α} : ¬Fails (pure value) scene error := by
  change (Except.ok value : Except RunError α) ≠ .error error
  simp

theorem fails_throw_iff {other : RunError} :
    Fails (throw other : RunM α) scene error ↔ error = other := by
  change (Except.error other : Except RunError α) = .error error ↔ _
  simp [eq_comm]

theorem not_fails_modify {change : Scene → Scene} : ¬Fails (modify change) scene error := by
  change (Except.ok () : Except RunError Unit) ≠ .error error
  simp

theorem not_fails_log {level : LogLevel} {message : String} {fields : List (String × String)} :
    ¬Fails (log level message fields) scene error :=
  not_fails_modify

theorem not_fails_tree : ¬Fails RunM.tree scene error := by
  change (Except.ok scene.tree : Except RunError FileTree) ≠ .error error
  simp

theorem fails_ofResult_iff {ε : Type} {wrap : ε → RunError} {result : Except ε α} :
    Fails (ofResult wrap result) scene error ↔
      ∃ cause, result = .error cause ∧ error = wrap cause := by
  cases result with
  | ok found => simpa [ofResult] using not_fails_pure
  | error cause => simpa [ofResult] using fails_throw_iff

theorem fails_writeCodec_iff {path text : String} {mode : WriteMode} :
    Fails (writeCodec path text mode) scene error ↔
      ∃ fault, (scene.tree.writeCodec path text mode).2 = some fault ∧ error = .file fault := by
  rw [Fails, outcome_writeCodec]
  rcases scene.tree.writeCodec path text mode with ⟨tree, _ | fault⟩ <;> simp [eq_comm]

end Sequences

section Kinds

variable {α β : Type} {kind : RunError → Prop} {run : RunM α}

/-- All errors that the run can end with are of a kind. -/
def FailsOnly (kind : RunError → Prop) (run : RunM α) : Prop :=
  ∀ scene error, Fails run scene error → kind error

theorem FailsOnly.mono {kind' : RunError → Prop} (h : FailsOnly kind run)
    (hkind : ∀ error, kind error → kind' error) : FailsOnly kind' run :=
  fun scene error hfails => hkind error (h scene error hfails)

theorem FailsOnly.bind_of_yields (h : FailsOnly kind run) {next : α → RunM β}
    (hnext : ∀ first scene between, Yields run scene first between →
      FailsOnly kind (next first)) : FailsOnly kind (run >>= next) := by
  intro scene error hfails
  rcases fails_bind_iff.mp hfails with hrun | ⟨first, between, hfirst, hrest⟩
  · exact h _ _ hrun
  · exact hnext first _ _ hfirst _ _ hrest

theorem FailsOnly.bind (h : FailsOnly kind run) {next : α → RunM β}
    (hnext : ∀ first, FailsOnly kind (next first)) : FailsOnly kind (run >>= next) :=
  h.bind_of_yields fun first _ _ _ => hnext first

theorem failsOnly_pure (value : α) : FailsOnly kind (pure value) :=
  fun _ _ hfails => absurd hfails not_fails_pure

theorem failsOnly_log (level : LogLevel) (message : String) (fields : List (String × String)) :
    FailsOnly kind (log level message fields) :=
  fun _ _ hfails => absurd hfails not_fails_log

theorem failsOnly_tree : FailsOnly kind RunM.tree :=
  fun _ _ hfails => absurd hfails not_fails_tree

theorem failsOnly_ofResult {ε : Type} {wrap : ε → RunError} {result : Except ε α}
    (h : ∀ cause, result = .error cause → kind (wrap cause)) :
    FailsOnly kind (ofResult wrap result) := by
  intro scene error hfails
  obtain ⟨cause, hcause, rfl⟩ := fails_ofResult_iff.mp hfails
  exact h cause hcause

theorem failsOnly_writeCodec (path text : String) (mode : WriteMode) :
    FailsOnly RunError.IsFile (writeCodec path text mode) := by
  intro scene error hfails
  obtain ⟨fault, -, herror⟩ := fails_writeCodec_iff.mp hfails
  exact ⟨fault, herror⟩

theorem failsOnly_mapM {step : α → RunM β} {items : List α}
    (h : ∀ item ∈ items, FailsOnly kind (step item)) : FailsOnly kind (items.mapM step) := by
  induction items with
  | nil =>
    rw [List.mapM_nil]
    exact failsOnly_pure []
  | cons item items ih =>
    rw [List.mapM_cons]
    refine (h item List.mem_cons_self).bind fun first => ?_
    refine (ih fun other hother => h other (List.mem_cons_of_mem item hother)).bind fun rest => ?_
    exact failsOnly_pure _

end Kinds

section Changes

variable {α β : Type} {run : RunM α}

/-- The run leaves the tree as it is, however it ends. -/
def KeepsTree (run : RunM α) : Prop := ∀ scene, (outcome run scene).2.tree = scene.tree

/-- A failure for another reason than a file operation leaves the tree as it is. -/
def FailsCleanly (run : RunM α) : Prop :=
  ∀ scene error, Fails run scene error →
    error.IsFile ∨ (outcome run scene).2.tree = scene.tree

theorem KeepsTree.bind (h : KeepsTree run) {next : α → RunM β}
    (hnext : ∀ first, KeepsTree (next first)) : KeepsTree (run >>= next) := by
  intro scene
  have hrun := h scene
  rw [outcome_bind]
  cases hresult : outcome run scene with
  | mk result between =>
    rw [hresult] at hrun
    cases result with
    | error error => exact hrun
    | ok first => exact (hnext first between).trans hrun

theorem keepsTree_log (level : LogLevel) (message : String) (fields : List (String × String)) :
    KeepsTree (log level message fields) := fun _ => rfl

theorem keepsTree_tree : KeepsTree RunM.tree := fun _ => rfl

theorem keepsTree_ofResult {ε : Type} (wrap : ε → RunError) (result : Except ε α) :
    KeepsTree (ofResult wrap result) := by
  cases result <;> exact fun _ => rfl

theorem FailsOnly.failsCleanly (h : FailsOnly RunError.IsFile run) : FailsCleanly run :=
  fun scene error hfails => .inl (h scene error hfails)

/-- What leaves the tree as it is may come first. -/
theorem KeepsTree.bind_failsCleanly (h : KeepsTree run) {next : α → RunM β}
    (hnext : ∀ first scene between, Yields run scene first between → FailsCleanly (next first)) :
    FailsCleanly (run >>= next) := by
  intro scene error hfails
  have hrun := h scene
  rw [Fails, outcome_bind] at hfails
  rw [outcome_bind]
  cases hresult : outcome run scene with
  | mk result between =>
    rw [hresult] at hrun hfails
    cases result with
    | error other => exact .inr hrun
    | ok first =>
      rw [← hrun]
      exact hnext first scene between hresult between error hfails

end Changes

end RunM

open RunM

namespace MethodFiles

/-- The templates for the files of methods. -/
def templates : MethodFiles → List Template
  | consolidated _ _ => [.methodHeader, .methodSource]
  | perMethod _ => [.methodCodec]

end MethodFiles

namespace CustomFiles

/-- The templates for the files of custom types. -/
def templates : CustomFiles → List Template
  | pair _ _ _ => [.customHeader, .customSource]
  | single _ => [.customCodec]

end CustomFiles

namespace Emitter

/-- The engine has a text, or names an unmapped type, whatever the emitter asks it for. -/
structure HasTemplates (emitter : Emitter) : Prop where
  methods : ∀ template ∈ emitter.methodFiles.templates, ∀ service method,
    ∃ rendering, emitter.engine template (.method service method) = .ok rendering
  customs : ∀ template ∈ emitter.customFiles.templates, ∀ type,
    ∃ rendering, emitter.engine template (.customType type) = .ok rendering

variable {emitter : Emitter} {kind : RunError → Prop}

section Steps

theorem failsOnly_emitEach {α : Type} {emit : α → RunM Report} {items : List α}
    (h : ∀ item ∈ items, FailsOnly kind (emit item)) : FailsOnly kind (emitEach emit items) := by
  induction items with
  | nil => exact failsOnly_pure _
  | cons item items ih =>
    refine (h item List.mem_cons_self).bind fun first => ?_
    refine (ih fun other hother => h other (List.mem_cons_of_mem item hother)).bind fun rest => ?_
    exact failsOnly_pure _

theorem failsOnly_render {template : Template} {subject : Subject}
    (h : ∃ rendering, emitter.engine template subject = .ok rendering) :
    FailsOnly kind (emitter.render template subject) := by
  obtain ⟨rendering, hrendering⟩ := h
  refine failsOnly_ofResult fun cause hcause => ?_
  rw [hrendering] at hcause
  cases hcause

theorem failsOnly_skip (artifact typeName : String) : FailsOnly kind (skip artifact typeName) :=
  (failsOnly_log _ _ _).bind fun _ => failsOnly_pure _

theorem failsOnly_emitSingle {template : Template} {subject : Subject}
    (h : ∃ rendering, emitter.engine template subject = .ok rendering) (path : String) :
    FailsOnly RunError.IsFile (emitter.emitSingle template subject path) := by
  refine (failsOnly_render h).bind fun rendering => ?_
  cases rendering with
  | rendered text => exact (failsOnly_writeCodec path text .create).bind fun _ => failsOnly_pure _
  | unmapped typeName => exact failsOnly_skip _ typeName

theorem failsOnly_emitPair {header source : Template} {subject : Subject}
    (hheader : ∃ rendering, emitter.engine header subject = .ok rendering)
    (hsource : ∃ rendering, emitter.engine source subject = .ok rendering)
    {write : (header source : String) → RunM (List String)}
    (hwrite : ∀ headerText sourceText, FailsOnly kind (write headerText sourceText)) :
    FailsOnly kind (emitter.emitPair header source subject write) := by
  refine (failsOnly_render hheader).bind fun first => ?_
  refine (failsOnly_render hsource).bind fun second => ?_
  match first, second with
  | .rendered headerText, .rendered sourceText =>
    exact (hwrite headerText sourceText).bind fun _ => failsOnly_pure _
  | .unmapped typeName, _ => exact failsOnly_skip _ typeName
  | .rendered _, .unmapped typeName => exact failsOnly_skip _ typeName

/-- Two writes after each other. -/
theorem failsOnly_writeBoth {α : Type} (path text path' text' : String) (mode mode' : WriteMode)
    (value : α) : FailsOnly RunError.IsFile (do
      writeCodec path text mode
      writeCodec path' text' mode'
      return value) :=
  (failsOnly_writeCodec path text mode).bind fun _ =>
    (failsOnly_writeCodec path' text' mode').bind fun _ => failsOnly_pure value

theorem failsOnly_emitMethods (services : List Service) {emit : Service → Method → RunM Report}
    (hemit : ∀ service method, FailsOnly kind (emit service method)) :
    FailsOnly kind (emitter.emitMethods services emit) := by
  refine failsOnly_emitEach fun service _ => ?_
  split
  · exact (failsOnly_log _ _ _).bind fun _ => failsOnly_pure _
  · exact failsOnly_emitEach fun method _ => hemit service method

end Steps

section Emissions

variable (h : emitter.HasTemplates) (services : List Service) (directory : String)
include h

/-- The engine is asked only for the templates of the files at hand. -/
theorem failsOnly_emitCodecs :
    FailsOnly RunError.IsFile (emitter.emitCodecs services directory) := by
  have hmethods := h.methods
  rw [emitCodecs]
  cases hfiles : emitter.methodFiles with
  | consolidated header source =>
    rw [hfiles] at hmethods
    refine (failsOnly_writeCodec _ _ _).bind fun _ => (failsOnly_writeCodec _ _ _).bind fun _ => ?_
    refine (failsOnly_emitMethods services fun service method => ?_).bind fun report => ?_
    · exact failsOnly_emitPair (hmethods _ (.head _) _ _) (hmethods _ (.tail _ (.head _)) _ _)
        fun headerText sourceText => failsOnly_writeBoth _ _ _ _ _ _ _
    · exact failsOnly_writeBoth _ _ _ _ _ _ _
  | perMethod extension =>
    rw [hfiles] at hmethods
    exact failsOnly_emitMethods services fun service method =>
      failsOnly_emitSingle (hmethods _ (.head _) _ _) _

theorem failsOnly_emitCustomCodecs :
    FailsOnly RunError.IsFile (emitter.emitCustomCodecs services directory) := by
  have hcustoms := h.customs
  refine failsOnly_emitEach fun type _ => ?_
  rw [emitCustomCodec]
  cases hfiles : emitter.customFiles with
  | pair suffix headerExtension sourceExtension =>
    rw [hfiles] at hcustoms
    exact failsOnly_emitPair (hcustoms _ (.head _) _) (hcustoms _ (.tail _ (.head _)) _)
      fun headerText sourceText => failsOnly_writeBoth _ _ _ _ _ _ _
  | single extension =>
    rw [hfiles] at hcustoms
    exact failsOnly_emitSingle (hcustoms _ (.head _) _) _

end Emissions

end Emitter

end WireCodecs
