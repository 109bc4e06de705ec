import WireCodecs.Run.Basic
import WireCodecs.Proofs.Files.History

/-! Runs that succeed. A sequence of steps succeeds exactly if each step succeeds in the scene that
the steps before it leave. Only writing a codec file changes the tree. -/

namespace WireCodecs.RunM

section Sequences

variable {α β : Type} {scene after : Scene}

/-- How a run ends, and in which scene. -/
def outcome (run : RunM α) (scene : Scene) : Except RunError α × Scene :=
  StateT.run (ExceptT.run run) scene

/-- The run ends with the value, in the scene `after`. -/
def Yields (run : RunM α) (scene : Scene) (value : α) (after : Scene) : Prop :=
  outcome run scene = (.ok value, after)

theorem outcome_bind (run : RunM α) (next : α → RunM β) (scene : Scene) :
    outcome (run >>= next) scene =
      match outcome run scene with
      | (.ok first, between) => outcome (next first) between
      | (.error error, between) => (.error error, between) := by
  unfold outcome ExceptT.run StateT.run
  simp only [bind, ExceptT.bind, ExceptT.mk, StateT.bind, ExceptT.bindCont]
  rcases run scene with ⟨error | first, between⟩ <;> rfl

theorem start_eq_ok_iff {run : RunM α} {tree : FileTree} {value : α} :
    run.start tree = (.ok value, after) ↔ Yields run ⟨tree, []⟩ value after := Iff.rfl

theorem start_of_toOption {run : RunM α} {tree : FileTree} {value : α}
    (h : (run.start tree).1.toOption = some value) :
    run.start tree = (.ok value, (run.start tree).2) :=
  Prod.ext (eq_ok_of_toOption h) rfl

theorem yields_pure_iff {value value' : α} :
    Yields (pure value) scene value' after ↔ value' = value ∧ after = scene := by
  change ((Except.ok value, scene) : Except RunError α × Scene) = (.ok value', after) ↔ _
  simp [eq_comm]

theorem not_yields_throw {error : RunError} {value : α} :
    ¬ Yields (throw error) scene value after := by
  change ((Except.error error, scene) : Except RunError α × Scene) ≠ (.ok value, after)
  simp

theorem yields_bind_iff {run : RunM α} {next : α → RunM β} {value : β} :
    Yields (run >>= next) scene value after ↔
      ∃ first between, Yields run scene first between ∧
        Yields (next first) between value after := by
  simp only [Yields, outcome_bind]
  rcases outcome run scene with ⟨error | first, between⟩ <;> simp

end Sequences

section Steps

variable {α : Type} {scene after : Scene}

theorem yields_modify_iff {change : Scene → Scene} {value : Unit} :
    Yields (modify change) scene value after ↔ after = change scene := by
  change ((Except.ok (), change scene) : Except RunError Unit × Scene) = (.ok value, after) ↔ _
  simp [eq_comm]

theorem yields_log_iff {level : LogLevel} {message : String} {fields : List (String × String)}
    {value : Unit} : Yields (log level message fields) scene value after ↔
      after = ⟨scene.tree, scene.log ++ [⟨level, message, fields⟩]⟩ :=
  yields_modify_iff

theorem yields_log {level : LogLevel} {message : String} {fields : List (String × String)}
    {value : Unit} (h : Yields (log level message fields) scene value after) :
    after.tree = scene.tree := by
  rw [yields_log_iff.mp h]

theorem yields_tree_iff {tree : FileTree} :
    Yields RunM.tree scene tree after ↔ tree = scene.tree ∧ after = scene := by
  change ((Except.ok scene.tree, scene) : Except RunError FileTree × Scene) = (.ok tree, after) ↔ _
  simp [eq_comm]

theorem yields_ofResult_iff {ε : Type} {wrap : ε → RunError} {result : Except ε α} {value : α} :
    Yields (ofResult wrap result) scene value after ↔ result = .ok value ∧ after = scene := by
  cases result with
  | error error =>
    change ((Except.error (wrap error), scene) : Except RunError α × Scene) = (.ok value, after) ↔ _
    simp
  | ok found =>
    rw [ofResult, yields_pure_iff, Except.ok.injEq, eq_comm]

theorem outcome_writeCodec (path text : String) (mode : WriteMode) (scene : Scene) :
    outcome (writeCodec path text mode) scene =
      match scene.tree.writeCodec path text mode with
      | (tree, none) => (.ok (), { scene with tree := tree })
      | (tree, some error) => (.error (.file error), { scene with tree := tree }) := by
  have hget : outcome (get : RunM Scene) scene = (.ok scene, scene) := rfl
  rw [writeCodec, outcome_bind, hget]
  simp only [FileTree.writeSealed]
  rcases scene.tree.writeCodec path text mode with ⟨tree, _ | error⟩ <;> rfl

theorem yields_writeCodec_iff {path text : String} {mode : WriteMode} {value : Unit} :
    Yields (writeCodec path text mode) scene value after ↔
      scene.tree.writeCodec path text mode = (after.tree, none) ∧ after.log = scene.log := by
  rw [Yields, outcome_writeCodec]
  rcases scene.tree.writeCodec path text mode with ⟨tree, _ | error⟩
  · obtain ⟨after, log⟩ := after
    simp [eq_comm]
  · simp

end Steps

end WireCodecs.RunM
