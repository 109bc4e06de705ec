import WireCodecs.Run.Error

/-! The setting of a run: the files it works on and the log it keeps. A run that fails keeps both as
they are at the point of failure. -/

namespace WireCodecs

inductive LogLevel where
  | info
  | warning
  | error
  deriving DecidableEq, Repr

structure LogEvent where
  level : LogLevel
  message : String
  fields : List (String × String)
  deriving DecidableEq, Repr

structure Scene where
  tree : FileTree
  /-- The events so far, in order. -/
  log : List LogEvent

abbrev RunM := ExceptT RunError (StateM Scene)

namespace RunM

def log (level : LogLevel) (message : String) (fields : List (String × String)) : RunM Unit :=
  modify fun scene => { scene with log := scene.log ++ [⟨level, message, fields⟩] }

def tree : RunM FileTree := (·.tree) <$> get

def ofResult {ε α : Type} (wrap : ε → RunError) : Except ε α → RunM α
  | .ok value => return value
  | .error error => throw (wrap error)

/-- Writes a codec file. The fingerprint is not needed any more then. -/
def writeCodec (path text : String) (mode : WriteMode) : RunM Unit := do
  let scene ← get
  let (tree, outcome) := scene.tree.writeSealed path text mode
  set { scene with tree := tree }
  if let .error error := outcome then throw (.file error)

/-- The result of a run that starts with an empty log. -/
def start {α : Type} (run : RunM α) (tree : FileTree) : Except RunError α × Scene :=
  StateT.run (ExceptT.run run) ⟨tree, []⟩

end RunM

end WireCodecs
