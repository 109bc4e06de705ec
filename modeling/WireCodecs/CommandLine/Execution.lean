import WireCodecs.CommandLine

/-! Executing a command line on the files of a working directory: the exit status, what is printed,
and the files that it leaves. -/

namespace WireCodecs

namespace Configuration

def load (tree : FileTree) (path : String) : Except RunError Configuration :=
  match tree.readText path with
  | .error fault => .error (.file ⟨path, fault⟩)
  | .ok text =>
    match ofText? text with
    | some configuration => .ok configuration
    | none => .error (.yaml path)

end Configuration

namespace RunSummary

/-- The text with blanks behind it, to at least `width` characters. -/
def padded (width : Nat) (text : String) : String :=
  text ++ String.ofList (List.replicate (width - text.length) ' ')

def skippedLine (skipped : Skipped) : String :=
  "  skipped " ++ skipped.artifact ++ " (no mapping for '" ++ skipped.typeName ++ "')"

def languageLines (summary : LanguageSummary) : List String :=
  ("✓ " ++ padded 5 summary.language.name ++ " " ++ toString summary.standard.rendered.length ++
    " codecs, " ++ toString summary.custom.rendered.length ++ " custom codecs") ::
    (summary.standard.skipped ++ summary.custom.skipped).map skippedLine

/-- What is printed after a run. -/
def lines (summary : RunSummary) (output : String) : List String :=
  summary.languages.flatMap languageLines ++
    [toString summary.filesWritten ++ " files from " ++ toString summary.services ++
      " services written under " ++ output]

end RunSummary

namespace LogEvent

def levelName : LogLevel → String
  | .info => "INFO"
  | .warning => "WARN"
  | .error => "ERROR"

/-- Warnings and errors are always shown, other events on request. -/
def isShown (verbosity : Nat) (event : LogEvent) : Bool := event.level != .info || verbosity != 0

def text (event : LogEvent) : String :=
  levelName event.level ++ " " ++ event.message ++
    String.join (event.fields.map fun (name, value) => " " ++ name ++ "=" ++ value)

def toJson (event : LogEvent) : Json :=
  .ofEntries [
    ("level", .string (levelName event.level)),
    ("fields", .ofEntries
      (("message", .string event.message) ::
        event.fields.map fun (name, value) => (name, .string value)))]

def line (isJson : Bool) (event : LogEvent) : String :=
  if isJson then event.toJson.render else event.text

end LogEvent

/-- What a command comes to. -/
structure Outcome where
  status : UInt8
  /-- The lines for the standard output. -/
  printed : List String
  /-- The lines for the standard error output. -/
  complaints : List String
  tree : FileTree

namespace Command

def statusOfError : UInt8 := 1

def statusOfMisuse : UInt8 := 2

/-- Reads the configuration and runs. -/
def run (command : Command) : RunM RunSummary := do
  let configuration ←
    match command.configuration with
    | some path => RunM.ofResult id (Configuration.load (← RunM.tree) path)
    | none => pure .standard
  Run.run (.draft7 .none) configuration .builtin command.options

/-- The log as it is shown. -/
def logLines (command : Command) (log : List LogEvent) : List String :=
  (log.filter (·.isShown command.verbosity)).map (·.line command.jsonLogs)

def execute (arguments : List String) (tree : FileTree) : Outcome :=
  match parse? arguments with
  | none => ⟨statusOfMisuse, [], ["error: invalid command line"], tree⟩
  | some command =>
    let (result, scene) := (run command).start tree
    let log := command.logLines scene.log
    match result with
    | .ok summary => ⟨0, summary.lines command.options.output, log, scene.tree⟩
    | .error error => ⟨statusOfError, [], log ++ ["error: " ++ error.message], scene.tree⟩

end Command

end WireCodecs
