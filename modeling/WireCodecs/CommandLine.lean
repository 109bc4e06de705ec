import WireCodecs.Run

/-! The command line. Options have a long name and, mostly, a letter. A value is behind the option,
after an equals sign or attached to the letter; letters without values can stand together. An option
is given once, except for the target languages and the verbosity. -/

namespace WireCodecs

/-- What a command line asks for. -/
structure Command where
  options : RunOptions
  /-- The configuration file. -/
  configuration : Option String
  verbosity : Nat
  jsonLogs : Bool
  deriving DecidableEq, Repr

namespace Command

inductive Switch where
  | protocolDirectory
  | schema
  | output
  | language
  | configuration
  | verbosity
  | jsonLogs
  deriving DecidableEq, Repr

namespace Switch

def takesValue : Switch → Bool
  | verbosity | jsonLogs => false
  | _ => true

def mayRepeat : Switch → Bool
  | language | verbosity => true
  | _ => false

def ofLetter? : Char → Option Switch
  | 'p' => some protocolDirectory
  | 's' => some schema
  | 'o' => some output
  | 'l' => some language
  | 'c' => some configuration
  | 'v' => some verbosity
  | _ => none

def ofName? : String → Option Switch
  | "protocol-dir" => some protocolDirectory
  | "schema" => some schema
  | "output" => some output
  | "lang" => some language
  | "config" => some configuration
  | "json" => some jsonLogs
  | _ => none

end Switch

/-- A switch with its value, which is empty for a switch that takes none. -/
abbrev Setting := Switch × String

section Arguments

/-- The settings of an argument with letters, and the switch at its end if that has no value yet. -/
def readLetters? : List Char → Option (List Setting × Option Switch)
  | [] => some ([], none)
  | c :: rest => do
    let switch ← Switch.ofLetter? c
    if switch.takesValue then
      match rest with
      | [] => return ([], some switch)
      | '=' :: value => return ([(switch, String.ofList value)], none)
      | value => return ([(switch, String.ofList value)], none)
    else
      let (settings, pending) ← readLetters? rest
      return ((switch, "") :: settings, pending)

/-- The same for an argument with a name, after its two dashes. -/
def readName? (text : List Char) : Option (List Setting × Option Switch) := do
  let switch ← Switch.ofName? (String.ofList (text.takeWhile (· != '=')))
  match text.dropWhile (· != '='), switch.takesValue with
  | [], true => return ([], some switch)
  | [], false => return ([(switch, "")], none)
  | _ :: value, true => return ([(switch, String.ofList value)], none)
  | _ :: _, false => none

/-- An argument, by itself: the settings in it, or else a value. -/
inductive Argument where
  | settings (settings : List Setting) (pending : Option Switch)
  | value (text : String)
  /-- Ends the options. -/
  | terminator

def readArgument? (argument : String) : Option Argument :=
  match argument.toList with
  | ['-', '-'] => some .terminator
  | '-' :: '-' :: name => (readName? name).map fun (settings, pending) => .settings settings pending
  | ['-'] => some (.value argument)
  | '-' :: letters =>
    (readLetters? letters).map fun (settings, pending) => .settings settings pending
  | _ => some (.value argument)

/-- The settings of arguments, of which the first is a value for `pending` if there is one. No other
values are taken, and nothing comes after the end of the options. -/
def readArguments? (pending : Option Switch) : List String → Option (List Setting)
  | [] => if pending.isNone then some [] else none
  | argument :: rest => do
    match ← readArgument? argument, pending with
    | .value text, some switch => return (switch, text) :: (← readArguments? none rest)
    | .settings settings pending, none => return settings ++ (← readArguments? pending rest)
    | .terminator, none => if rest.isEmpty then return [] else none
    | _, _ => none

end Arguments

section Settings

def valuesOf (settings : List Setting) (switch : Switch) : List String :=
  (settings.filter (·.1 = switch)).map (·.2)

/-- Whether all switches that may not be repeated are given at most once. -/
def areSingle (settings : List Setting) : Bool :=
  settings.all fun setting =>
    setting.1.mayRepeat || (valuesOf settings setting.1).length = 1

/-- A path is never empty. -/
def path? (settings : List Setting) (switch : Switch) : Option (Option String) :=
  match (valuesOf settings switch).head? with
  | some "" => none
  | path => some path

def ofSettings? (settings : List Setting) : Option Command := do
  if !areSingle settings then none
  let protocolDirectory ← (← path? settings .protocolDirectory)
  let schema ← path? settings .schema
  let output ← path? settings .output
  let configuration ← path? settings .configuration
  let languages ← (valuesOf settings .language).mapM Language.ofName?
  return {
    options := {
      protocolDirectory := protocolDirectory
      schema := match schema with
        | some path => .file path
        | none => .builtin
      output := output.getD "."
      languages := languages }
    configuration := configuration
    verbosity := (valuesOf settings .verbosity).length
    jsonLogs := !(valuesOf settings .jsonLogs).isEmpty }

end Settings

/-- The command that arguments give, if they are proper ones. -/
def parse? (arguments : List String) : Option Command := do
  ofSettings? (← readArguments? none arguments)

end Command

end WireCodecs
