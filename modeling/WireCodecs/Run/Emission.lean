import WireCodecs.Boilerplate
import WireCodecs.Run.Basic
import WireCodecs.Run.Report

/-! Emission: rendering the codecs of services for one language and writing them to files. An
artifact with a type that has no mapping is left out of its files and reported; only a failing
engine or file operation ends an emission. -/

namespace WireCodecs

/-- What emission for one language works with. -/
structure Emitter where
  language : Language
  methodFiles : MethodFiles
  customFiles : CustomFiles
  engine : Engine
  /-- The ids of the services whose methods get no codecs. -/
  ignored : List UInt8
  boilerplate : Boilerplate

namespace Emitter

/-- The reports of emitting each item, put together. -/
def emitEach {α : Type} (emit : α → RunM Report) : List α → RunM Report
  | [] => return .empty
  | item :: items => do
    let first ← emit item
    let rest ← emitEach emit items
    return first.merge rest

def render (emitter : Emitter) (template : Template) (subject : Subject) : RunM Rendering :=
  RunM.ofResult .render (emitter.engine template subject)

def skip (artifact typeName : String) : RunM Report := do
  RunM.log .warning ("[" ++ artifact ++ "] contains missing type mapping '" ++ typeName ++
    "'. Skipping codec generation.") []
  return .skip artifact typeName

/-- Renders a header and a source text and writes them, both or neither. The type that the header
misses is reported before one that the source misses. -/
def emitPair (emitter : Emitter) (header source : Template) (subject : Subject)
    (write : (header source : String) → RunM (List String)) : RunM Report := do
  match ← emitter.render header subject, ← emitter.render source subject with
  | .rendered header, .rendered source =>
    let written ← write header source
    return ⟨written, [subject.artifact], []⟩
  | .unmapped typeName, _ | _, .unmapped typeName => skip subject.artifact typeName

/-- Renders a text and writes it. -/
def emitSingle (emitter : Emitter) (template : Template) (subject : Subject) (path : String) :
    RunM Report := do
  match ← emitter.render template subject with
  | .rendered text =>
    RunM.writeCodec path text .create
    return ⟨[path], [subject.artifact], []⟩
  | .unmapped typeName => skip subject.artifact typeName

section Methods

/-- Emits the methods of the services that are not ignored. -/
def emitMethods (emitter : Emitter) (services : List Service)
    (emit : Service → Method → RunM Report) : RunM Report :=
  emitEach
    (fun service => do
      if emitter.ignored.contains service.id then
        RunM.log .info "service is on the ignore list; skipping its codecs"
          [("language", emitter.language.name), ("service", service.name),
            ("id", toString service.id.toNat)]
        return .empty
      else emitEach (emit service) service.methods)
    services

/-- Emits all codecs into one header and one source file. -/
def emitConsolidated (emitter : Emitter) (services : List Service) (header source : String) :
    RunM Report := do
  RunM.writeCodec header emitter.boilerplate.headerStart .create
  RunM.writeCodec source emitter.boilerplate.sourceStart .create
  let report ← emitter.emitMethods services fun service method =>
    emitter.emitPair .methodHeader .methodSource (.method service.name method)
      fun headerText sourceText => do
        RunM.writeCodec header headerText .append
        RunM.writeCodec source sourceText .append
        return []
  RunM.writeCodec header emitter.boilerplate.footer .append
  RunM.writeCodec source emitter.boilerplate.footer .append
  return Report.merge ⟨[header, source], [], []⟩ report

/-- The name of a method's codec, which its file is named after. -/
def methodStem (service : Service) (method : Method) : String :=
  Naming.capital service.name ++ Naming.capital method.name ++ "Codec"

/-- Emits the method codecs into a directory. -/
def emitCodecs (emitter : Emitter) (services : List Service) (directory : String) : RunM Report :=
  match emitter.methodFiles with
  | .consolidated header source =>
    emitter.emitConsolidated services (Path.join directory header) (Path.join directory source)
  | .perMethod extension =>
    emitter.emitMethods services fun service method =>
      emitter.emitSingle .methodCodec (.method service.name method)
        (Path.join directory (methodStem service method ++ "." ++ extension))

end Methods

section CustomTypes

def emitCustomCodec (emitter : Emitter) (directory : String) (type : CustomType) : RunM Report :=
  match emitter.customFiles with
  | .pair suffix headerExtension sourceExtension =>
    let stem := Text.lowercase type.name ++ suffix
    let header := Path.join directory (stem ++ "." ++ headerExtension)
    let source := Path.join directory (stem ++ "." ++ sourceExtension)
    emitter.emitPair .customHeader .customSource (.customType type)
      fun headerText sourceText => do
        RunM.writeCodec header headerText .create
        RunM.writeCodec source sourceText .create
        return [header, source]
  | .single extension =>
    emitter.emitSingle .customCodec (.customType type)
      (Path.join directory (Naming.capital type.name ++ "Codec." ++ extension))

/-- Emits the codecs of the custom types of all services, ignored ones included. -/
def emitCustomCodecs (emitter : Emitter) (services : List Service) (directory : String) :
    RunM Report :=
  emitEach (emitter.emitCustomCodec directory) (services.flatMap (·.customTypes))

end CustomTypes

end Emitter

end WireCodecs
