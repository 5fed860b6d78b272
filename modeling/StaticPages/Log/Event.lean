import StaticPages.Arguments
import StaticPages.Json.Basic
import StaticPages.Log.Level

namespace StaticPages

namespace FlagValue

def toJson : FlagValue → Json
  | present => .bool true
  | off => .bool false
  | one value => .string value
  | many values => .strings values

end FlagValue

def Flags.toJson (flags : Flags) : Json :=
  .object (flags.map fun (name, value) => (name, value.toJson))

namespace Log

/-- Where an error arose. -/
structure Context where
  command : Option (List String) := none
  file : Option String := none
  deriving DecidableEq, Repr

def Context.toJson (c : Context) : Json :=
  .present [("command", c.command.map .strings), ("file", c.file.map .string)]

/-- What happened to one document. -/
structure Rendering where
  failed : Bool
  input : String
  template : String
  output : Option String := none
  placeholders : Option Nat := none
  message : Option String := none
  deriving DecidableEq, Repr

/-- What a log tells of a run, apart from durations and traces of calls. -/
inductive Event where
  | command (words arguments : List String) (flags : Flags) (directory : String)
  | result (words : List String) (exitCode : Int) (value : Option Json)
  | rendering (rendering : Rendering)
  | error (code : Option String) (message : String) (context : Option Context)

namespace Event

def typeName : Event → String
  | command .. => "cli.command"
  | result .. => "cli.result"
  | rendering _ => "render.event"
  | error .. => "error"

def level : Event → Level
  | command .. => .info
  | result _ exitCode _ => if exitCode = 0 then .info else .error
  | rendering r => if r.failed then .error else .info
  | error .. => .error

def data : Event → Json
  | command words arguments flags directory =>
    .object [("command", .strings words), ("args", .strings arguments),
      ("flags", flags.toJson), ("cwd", .string directory)]
  | result words exitCode value =>
    .present [("command", some (.strings words)), ("exitCode", some (.int exitCode)),
      ("result", value)]
  | rendering r =>
    .present [("eventType", some (.string (if r.failed then "error" else "render"))),
      ("input", some (.string r.input)), ("template", some (.string r.template)),
      ("output", r.output.map .string), ("placeholders", r.placeholders.map .nat),
      ("message", r.message.map .string)]
  | error code message context =>
    .present [("code", code.map .string), ("message", some (.string message)),
      ("context", context.map Context.toJson)]

end Event

end Log

end StaticPages
