import StaticPages.Config.Reader
import StaticPages.Files.Access
import StaticPages.Filter.Apply

namespace StaticPages.Command

/-- The class of a failed command, for programs that read its report. -/
inductive Code where
  | usage
  | io
  | config
  | render
  | internal
  deriving DecidableEq, Repr

namespace Code

def all : List Code := [usage, io, config, render, internal]

def text : Code → String
  | usage => "PAGEWRIGHT_ERR_USAGE"
  | io => "PAGEWRIGHT_ERR_IO"
  | config => "PAGEWRIGHT_ERR_CONFIG"
  | render => "PAGEWRIGHT_ERR_RENDER"
  | internal => "PAGEWRIGHT_ERR_INTERNAL"

def ofText? (text : String) : Option Code :=
  all.find? fun code => code.text == text

end Code

/-- A command line that asks for something impossible. -/
inductive UsageProblem where
  | noInput
  | noTemplate
  | manyInputs (inputs : List String)
  | badPrecedence (given : String)
  | noInspectedFile (target : String)
  | unknownTarget (target : String)
  | unknownCommand (command : String)
  deriving DecidableEq, Repr

namespace UsageProblem

def message : UsageProblem → String
  | noInput => "Usage: pagewright render <file.md...> --template <file.html>"
  | noTemplate => "--template is required (or set render.template in config)"
  | manyInputs _ => "--stdout takes a single input file"
  | badPrecedence _ =>
    "--precedence must be one of: " ++ ", ".intercalate (Precedence.all.map Precedence.name)
  | noInspectedFile target => "Usage: pagewright inspect " ++ target ++ " <file>"
  | unknownTarget target => "Unknown inspect target: " ++ target
  | unknownCommand command => "Unknown command: " ++ command ++ ". Run pagewright --help."

def details : UsageProblem → List (String × Json)
  | manyInputs inputs => [("inputs", .strings inputs)]
  | badPrecedence given => [("precedence", .string given)]
  | unknownTarget target => [("target", .string target)]
  | unknownCommand command => [("command", .string command)]
  | _ => []

end UsageProblem

/-- What a failed command tells. -/
structure Report where
  code : Code
  message : String
  details : List (String × Json)
  exitCode : Int

/-- What stops a command. A command that takes several documents reports an error
    in one of them with its file. -/
inductive Fault where
  | usage (problem : UsageProblem)
  | page (input : String) (error : RenderError)
  | reported (report : Report)
  | render (error : RenderError)
  | config (error : ConfigError)
  | file (error : FileError)
  | foreign (message : String)

/-- The kind and the place of an error, as far as the place is known. -/
def renderDetails (e : RenderError) : List (String × Json) :=
  ("kind", .string e.kind.name) ::
    match e.position with
    | none => []
    | some p => [("line", .nat p.line), ("offset", .nat p.offset)]

namespace Fault

def message : Fault → String
  | usage problem => problem.message
  | page input e => input ++ ": " ++ e.message
  | reported r => r.message
  | render e => e.message
  | config e => e.message
  | file e => e.message
  | foreign message => message

def code : Fault → Code
  | usage _ => .usage
  | page _ _ => .render
  | reported r => r.code
  | render _ => .render
  | config _ => .config
  | file _ => .io
  | foreign _ => .internal

def details : Fault → List (String × Json)
  | usage problem => problem.details
  | page input e => ("file", .string input) :: renderDetails e
  | reported r => r.details
  | render e => renderDetails e
  | config e => [("path", .string e.path)]
  | file e =>
    ("errno", .string e.code) ::
      match e.path with
      | none => []
      | some path => [("path", .string path)]
  | foreign _ => []

def exitCode : Fault → Int
  | reported r => r.exitCode
  | _ => 1

def report (f : Fault) : Report :=
  ⟨f.code, f.message, f.details, f.exitCode⟩

/-- Whether the command itself reports the fault, so that it has a code at once. -/
def isOwn : Fault → Bool
  | usage _ => true
  | page _ _ => true
  | reported _ => true
  | _ => false

end Fault

end StaticPages.Command
