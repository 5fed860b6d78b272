import StaticPages.Command.Host
import StaticPages.Markdown.Html
import StaticPages.Template.Render

namespace StaticPages

/-- The options of the Markdown reader, as configured or by default. -/
def MarkdownConfig.options (c : MarkdownConfig) : Markdown.Options where
  html := c.html.getD true
  linkify := c.linkify.getD false
  typographer := c.typographer.getD false
  taskLists := c.taskLists.getD true

def MarkdownConfig.renderer (c : MarkdownConfig) : Renderer :=
  fun source => .ok (Markdown.render c.options source)

namespace Command

def renderHelp : String :=
  "pagewright render <file.md...> --template <file.html> [options]

Render Markdown documents into an HTML template.

Options:
  --template <file>     HTML template (default: render.template from config)
  --out <dir>           Output directory (default: render.outDir, or the current directory)
  --stdout              Print the HTML instead of writing a file (one input only)
  --precedence <side>   metadata (default) or derived: which wins for title/content
  --json                JSON output
"

/-- How a command was called: its words after the name, its flags, and whether
    JSON is asked for. -/
structure Call where
  words : List String
  flags : Flags
  json : Bool

/-- A document that is rendered, and the file that holds it if one was written. -/
structure RenderedPage where
  input : String
  output : Option Path
  placeholders : Nat
  html : String
  deriving DecidableEq, Repr

/-- What the `render` command is to do with every input. -/
structure RenderPlan where
  template : String
  precedence : Precedence
  toStdout : Bool
  outDir : Path

/-- The precedence that a flag asks for. -/
def choosePrecedence (given : Option String) (fallback : Precedence) :
    Except UsageProblem Precedence :=
  match given with
  | none => .ok fallback
  | some word =>
    match Precedence.ofName? word with
    | some precedence => .ok precedence
    | none => .error (.badPrecedence word)

/-- Flags win over the settings. -/
def RenderPlan.make (call : Call) (settings : RenderConfig) (directory : Path) :
    Except UsageProblem RenderPlan :=
  if call.words.isEmpty then .error .noInput
  else
    let template := ((call.flags.first? "template").or settings.template).getD ""
    let toStdout := call.flags.has "stdout"
    if template.isEmpty then .error .noTemplate
    else if toStdout && 1 < call.words.length then .error (.manyInputs call.words)
    else
      match choosePrecedence (call.flags.first? "precedence")
          (settings.precedence.getD .metadata) with
      | .error problem => .error problem
      | .ok precedence =>
        let outDir := ((call.flags.first? "out").or settings.outDir).getD "."
        .ok { template, precedence, toStdout, outDir := directory.resolve outDir }

/-- The file for the page of an input: the input's name with another extension. -/
def RenderPlan.output (plan : RenderPlan) (input : String) : Path :=
  plan.outDir.child (Path.stem (Path.baseName input) ++ ".html")

variable {m : Type → Type} [Monad m] [FileAccess m] [Console m] [Journal m]

/-- Renders one source, and notes an error in it before stopping. -/
def renderSource (plan : RenderPlan) (renderer : Renderer) (template input source : String) :
    Action m Page :=
  match Document.render renderer plan.precedence source template with
  | .ok page => pure page
  | .error (.foreign message) => stop (.foreign message)
  | .error (.render e) => do
    record (.rendering
      { failed := true, input, template := plan.template, message := some e.message })
    stop (.page input e)

/-- Renders one input and writes its page, unless it is to be printed. -/
def renderInput (plan : RenderPlan) (renderer : Renderer) (directory : Path)
    (template input : String) : Action m RenderedPage := do
  let source ← readText (directory.resolve input)
  let page ← renderSource plan renderer template input source
  let output := if plan.toStdout then none else some (plan.output input)
  match output with
  | some path => writeText path page.html
  | none => pure ()
  record (.rendering
    { failed := false, input, template := plan.template, output := output.map Path.toText,
      placeholders := some page.placeholders.length })
  pure ⟨input, output, page.placeholders.length, page.html⟩

def renderInputs (plan : RenderPlan) (renderer : Renderer) (directory : Path)
    (template : String) : List String → Action m (List RenderedPage)
  | [] => pure []
  | input :: rest => do
    let page ← renderInput plan renderer directory template input
    let pages ← renderInputs plan renderer directory template rest
    pure (page :: pages)

/-- The line that tells of a written page. -/
def RenderedPage.summary (page : RenderedPage) (directory : Path) : String :=
  let target :=
    match page.output with
    | some path => path.relativeTo directory
    | none => "-"
  "Rendered " ++ page.input ++ " -> " ++ target ++ " (" ++ Nat.repr page.placeholders ++
    " placeholders)"

def RenderedPage.toJson (page : RenderedPage) : Json :=
  .object [("input", .string page.input),
    ("output", page.output.elim .null fun path => .string path.toText),
    ("placeholders", .nat page.placeholders)]

/-- Prints the only page. -/
def printPage (json : Bool) (pages : List RenderedPage) : Action m Unit :=
  match pages with
  | [] => pure ()
  | page :: _ =>
    if json then printJson (.object [("input", .string page.input), ("html", .string page.html)])
    else print page.html

/-- Prints what was written where. -/
def printSummaries (json : Bool) (directory : Path) (pages : List RenderedPage) :
    Action m Unit :=
  if json then printJson (.object [("rendered", .array (pages.map RenderedPage.toJson))])
  else pages.forM fun page => printMessage false (page.summary directory)

/-- The `render` command. -/
def render (settings : Settings) (directory : Path) (call : Call) :
    Action m (List RenderedPage) := do
  if call.flags.has "help" then
    printMessage call.json renderHelp
    pure []
  else
    match RenderPlan.make call settings.render directory with
    | .error problem => stop (.usage problem)
    | .ok plan =>
      let template ← readText (directory.resolve plan.template)
      let pages ← renderInputs plan settings.markdown.renderer directory template call.words
      if plan.toStdout then printPage call.json pages
      else printSummaries call.json directory pages
      pure pages

end Command

end StaticPages
