import StaticPages.Command.Render
import StaticPages.Filter.Printer

namespace StaticPages.Command

def inspectHelp : String :=
  "pagewright inspect <target> <file>

Show what pagewright parses out of a file.

Targets:
  template <file.html>  List placeholders in document order
  markdown <file.md>    Show metadata, title and body size

Options:
  --json                JSON output
"

/-- A text with spaces after it up to a width. -/
def padEnd (width : Nat) (text : String) : String :=
  text ++ String.ofList (List.replicate (width - text.length) ' ')

def placeholderJson (p : Placeholder) : Json :=
  .object [("name", .string p.name), ("line", .nat p.selection.start.line),
    ("start", .nat p.selection.start.offset), ("end", .nat p.selection.stop.offset),
    ("filters", .strings (p.filters.map Filter.print))]

/-- Where a placeholder is, and the placeholder without its braces. -/
def placeholderLine (p : Placeholder) : String :=
  let place := Nat.repr p.selection.start.line ++ ":" ++ Nat.repr p.selection.start.offset ++
    "-" ++ Nat.repr p.selection.stop.offset
  padEnd 14 place ++ " " ++
    " | ".intercalate ((Token.sigil ++ p.name) :: p.filters.map Filter.print)

def entryJson (e : Entry) : Json :=
  .object [("key", .string e.key), ("value", .string e.value)]

def documentJson (file : String) (d : Document) : Json :=
  .object [("markdown", .string file), ("meta", .array (d.metadata.map entryJson)),
    ("title", d.title.elim .null .string), ("bodyLength", .nat (Text.size d.body.toList))]

/-- The parts of a document, one to a line. -/
def documentText (d : Document) : String :=
  let entries := d.metadata.map fun e => "  " ++ e.key ++ " = " ++ Json.quote e.value
  "\n".intercalate (("Title: " ++ d.title.getD "(from metadata)") ::
    (if entries.isEmpty then [] else "Metadata:" :: entries) ++
    ["Body: " ++ Nat.repr (Text.size d.body.toList) ++ " characters"])

variable {m : Type → Type} [Monad m] [FileAccess m] [Console m]

def inspectTemplate (json : Bool) (path : Path) (file : String) : Action m Unit := do
  let template ← readText path
  match Placeholder.locate (Cursor.ofString template) with
  | .error e => stop (.render e)
  | .ok found =>
    let placeholders := found.reverse
    if json then
      printJson (.object [("template", .string file),
        ("placeholders", .array (placeholders.map placeholderJson))])
    else if placeholders.isEmpty then printMessage false "No placeholders found."
    else placeholders.forM fun p => printMessage false (placeholderLine p)

def inspectMarkdown (json : Bool) (path : Path) (file : String) : Action m Unit := do
  let source ← readText path
  match Document.parse source with
  | .error e => stop (.render e)
  | .ok document =>
    if json then printJson (documentJson file document)
    else printMessage false (documentText document)

/-- The `inspect` command. -/
def inspect (directory : Path) (call : Call) : Action m Unit :=
  let target := call.words.headD ""
  let file := call.words.tail.headD ""
  if call.flags.has "help" || target.isEmpty then printMessage call.json inspectHelp
  else if file.isEmpty then stop (.usage (.noInspectedFile target))
  else
    let path := directory.resolve file
    match target with
    | "template" => inspectTemplate call.json path file
    | "markdown" => inspectMarkdown call.json path file
    | target => stop (.usage (.unknownTarget target))

end StaticPages.Command
