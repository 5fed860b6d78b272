import StaticPages.Config.Basic
import StaticPages.Json.Parser

namespace StaticPages

/-- What is wrong with a value of a configuration. -/
inductive Issue where
  | wrongType (expected : String) (received : String)
  | wrongWord (allowed : List String) (received : String)
  deriving DecidableEq, Repr

/-- Words to choose from, as messages show them. -/
def Issue.choice (allowed : List String) : String :=
  " | ".intercalate (allowed.map fun word => "'" ++ word ++ "'")

def Issue.message : Issue → String
  | wrongType expected received => "Expected " ++ expected ++ ", received " ++ received
  | wrongWord allowed received =>
    "Invalid enum value. Expected " ++ choice allowed ++ ", received '" ++ received ++ "'"

/-- What is wrong with a configuration file. -/
inductive ConfigProblem where
  | notJson
  | invalid (keys : List String) (issue : Issue)
  | reported (message : String)
  deriving DecidableEq, Repr

structure ConfigError where
  path : String
  problem : ConfigProblem
  deriving DecidableEq, Repr

namespace ConfigError

/-- Where in a file an issue is. -/
def place (keys : List String) : String :=
  if keys.isEmpty then "(root)" else ".".intercalate keys

/-- The message for a text that is no JSON gives no reason of its own. -/
def message (e : ConfigError) : String :=
  match e.problem with
  | .notJson => "Invalid JSON in " ++ e.path ++ ": (reason)"
  | .invalid keys issue =>
    "Invalid config in " ++ e.path ++ " at " ++ place keys ++ ": " ++ issue.message
  | .reported message => message

end ConfigError

namespace Config

/-- An issue with the keys that lead to it. -/
abbrev Checked (α : Type) := Except (List String × Issue) α

def readBool : Json → Except Issue Bool
  | .bool value => .ok value
  | other => .error (.wrongType "boolean" other.typeName)

def readString : Json → Except Issue String
  | .string value => .ok value
  | other => .error (.wrongType "string" other.typeName)

/-- One of some words, each of which stands for a value. -/
def readWord {α : Type} (allowed : List String) (value? : String → Option α) :
    Json → Except Issue α
  | .string word =>
    match value? word with
    | some value => .ok value
    | none => .error (.wrongWord allowed word)
  | other => .error (.wrongType (Issue.choice allowed) other.typeName)

/-- The value of a key that may be absent. -/
def readKey {α : Type} (group : String) (fields : List (String × Json)) (key : String)
    (read : Json → Except Issue α) : Checked (Option α) :=
  match fields.lookup key with
  | none => .ok none
  | some value =>
    match read value with
    | .ok found => .ok (some found)
    | .error issue => .error ([group, key], issue)

/-- A section that may be absent. Keys that it does not know are dropped. -/
def readSection {α : Type} (fields : List (String × Json)) (name : String)
    (read : List (String × Json) → Checked α) : Checked (Option α) :=
  match fields.lookup name with
  | none => .ok none
  | some (.object inner) => (read inner).map some
  | some other => .error ([name], .wrongType "object" other.typeName)

def readLogging (fields : List (String × Json)) : Checked LoggingConfig := do
  let level ← readKey "logging" fields "level"
    (readWord (Log.Level.all.map Log.Level.name) Log.Level.ofName?)
  let toGlobal ← readKey "logging" fields "global" readBool
  let toProject ← readKey "logging" fields "project" readBool
  pure { level, toGlobal, toProject }

def readRender (fields : List (String × Json)) : Checked RenderConfig := do
  let template ← readKey "render" fields "template" readString
  let outDir ← readKey "render" fields "outDir" readString
  let precedence ← readKey "render" fields "precedence"
    (readWord (Precedence.all.map Precedence.name) Precedence.ofName?)
  pure { template, outDir, precedence }

def readMarkdown (fields : List (String × Json)) : Checked MarkdownConfig := do
  let html ← readKey "markdown" fields "html" readBool
  let linkify ← readKey "markdown" fields "linkify" readBool
  let typographer ← readKey "markdown" fields "typographer" readBool
  let taskLists ← readKey "markdown" fields "taskLists" readBool
  pure { html, linkify, typographer, taskLists }

/-- The configuration that a JSON value means. The first issue in the order of the
    sections and their keys is reported. -/
def ofJson : Json → Checked Config
  | .object fields => do
    let logging ← readSection fields "logging" readLogging
    let render ← readSection fields "render" readRender
    let markdown ← readSection fields "markdown" readMarkdown
    pure { logging, render, markdown }
  | other => .error ([], .wrongType "object" other.typeName)

/-- The configuration that the text of a file means. -/
def parse (path : Path) (text : String) : Except ConfigError Config :=
  match Json.parse? text with
  | none => .error ⟨path.toText, .notJson⟩
  | some value =>
    match ofJson value with
    | .ok config => .ok config
    | .error (keys, issue) => .error ⟨path.toText, .invalid keys issue⟩

end Config

end StaticPages
