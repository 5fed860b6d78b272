import StaticPages.Document.Variables
import StaticPages.Files.Path
import StaticPages.Json.Basic
import StaticPages.Log.Level

namespace StaticPages

/-- Settings for logging, as far as they are given. -/
structure LoggingConfig where
  level : Option Log.Level := none
  toGlobal : Option Bool := none
  toProject : Option Bool := none
  deriving DecidableEq, Repr

/-- Settings for rendering, as far as they are given. -/
structure RenderConfig where
  template : Option String := none
  outDir : Option String := none
  precedence : Option Precedence := none
  deriving DecidableEq, Repr

/-- Settings for Markdown, as far as they are given. -/
structure MarkdownConfig where
  html : Option Bool := none
  linkify : Option Bool := none
  typographer : Option Bool := none
  taskLists : Option Bool := none
  deriving DecidableEq, Repr

/-- A configuration file. -/
structure Config where
  logging : Option LoggingConfig := none
  render : Option RenderConfig := none
  markdown : Option MarkdownConfig := none
  deriving DecidableEq, Repr

/-- The configuration that a program runs with. -/
structure Settings where
  logging : LoggingConfig := {}
  render : RenderConfig := {}
  markdown : MarkdownConfig := {}
  deriving DecidableEq, Repr

/-- The settings of `layer`, and those of `base` where `layer` has none. -/
def LoggingConfig.overlay (base layer : LoggingConfig) : LoggingConfig where
  level := layer.level <|> base.level
  toGlobal := layer.toGlobal <|> base.toGlobal
  toProject := layer.toProject <|> base.toProject

@[inherit_doc LoggingConfig.overlay]
def RenderConfig.overlay (base layer : RenderConfig) : RenderConfig where
  template := layer.template <|> base.template
  outDir := layer.outDir <|> base.outDir
  precedence := layer.precedence <|> base.precedence

@[inherit_doc LoggingConfig.overlay]
def MarkdownConfig.overlay (base layer : MarkdownConfig) : MarkdownConfig where
  html := layer.html <|> base.html
  linkify := layer.linkify <|> base.linkify
  typographer := layer.typographer <|> base.typographer
  taskLists := layer.taskLists <|> base.taskLists

namespace LoggingConfig

def toJson (c : LoggingConfig) : Json :=
  .present [("level", c.level.map fun level => .string level.name), ("global", c.toGlobal.map .bool),
    ("project", c.toProject.map .bool)]

end LoggingConfig

namespace RenderConfig

def toJson (c : RenderConfig) : Json :=
  .present [("template", c.template.map .string), ("outDir", c.outDir.map .string),
    ("precedence", c.precedence.map fun p => .string p.name)]

end RenderConfig

namespace MarkdownConfig

def toJson (c : MarkdownConfig) : Json :=
  .present [("html", c.html.map .bool), ("linkify", c.linkify.map .bool),
    ("typographer", c.typographer.map .bool), ("taskLists", c.taskLists.map .bool)]

end MarkdownConfig

namespace Config

/-- One configuration over another, section by section and key by key. -/
def overlay (base layer : Config) : Settings where
  logging := (base.logging.getD {}).overlay (layer.logging.getD {})
  render := (base.render.getD {}).overlay (layer.render.getD {})
  markdown := (base.markdown.getD {}).overlay (layer.markdown.getD {})

/-- The settings of one configuration alone. -/
def settings (c : Config) : Settings where
  logging := c.logging.getD {}
  render := c.render.getD {}
  markdown := c.markdown.getD {}

def toJson (c : Config) : Json :=
  .present [("logging", c.logging.map LoggingConfig.toJson),
    ("render", c.render.map RenderConfig.toJson),
    ("markdown", c.markdown.map MarkdownConfig.toJson)]

end Config

/-- A path of a project's configuration, read in the project's directory. An empty
    one stays empty. -/
def RenderConfig.pathIn (project : Path) (path : String) : String :=
  if path.isEmpty then path else (project.resolve path).toText

/-- A configuration with its paths read in the project's directory. -/
def RenderConfig.inProject (project : Path) (c : RenderConfig) : RenderConfig :=
  { c with template := c.template.map (pathIn project), outDir := c.outDir.map (pathIn project) }

@[inherit_doc RenderConfig.inProject]
def Config.inProject (project : Path) (c : Config) : Config :=
  { c with render := c.render.map (RenderConfig.inProject project) }

/-- The settings as a configuration with all of its sections. -/
def Settings.config (s : Settings) : Config :=
  ⟨some s.logging, some s.render, some s.markdown⟩

end StaticPages
