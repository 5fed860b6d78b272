import StaticPages.Document.Variables
import StaticPages.Filter.Apply
import StaticPages.Template.Placeholder

namespace StaticPages

/-- Gives an error without a position that of the placeholder in which it arose. -/
def Fault.inPlaceholder (fault : Fault) (p : Placeholder) : Fault :=
  match fault with
  | .render ⟨kind, cause, none⟩ =>
    .render ⟨kind, .inPlaceholder cause p.name, some p.selection.start⟩
  | fault => fault

namespace Template

/-- The text that takes a placeholder's place. -/
def resolve (render : Renderer) (table : Variables) (p : Placeholder) : Except Fault String :=
  match table.get? p.name with
  | none => .error (.render ⟨.undefinedVariable, .undefinedVariable p.name, some p.selection.start⟩)
  | some value => (Filter.applyAll render p.filters value).mapError fun fault => fault.inPlaceholder p

/-- Replaces placeholders in a text, in the order of the list. -/
def substitute (render : Renderer) (table : Variables) :
    List Placeholder → String → Except Fault String
  | [], text => .ok text
  | p :: rest, text =>
    match resolve render table p with
    | .ok value =>
      substitute render table rest
        (Text.splice text p.selection.start.offset p.selection.stop.offset value)
    | .error fault => .error fault

def locate (template : String) : Except Fault (List Placeholder) :=
  (Placeholder.locate (Cursor.ofString template)).mapError Fault.render

/-- The template with every placeholder replaced. The first failure, from the end
    of the template on, is the result of all of it. -/
def render (renderer : Renderer) (table : Variables) (template : String) : Except Fault String :=
  match locate template with
  | .ok placeholders => substitute renderer table placeholders template
  | .error fault => .error fault

end Template

/-- A rendered document: the page, the placeholders from the last one on, and the
    variables they took their values from. -/
structure Page where
  html : String
  placeholders : List Placeholder
  table : Variables

namespace Document

/-- Renders a Markdown source into a template. -/
def render (renderer : Renderer) (precedence : Precedence) (source template : String) :
    Except Fault Page :=
  match (parse source).mapError Fault.render with
  | .error fault => .error fault
  | .ok document =>
    match Template.locate template with
    | .error fault => .error fault
    | .ok placeholders =>
      let table := document.table precedence
      match Template.substitute renderer table placeholders template with
      | .ok html => .ok ⟨html, placeholders, table⟩
      | .error fault => .error fault

end Document

end StaticPages
