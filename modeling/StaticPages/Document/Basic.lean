import StaticPages.Document.Heading
import StaticPages.Document.Metadata

namespace StaticPages

/-- A Markdown source in its parts. There is no title where the metadata supplies
    it instead of a heading. -/
structure Document where
  metadata : List Entry
  title : Option String
  body : String
  deriving DecidableEq, Repr

namespace Document

/-- Whether some entry of the metadata is a title. -/
def declaresTitle (entries : List Entry) : Bool :=
  entries.any fun e => e.key == "title"

/-- Splits a source into metadata, title and body. A source without a heading is
    accepted if its metadata declares a title; all of the text after the metadata
    is then the body. -/
def parse (source : String) : Except RenderError Document :=
  match Metadata.read (Cursor.ofString source) with
  | .error e => .error e
  | .ok (entries, rest) =>
    match Heading.parse rest with
    | .ok (title, after) => .ok ⟨entries, some title, after.fragment⟩
    | .error f =>
      if declaresTitle entries then .ok ⟨entries, none, rest.fragment⟩
      else .error (.ofFailure f .missingTitle)

end Document

end StaticPages
