import StaticPages.Decimal
import StaticPages.Source.Failure

namespace StaticPages

/-- What went wrong with a document, a template or a value. -/
inductive Cause where
  | parse (problem : Problem)
  | undefinedVariable (name : String)
  | notANumber (filter value : String)
  | outOfRange (filter value : String)
  | badPrecision (maximum : Nat) (given : Decimal)
  | reported (message : String)
  | inPlaceholder (cause : Cause) (name : String)
  deriving DecidableEq, Repr

def Cause.message : Cause → String
  | parse problem => problem.message
  | undefinedVariable name => "Undefined variable \"" ++ name ++ "\""
  | notANumber filter value => filter ++ " expects a number, got \"" ++ value ++ "\""
  | outOfRange filter value => filter ++ " cannot handle \"" ++ value ++ "\": number out of range"
  | badPrecision maximum given =>
    "\"precision\" of round must be a whole number up to " ++ Nat.repr maximum ++
      ", got " ++ given.toText
  | reported message => message
  | inPlaceholder cause name => cause.message ++ " in \"" ++ name ++ "\""

/-- The reason why a document or a template cannot be rendered. -/
structure RenderError where
  kind : ErrorKind
  cause : Cause
  position : Option Position
  deriving DecidableEq, Repr

namespace RenderError

/-- The message ends in the position where it is known. -/
def message (e : RenderError) : String :=
  match e.position with
  | none => e.cause.message
  | some p =>
    e.cause.message ++ " (line " ++ Nat.repr p.line ++ ", offset " ++ Nat.repr p.offset ++ ")"

/-- The error for a refused text, of the given kind unless the refusal has its own. -/
def ofFailure (f : Failure) (kind : ErrorKind) : RenderError :=
  ⟨f.kind.getD kind, .parse f.problem, some f.position⟩

end RenderError

end StaticPages
