import StaticPages.Text.Units

namespace StaticPages

/-- A place in a source text: the line, counted from 1, and the number of code
    units before it. -/
structure Position where
  line : Nat
  offset : Nat
  deriving DecidableEq, Repr

namespace Position

/-- Where every text begins. -/
def start : Position := ⟨1, 0⟩

/-- The place after one character. Only a line feed begins a new line. -/
def step (p : Position) (c : Char) : Position :=
  ⟨if c = '\n' then p.line + 1 else p.line, p.offset + Text.width c⟩

/-- The place after a run of characters. -/
def after (p : Position) (taken : List Char) : Position :=
  taken.foldl step p

@[simp] theorem after_nil (p : Position) : p.after [] = p := rfl

@[simp] theorem after_cons (p : Position) (c : Char) (cs : List Char) :
    p.after (c :: cs) = (p.step c).after cs := rfl

theorem after_append (p : Position) (xs ys : List Char) :
    p.after (xs ++ ys) = (p.after xs).after ys := by
  simp [after, List.foldl_append]

theorem after_offset (p : Position) (cs : List Char) :
    (p.after cs).offset = p.offset + Text.size cs := by
  induction cs generalizing p with
  | nil => rfl
  | cons c cs ih => simp [ih, step, Text.size, Nat.add_assoc]

theorem after_line (p : Position) (cs : List Char) :
    (p.after cs).line = p.line + cs.count '\n' := by
  induction cs generalizing p with
  | nil => rfl
  | cons c cs ih =>
    by_cases h : c = '\n'
    · simp [ih, step, h]; omega
    · simp [ih, step, h]

end Position

/-- The half-open stretch of a source text from `start` to `stop`. -/
structure Span where
  start : Position
  stop : Position
  deriving DecidableEq, Repr

end StaticPages
