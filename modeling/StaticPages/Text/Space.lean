namespace StaticPages.Text

/-- Blanks separate tokens of one line. -/
def isBlank (c : Char) : Bool :=
  c == ' ' || c == '\t'

/-- White space, line endings included: the control characters from the tab to
    the carriage return, the space separators, the line and paragraph separators
    and the byte order mark. The next-line control U+0085 is not among them. -/
def isSpace (c : Char) : Bool :=
  let n := c.toNat
  (0x9 ≤ n && n ≤ 0xD) || n == 0x20 || n == 0xA0 || n == 0x1680 || (0x2000 ≤ n && n ≤ 0x200A) ||
    n == 0x2028 || n == 0x2029 || n == 0x202F || n == 0x205F || n == 0x3000 || n == 0xFEFF

theorem isSpace_of_isBlank {c : Char} (h : isBlank c = true) : isSpace c = true := by
  simp only [isBlank, Bool.or_eq_true, beq_iff_eq] at h
  rcases h with rfl | rfl <;> decide

/-- The text without white space at its end. -/
def trimEndChars (cs : List Char) : List Char :=
  (cs.reverse.dropWhile isSpace).reverse

/-- The text without white space at either end. -/
def trimChars (cs : List Char) : List Char :=
  trimEndChars (cs.dropWhile isSpace)

def trimEnd (s : String) : String :=
  String.ofList (trimEndChars s.toList)

def trim (s : String) : String :=
  String.ofList (trimChars s.toList)

end StaticPages.Text
