import StaticPages.Unicode.CaseContext
import StaticPages.Unicode.CaseMapping

namespace StaticPages.Text

/-- Whether a capital sigma ends its word: a cased letter comes before it and
    none after it, ignorable characters apart. `before` is nearest first. -/
def endsWord (before after : List Char) : Bool :=
  (before.dropWhile Unicode.isCaseIgnorable).head?.any Unicode.isCased &&
    !(after.dropWhile Unicode.isCaseIgnorable).head?.any Unicode.isCased

/-- The lower case of a text that follows `before`, nearest character first. -/
def lowerAfter (before : List Char) : List Char → List Char
  | [] => []
  | c :: rest =>
    (if c = 'Σ' then [if endsWord before rest then 'ς' else 'σ'] else Unicode.lower c) ++
      lowerAfter (c :: before) rest

/-- The lower case of a text. Only the capital sigma depends on its neighbours. -/
def lower (text : List Char) : List Char :=
  lowerAfter [] text

/-- The upper case of a text. -/
def upper (text : List Char) : List Char :=
  text.flatMap Unicode.upper

/-- The text with its first character in upper case and the rest in lower case. -/
def capitalize : List Char → List Char
  | [] => []
  | c :: rest => Unicode.upper c ++ lower rest

/-- Exchanges the cases of a character. What has no case, or is neither its own
    upper nor its own lower case, stays. -/
def invertChar (c : Char) : List Char :=
  let up := Unicode.upper c
  let low := lower [c]
  if [c] = up ∧ [c] ≠ low then low
  else if [c] = low ∧ [c] ≠ up then up
  else [c]

end StaticPages.Text
