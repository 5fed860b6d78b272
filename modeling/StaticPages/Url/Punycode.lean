namespace StaticPages.Url.Punycode

/-- The digits of variable-length numbers: letters first, then decimal digits. -/
def digit (n : Nat) : Char :=
  Char.ofNat (if n < 26 then 97 + n else 22 + n)

def digit? (c : Char) : Option Nat :=
  if c.isLower then some (c.toNat - 97)
  else if c.isUpper then some (c.toNat - 65)
  else if c.isDigit then some (c.toNat - 22)
  else none

/-- The digits at a place that end a number are those below its threshold. -/
def threshold (place bias : Nat) : Nat :=
  min 26 (max 1 (place - bias))

theorem threshold_pos (place bias : Nat) : 0 < threshold place bias := by
  unfold threshold
  omega

/-- The bias that fits a difference which is scaled to the length of the text. -/
def settle (place delta : Nat) : Nat :=
  if 455 < delta then settle (place + 36) (delta / 35) else place + 36 * delta / (delta + 38)
termination_by delta
decreasing_by exact Nat.div_lt_self (by omega) (by decide)

/-- The bias after a difference. The first one counts less. -/
def adapt (delta count : Nat) (first : Bool) : Nat :=
  let scaled := if first then delta / 700 else delta / 2
  settle 0 (scaled + scaled / count)

/-- A number with its digits, the lowest first. -/
def digits (bias place n : Nat) : List Char :=
  let t := threshold place bias
  if n < t then [digit n]
  else digit (t + (n - t) % (36 - t)) :: digits bias (place + 36) ((n - t) / (36 - t))
termination_by n
decreasing_by
  have hpos := threshold_pos place bias
  have hle := Nat.div_le_self (n - threshold place bias) (36 - threshold place bias)
  omega

/-- A number at the start of a text, and what follows it. The digits count from
    `weight` on. -/
def number? (bias place weight : Nat) : List Char → Option (Nat × List Char)
  | [] => none
  | c :: rest => do
    let d ← digit? c
    let t := threshold place bias
    if d < t then pure (d * weight, rest)
    else
      let (more, after) ← number? bias (place + 36) (weight * (36 - t)) rest
      pure (d * weight + more, after)

theorem number?_length_lt {bias place weight n : Nat} {text after : List Char}
    (h : number? bias place weight text = some (n, after)) : after.length < text.length := by
  induction text generalizing place weight n with
  | nil => simp [number?] at h
  | cons c rest ih =>
    simp only [number?, Option.bind_eq_bind, Option.bind_eq_some_iff] at h
    obtain ⟨d, _, h⟩ := h
    split at h
    · simp only [Option.pure_def, Option.some.injEq, Prod.mk.injEq] at h
      simp [← h.2]
    · obtain ⟨found, hfound, h⟩ := Option.bind_eq_some_iff.1 h
      simp only [Option.pure_def, Option.some.injEq, Prod.mk.injEq] at h
      obtain ⟨more, left⟩ := found
      simp only at h
      rw [h.2] at hfound
      have := ih hfound
      simp only [List.length_cons]
      omega

/-- How far the characters of a text are written. -/
structure Progress where
  delta : Nat
  bias : Nat
  written : Nat
  first : Bool

/-- Writes each character of the text that is `code`, the lesser ones being written. -/
def write (code : Nat) (p : Progress) : List Char → List Char × Progress
  | [] => ([], p)
  | c :: rest =>
    if c.toNat < code then write code { p with delta := p.delta + 1 } rest
    else if c.toNat = code then
      let (more, last) :=
        write code ⟨0, adapt p.delta (p.written + 1) p.first, p.written + 1, false⟩ rest
      (digits p.bias 36 p.delta ++ more, last)
    else write code p rest

/-- Writes the codes of a text that are listed, in rising order from `next` on. -/
def writeAll (text : List Char) (next : Nat) (p : Progress) : List Nat → List Char
  | [] => []
  | code :: codes =>
    let (written, last) :=
      write code { p with delta := p.delta + (code - next) * (p.written + 1) } text
    written ++ writeAll text (code + 1) { last with delta := last.delta + 1 } codes

/-- A text in ASCII: its ASCII characters, and the differences between the others. -/
def encode (text : List Char) : List Char :=
  let basic := text.filter fun c => c.toNat < 0x80
  let codes := ((text.map Char.toNat).filter (0x80 ≤ ·)).mergeSort.eraseDups
  (if basic.isEmpty then [] else basic ++ ['-']) ++
    writeAll text 0x80 ⟨0, 72, basic.length, true⟩ codes

/-- Inserts the characters that a text of numbers stands for. -/
def insertAll (code position bias : Nat) (known text : List Char) : Option (List Char) :=
  match text with
  | [] => some known
  | c :: rest =>
    match _hnumber : number? bias 36 1 (c :: rest) with
    | none => none
    | some (n, after) =>
      let count := known.length + 1
      let next := code + (position + n) / count
      let here := (position + n) % count
      if next.isValidChar then
        insertAll next (here + 1) (adapt n count (position == 0))
          (known.take here ++ Char.ofNat next :: known.drop here) after
      else none
termination_by text.length
decreasing_by exact number?_length_lt _hnumber

/-- The text that an encoded text stands for. -/
def decode? (text : List Char) : Option (List Char) :=
  let tail := (text.reverse.takeWhile (· != '-')).reverse
  let basic := text.take (text.length - tail.length - 1)
  if basic.all fun c => c.toNat < 0x80 then
    insertAll 0x80 0 72 basic (if basic.isEmpty then text else tail)
  else none

end StaticPages.Url.Punycode
