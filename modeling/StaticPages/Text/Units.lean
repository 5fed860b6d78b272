namespace StaticPages.Text

/-- The number of UTF-16 code units that a character takes. Offsets and lengths
    of texts are counted in these units. -/
def width (c : Char) : Nat :=
  if c.toNat < 0x10000 then 1 else 2

theorem width_pos (c : Char) : 0 < width c := by
  unfold width
  split <;> omega

/-- The length of a text in code units. -/
def size : List Char → Nat
  | [] => 0
  | c :: cs => width c + size cs

@[simp] theorem size_append (xs ys : List Char) : size (xs ++ ys) = size xs + size ys := by
  induction xs with
  | nil => simp [size]
  | cons c cs ih => simp [size, ih, Nat.add_assoc]

/-- The code units of a character: itself, or a surrogate pair. -/
def codeUnits (c : Char) : List Nat :=
  let n := c.toNat
  if n < 0x10000 then [n]
  else [0xD800 + (n - 0x10000) / 0x400, 0xDC00 + (n - 0x10000) % 0x400]

/-- The code units of a text. -/
def units (cs : List Char) : List Nat :=
  cs.flatMap codeUnits

def isHighSurrogate (n : Nat) : Bool := 0xD800 ≤ n && n < 0xDC00

def isLowSurrogate (n : Nat) : Bool := 0xDC00 ≤ n && n < 0xE000

/-- What stands for half of a surrogate pair, which is no character of its own. It is the
    character that is written to a file in its place. -/
def half : Char := '\uFFFD'

/-- The character of one code. -/
def single (code : Nat) : Char :=
  if isHighSurrogate code || isLowSurrogate code then half else Char.ofNat code

/-- The text of some codes. Surrogates are joined in pairs; one without a partner
    is half a character. -/
def ofUnits : List Nat → List Char
  | [] => []
  | [code] => [single code]
  | high :: low :: rest =>
    if isHighSurrogate high && isLowSurrogate low then
      Char.ofNat (0x10000 + (high - 0xD800) * 0x400 + (low - 0xDC00)) :: ofUnits rest
    else single high :: ofUnits (low :: rest)

/-- The first units of a text. The last of them may be half of a pair. -/
def takeUnits (n : Nat) (cs : List Char) : List Char :=
  ofUnits ((units cs).take n)

/-- What `takeUnits` leaves, which may begin with the other half of a pair. -/
def dropUnits (n : Nat) (cs : List Char) : List Char :=
  ofUnits ((units cs).drop n)

/-- `text` with the units from `start` to `stop` replaced. Offsets past the end
    count as the end, and a `stop` before `start` repeats what lies between. -/
def splice (text : String) (start stop : Nat) (replacement : String) : String :=
  let all := units text.toList
  String.ofList (ofUnits (all.take start ++ units replacement.toList ++ all.drop stop))

/-- The order of texts by code units. It differs from the order by characters
    only above U+D800. -/
def unitsBefore (a b : String) : Bool :=
  decide (units a.toList < units b.toList)

end StaticPages.Text
