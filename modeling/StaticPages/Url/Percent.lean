import StaticPages.Text.Hex

namespace StaticPages.Url

/-- A byte as a percent sign and two digits. -/
def escapeByte (byte : Nat) : List Char :=
  ['%', Text.hexDigit (byte / 16), Text.hexDigit (byte % 16)]

/-- The bytes of a character in UTF-8. -/
def bytes (c : Char) : List Nat :=
  (String.utf8EncodeChar c).map UInt8.toNat

/-- The characters with a meaning in an address. They are kept apart from their
    escaped forms. -/
def isReserved (c : Char) : Bool :=
  ";/?:@&=+$,#".toList.contains c

/-- The characters that an address shows as they are. -/
def isPlain (c : Char) : Bool :=
  c.isAlphanum || isReserved c || "-_.!~*'()".toList.contains c

/-- An address with all other characters escaped. What is escaped already stays. -/
def encode : List Char → List Char
  | '%' :: a :: b :: rest =>
    if Text.isHexDigit a && Text.isHexDigit b then '%' :: a :: b :: encode rest
    else escapeByte 0x25 ++ encode (a :: b :: rest)
  | c :: rest => (if isPlain c then [c] else (bytes c).flatMap escapeByte) ++ encode rest
  | [] => []

/-- The escaped bytes at the start of a text, and what follows them. -/
def escapedBytes : List Char → List Nat × List Char
  | '%' :: a :: b :: rest =>
    if Text.isHexDigit a && Text.isHexDigit b then
      let (more, after) := escapedBytes rest
      (Text.ofHexDigits [a, b] :: more, after)
    else ([], '%' :: a :: b :: rest)
  | text => ([], text)

theorem escapedBytes_length_le (text : List Char) :
    (escapedBytes text).2.length ≤ text.length := by
  fun_induction escapedBytes text with
  | case1 a b rest h more after hrest ih =>
    rw [hrest] at ih
    simp only [List.length_cons] at ih ⊢
    omega
  | case2 => simp
  | case3 => simp

/-- The payload of a byte that continues a character. -/
def continuation? (byte : Nat) : Option Nat :=
  if byte / 0x40 == 2 then some (byte % 0x40) else none

/-- The value of a lead byte, the number of bytes that must follow it, and the
    least code point of characters of that length. -/
def lead? (byte : Nat) : Option (Nat × Nat × Nat) :=
  if byte / 0x20 == 6 then some (byte % 0x20, 1, 0x80)
  else if byte / 0x10 == 0xE then some (byte % 0x10, 2, 0x800)
  else if byte / 8 == 0x1E then some (byte % 8, 3, 0x10000)
  else none

/-- The code point and the number of bytes of a character of several bytes. -/
def sequence? (byte : Nat) (rest : List Nat) : Option (Nat × Nat × Nat) := do
  let (value, count, least) ← lead? byte
  let following := rest.take count
  let payloads ← following.mapM continuation?
  if payloads.length < count then none
  else pure (payloads.foldl (fun n p => 0x40 * n + p) value, count, least)

/-- The text of some bytes. `skip` of them are already read. A byte that begins
    no character becomes a replacement character, and so does each byte of a
    sequence that is too long or no character. Characters with a meaning in an
    address, and the percent sign, stay escaped. -/
def textOfBytes (skip : Nat) : List Nat → List Char
  | [] => []
  | byte :: rest =>
    if 0 < skip then textOfBytes (skip - 1) rest
    else if byte < 0x80 then
      let c := Char.ofNat byte
      (if isReserved c || c == '%' then escapeByte byte else [c]) ++ textOfBytes 0 rest
    else
      match sequence? byte rest with
      | some (n, count, least) =>
        (if n < least || !decide n.isValidChar then List.replicate (count + 1) '\uFFFD'
          else [Char.ofNat n]) ++ textOfBytes count rest
      | none => '\uFFFD' :: textOfBytes 0 rest

/-- An address as it is shown: escaped characters are read where that keeps its
    meaning. -/
def decode (text : List Char) : List Char :=
  match text with
  | [] => []
  | '%' :: a :: b :: rest =>
    if Text.isHexDigit a && Text.isHexDigit b then
      textOfBytes 0 (Text.ofHexDigits [a, b] :: (escapedBytes rest).1) ++
        decode (escapedBytes rest).2
    else '%' :: decode (a :: b :: rest)
  | c :: rest => c :: decode rest
termination_by text.length
decreasing_by
  · have := escapedBytes_length_le rest
    simp only [List.length_cons]
    omega
  · simp
  · simp

end StaticPages.Url
