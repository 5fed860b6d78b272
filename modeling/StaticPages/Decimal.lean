namespace StaticPages

/-- The exact decimal number `mantissa * 10 ^ exponent`. -/
structure Decimal where
  mantissa : Int
  exponent : Int
  deriving DecidableEq, Repr, Inhabited

namespace Decimal

def ofNat (n : Nat) : Decimal := ⟨n, 0⟩

def ofInt (n : Int) : Decimal := ⟨n, 0⟩

/-- The number is `numerator / denominator`; the denominator is a power of ten. -/
def numerator (d : Decimal) : Int :=
  d.mantissa * Int.pow 10 d.exponent.toNat

def denominator (d : Decimal) : Nat :=
  Nat.pow 10 (-d.exponent).toNat

theorem denominator_pos (d : Decimal) : 0 < d.denominator :=
  Nat.pow_pos (by decide)

/-- The number times a power of ten. -/
def shift (d : Decimal) (places : Nat) : Decimal :=
  ⟨d.mantissa, d.exponent + places⟩

/-- The greatest integer that is not above the number. -/
def floor (d : Decimal) : Int :=
  d.numerator.fdiv d.denominator

/-- The least integer that is not below the number. -/
def ceil (d : Decimal) : Int :=
  -((-d.numerator).fdiv d.denominator)

/-- The nearest integer. A half goes away from zero. -/
def round (d : Decimal) : Int :=
  let magnitude := (2 * d.numerator.natAbs + d.denominator) / (2 * d.denominator)
  if d.mantissa < 0 then -magnitude else magnitude

/-- The number as a natural number, if it is one. -/
def toNat? (d : Decimal) : Option Nat :=
  if 0 ≤ d.mantissa ∧ d.numerator % d.denominator = 0 then
    some (d.numerator / d.denominator).toNat
  else none

/-- `scaled / 10 ^ places`, written with exactly that many places. A minus sign
    is written only before a number that is not zero. -/
def fixed (scaled : Int) (places : Nat) : String :=
  let digits := Nat.toDigits 10 scaled.natAbs
  let padded := List.replicate (places + 1 - digits.length) '0' ++ digits
  let whole := padded.take (padded.length - places)
  let fraction := padded.drop (padded.length - places)
  String.ofList ((if scaled < 0 then ['-'] else []) ++ whole ++
    (if places = 0 then [] else '.' :: fraction))

/-- The number in positional notation, with as many places as its exponent asks for. -/
def toText (d : Decimal) : String :=
  fixed d.numerator (-d.exponent).toNat

/-- The positional value of a run of decimal digits. -/
def ofDigits (digits : List Char) : Nat :=
  digits.foldl (fun n c => 10 * n + (c.toNat - '0'.toNat)) 0

end Decimal

/-- A number as it is written: a sign, whole digits, digits after the point and
    a power of ten. -/
structure Numeral where
  negative : Bool
  whole : List Char
  fraction : List Char
  exponent : Int
  deriving DecidableEq, Repr

namespace Numeral

/-- An optional sign and what follows it. -/
def takeSign : List Char → Bool × List Char
  | '-' :: rest => (true, rest)
  | '+' :: rest => (false, rest)
  | rest => (false, rest)

/-- The digits after an optional point, and what follows them. -/
def takeFraction : List Char → List Char × List Char
  | '.' :: rest => (rest.takeWhile Char.isDigit, rest.dropWhile Char.isDigit)
  | rest => ([], rest)

/-- The exponent that makes up the rest of a number. No rest means zero. -/
def exponent? : List Char → Option Int
  | [] => some 0
  | e :: rest =>
    if e = 'e' ∨ e = 'E' then
      let (negative, digits) := takeSign rest
      if digits.isEmpty || !digits.all Char.isDigit then none
      else
        let magnitude : Int := Decimal.ofDigits digits
        some (if negative then -magnitude else magnitude)
    else none

/-- Reads a number: an optional sign, digits with an optional point among or
    around them (at least one digit, and one after a leading point), and an
    optional exponent. Nothing may follow. -/
def ofChars? (text : List Char) : Option Numeral :=
  let (negative, unsigned) := takeSign text
  let whole := unsigned.takeWhile Char.isDigit
  let (fraction, rest) := takeFraction (unsigned.dropWhile Char.isDigit)
  if whole.isEmpty && fraction.isEmpty then none
  else (exponent? rest).map fun exponent => ⟨negative, whole, fraction, exponent⟩

def value (n : Numeral) : Decimal :=
  let magnitude : Int := Decimal.ofDigits (n.whole ++ n.fraction)
  ⟨if n.negative then -magnitude else magnitude, n.exponent - n.fraction.length⟩

/-- The largest exponent, of either sign, that is expanded into digits. -/
def maxExponent : Nat := 1000

/-- The least magnitude that no longer rounds to a finite binary64 number: half
    a unit in the last place above the largest one. -/
def magnitudeBound : Nat := Nat.pow 2 1024 - Nat.pow 2 970

/-- Numbers are handled up to a fixed exponent and below the binary64 range. -/
def inRange (n : Numeral) : Bool :=
  n.exponent.natAbs ≤ maxExponent &&
    n.value.numerator.natAbs < magnitudeBound * n.value.denominator

end Numeral

/-- A number in positional notation: the digits before the point, without zeros in
    front unless there is nothing else, and the digits after it. -/
structure Positional where
  negative : Bool
  whole : List Char
  fraction : List Char
  deriving DecidableEq, Repr

/-- The numeral without an exponent: the point is moved along the digits, and zeros are
    put in where it passes their ends. -/
def Numeral.positional (n : Numeral) : Positional :=
  let point := n.whole.length + n.exponent
  let led := List.replicate (-point).toNat '0' ++ (n.whole ++ n.fraction)
  let digits := led ++ List.replicate (point.toNat - led.length) '0'
  let whole := (digits.take point.toNat).dropWhile (· == '0')
  { negative := n.negative
    whole := if whole.isEmpty then ['0'] else whole
    fraction := digits.drop point.toNat }

namespace Positional

/-- A magnitude with the sign of the number. -/
def signed (d : Positional) (magnitude : Nat) : Int :=
  if d.negative then -magnitude else magnitude

/-- The nearest integer that is not above the number, or the nearest one that is not
    below it: the fraction is dropped and, unless it is zero, the magnitude grows by
    one if that is the way to go. -/
def toInteger (d : Positional) (down : Bool) : Int :=
  let magnitude := Decimal.ofDigits d.whole
  let isExact := d.fraction.all (· == '0')
  d.signed (if !isExact && d.negative == down then magnitude + 1 else magnitude)

/-- The number rounded to so many places, in units of the last one. The first digit
    that is dropped decides: a half goes away from zero. -/
def round (d : Positional) (places : Nat) : Int :=
  let digits := d.fraction ++ List.replicate (places + 1 - d.fraction.length) '0'
  let magnitude := Decimal.ofDigits (d.whole ++ digits.take places)
  d.signed (if '5' ≤ digits.getD places '0' then magnitude + 1 else magnitude)

end Positional

end StaticPages
