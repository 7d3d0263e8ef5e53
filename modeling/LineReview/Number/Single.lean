set_option autoImplicit false

namespace LineReview.Number

/-- The whole number nearest to a quotient; of two equally near ones, the even one. -/
def roundHalfEven (numerator denominator : Nat) : Nat :=
  let quotient := numerator / denominator
  let remainder := numerator % denominator
  if 2 * remainder < denominator then quotient
  else if denominator < 2 * remainder then quotient + 1
  else quotient + quotient % 2

def divideByPower (numerator denominator : Nat) (exponent : Int) : Nat × Nat :=
  (numerator * Nat.pow 2 (-exponent).toNat, denominator * Nat.pow 2 exponent.toNat)

/-- The greatest exponent whose power of two does not exceed a positive fraction. -/
def binaryExponent (numerator denominator : Nat) : Int :=
  let estimate : Int := (numerator.log2 : Int) - denominator.log2
  let (dividend, divisor) := divideByPower numerator denominator estimate
  if divisor ≤ dividend then estimate else estimate - 1

/-- The binary number nearest to a fraction, as a mantissa of at most the given number of bits, or
the power of two right above those, and an exponent that is not below the least one. -/
def nearestBinary (precision : Nat) (least : Int) (numerator denominator : Nat) : Nat × Int :=
  if numerator = 0 then (0, least)
  else
    let exponent := max least (binaryExponent numerator denominator - (precision - 1))
    let (dividend, divisor) := divideByPower numerator denominator exponent
    (roundHalfEven dividend divisor, exponent)

/-- A signed decimal numeral: an integer times a power of ten. -/
structure Numeral where
  negative : Bool
  significand : Nat
  scale : Int
  deriving DecidableEq

namespace Numeral

def sign (text : List Char) : Bool × List Char :=
  match text with
  | '-' :: rest => (true, rest)
  | '+' :: rest => (false, rest)
  | _ => (false, text)

def power? (text : List Char) : Option Int :=
  let (negative, digits) := sign text
  if digits.isEmpty || !digits.all Char.isDigit then none
  else
    let size : Int := (Nat.ofDigitChars 10 digits 0 : Nat)
    some (if negative then -size else size)

def trailingPower? (text : List Char) : Option Int :=
  match text with
  | [] => some 0
  | letter :: rest => if letter == 'e' || letter == 'E' then power? rest else none

/-- The digits after the point at the start of a text, if it starts with a point, and what follows
them. -/
def fraction (text : List Char) : List Char × List Char :=
  match text with
  | '.' :: rest => (rest.takeWhile Char.isDigit, rest.dropWhile Char.isDigit)
  | _ => ([], text)

def read? (text : List Char) : Option Numeral := do
  let (negative, unsigned) := sign text
  let whole := unsigned.takeWhile Char.isDigit
  let (decimals, rest) := fraction (unsigned.dropWhile Char.isDigit)
  let power ← trailingPower? rest
  if whole.isEmpty && decimals.isEmpty then none
  else return {
    negative
    significand := Nat.ofDigitChars 10 (whole ++ decimals) 0
    scale := power - decimals.length }

/-- The number of digits of the significand. -/
def width (numeral : Numeral) : Nat :=
  (Nat.toDigits 10 numeral.significand).length

def fractionOf (numeral : Numeral) : Nat × Nat :=
  (numeral.significand * Nat.pow 10 numeral.scale.toNat, Nat.pow 10 (-numeral.scale).toNat)

end Numeral

/-- A number of single precision by its three fields. -/
structure Single where
  negative : Bool
  biased : Fin 256
  fraction : Fin 0x800000
  deriving DecidableEq

namespace Single

/-- The leading one of a mantissa, right above the bits of the fraction. -/
def carry : Nat := 0x800000

/-- The greatest exponent field is not that of a number. -/
def isFinite (single : Single) : Bool :=
  single.biased.val < 255

def isInfinite (single : Single) : Bool :=
  single.biased.val == 255 && single.fraction.val == 0

/-- The mantissa of a finite number: the fraction below a leading one, which the least exponent
lacks. -/
def mantissa (single : Single) : Nat :=
  if single.biased.val = 0 then single.fraction.val else carry + single.fraction.val

def exponent (single : Single) : Int :=
  (max single.biased.val 1 : Nat) - 150

def value (single : Single) : Rat :=
  let magnitude : Rat := mkRat (single.mantissa * Nat.pow 2 single.exponent.toNat)
    (Nat.pow 2 (-single.exponent).toNat)
  if single.negative then -magnitude else magnitude

/-- The number whose exponent and fraction together are the given ones, or infinity if they are too
large. -/
def ofMagnitude (negative : Bool) (magnitude : Nat) : Single :=
  let bounded := min magnitude (255 * 0x800000)
  { negative
    biased := ⟨bounded / 0x800000, by omega⟩
    fraction := ⟨bounded % 0x800000, by omega⟩ }

def nan : Single where
  negative := false
  biased := 255
  fraction := 0x400000

def infinity (negative : Bool) : Single :=
  ofMagnitude negative (255 * carry)

/-- The number nearest to a fraction. A mantissa with its leading one carries into the exponent, so
that adding the two also rounds up to the next exponent. -/
def ofFraction (negative : Bool) (numerator denominator : Nat) : Single :=
  let (mantissa, exponent) := nearestBinary 24 (-149) numerator denominator
  ofMagnitude negative ((exponent + 149).toNat * carry + mantissa)

/-- The least magnitude that is beyond double precision. -/
def doubleBound : Nat := Nat.pow 2 1024

/-- The number that a numeral denotes: rounded to double precision first and to single precision
then. A numeral beyond double precision denotes none. -/
def ofNumeral? (numeral : Numeral) : Option Single :=
  if numeral.significand = 0 then some (ofMagnitude numeral.negative 0)
  else if 310 < numeral.scale + numeral.width then none
  else if numeral.scale + numeral.width < -330 then some (ofMagnitude numeral.negative 0)
  else
    let (numerator, denominator) := numeral.fractionOf
    let (mantissa, exponent) := nearestBinary 53 (-1074) numerator denominator
    let (dividend, divisor) := divideByPower mantissa 1 (-exponent)
    if doubleBound * divisor ≤ dividend then none
    else some (ofFraction numeral.negative dividend divisor)

end Single

end LineReview.Number
