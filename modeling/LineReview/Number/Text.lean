import LineReview.Json.Basic
import LineReview.Number.Single

set_option autoImplicit false

namespace LineReview.Number

/-- How the nearest of two equally near decimals is chosen. -/
inductive Tie where
  | up
  | toEven
  deriving DecidableEq

structure Decimal where
  digits : Nat
  scale : Int
  deriving DecidableEq

/-- The reals that round to a positive number, in quarters of its unit: the number itself, the ends
of the interval, and whether the ends belong to it. -/
structure Neighbourhood where
  centre : Nat
  low : Nat
  high : Nat
  closed : Bool
  /-- The power of two that the quarters stand for. -/
  unit : Int

namespace Neighbourhood

/-- The neighbourhood of a positive number. Below a power of two the numbers lie twice as close. -/
def ofSingle (single : Single) : Neighbourhood where
  centre := 4 * single.mantissa
  low := 4 * single.mantissa - (if single.mantissa = Single.carry then 1 else 2)
  high := 4 * single.mantissa + 2
  closed := single.mantissa % 2 == 0
  unit := single.exponent - 2

/-- What quarters are multiplied by to compare them with multiples of a power of ten. -/
def quarterFactor (near : Neighbourhood) (scale : Int) : Nat :=
  Nat.pow 2 near.unit.toNat * Nat.pow 10 (-scale).toNat

/-- What multiples of a power of ten are multiplied by to compare them with quarters. -/
def gridFactor (near : Neighbourhood) (scale : Int) : Nat :=
  Nat.pow 2 (-near.unit).toNat * Nat.pow 10 scale.toNat

def holds (near : Neighbourhood) (scale : Int) (multiple : Nat) : Bool :=
  let point := multiple * near.gridFactor scale
  let low := near.low * near.quarterFactor scale
  let high := near.high * near.quarterFactor scale
  if near.closed then low ≤ point && point ≤ high else low < point && point < high

/-- The greatest multiple of a power of ten that does not exceed the number. -/
def floor (near : Neighbourhood) (scale : Int) : Nat :=
  near.centre * near.quarterFactor scale / near.gridFactor scale

/-- The multiple right above the number is taken rather than the one below. -/
def prefersAbove (near : Neighbourhood) (tie : Tie) (scale : Int) : Bool :=
  let below := near.floor scale
  let centre := near.centre * near.quarterFactor scale
  let distanceBelow := centre - below * near.gridFactor scale
  let distanceAbove := (below + 1) * near.gridFactor scale - centre
  distanceAbove < distanceBelow ||
    (distanceAbove == distanceBelow && (tie == .up || below % 2 == 1))

/-- The multiple of a power of ten that is nearest to the number among those that round to it. -/
def onGrid? (near : Neighbourhood) (tie : Tie) (scale : Int) : Option Decimal :=
  let below := near.floor scale
  match near.holds scale below, near.holds scale (below + 1) with
  | false, false => none
  | true, false => some ⟨below, scale⟩
  | false, true => some ⟨below + 1, scale⟩
  | true, true => some ⟨if near.prefersAbove tie scale then below + 1 else below, scale⟩

end Neighbourhood

/-- The powers of ten among which the shortest decimal lies, greatest first. -/
def scales : List Int :=
  (List.range 100).map fun (step : Nat) => 40 - (step : Int)

/-- The shortest decimal of the magnitude of a finite number other than zero: the coarsest grid that
has a point in the neighbourhood gives the fewest digits. -/
def shortest (tie : Tie) (single : Single) : Decimal :=
  (scales.findSome? ((Neighbourhood.ofSingle single).onGrid? tie)).getD ⟨0, 0⟩

namespace Decimal

def text (decimal : Decimal) : List Char :=
  Nat.toDigits 10 decimal.digits

def leading (decimal : Decimal) : Int :=
  decimal.scale + decimal.text.length - 1

def positional (decimal : Decimal) : List Char :=
  let before := decimal.leading + 1
  if 0 ≤ decimal.scale then decimal.text ++ List.replicate decimal.scale.toNat '0'
  else if 0 < before then
    decimal.text.take before.toNat ++ ['.'] ++ decimal.text.drop before.toNat
  else ['0', '.'] ++ List.replicate (-before).toNat '0' ++ decimal.text

/-- The decimal with one digit before its point and an exponent that shows its sign. -/
def scientific (decimal : Decimal) : List Char :=
  let decimals := decimal.text.drop 1
  decimal.text.take 1 ++ (if decimals.isEmpty then [] else '.' :: decimals) ++
    ['e', if 0 ≤ decimal.leading then '+' else '-'] ++ Nat.toDigits 10 decimal.leading.natAbs

end Decimal

namespace Single

def signText (single : Single) : List Char :=
  if single.negative then ['-'] else []

def toText (single : Single) : String :=
  String.ofList <|
    if single.isFinite then
      single.signText ++
        if single.mantissa = 0 then ['0'] else (shortest .up single).positional
    else if single.isInfinite then single.signText ++ "inf".toList
    else "NaN".toList

/-- The digits of a number other than zero in JSON: an exponent below a millionth and from ten
million millions on, and a point in every other case. -/
def jsonDigits (decimal : Decimal) : List Char :=
  if decimal.leading < -6 || 13 ≤ decimal.leading then decimal.scientific
  else decimal.positional ++ (if 0 ≤ decimal.scale then ['.', '0'] else [])

def toJson (single : Single) : Json :=
  if single.isFinite then
    .number <| String.ofList <| single.signText ++
      if single.mantissa = 0 then ['0', '.', '0'] else jsonDigits (shortest .toEven single)
  else .null

end Single

end LineReview.Number
