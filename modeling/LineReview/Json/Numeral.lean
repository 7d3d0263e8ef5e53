import LineReview.Json.Basic

set_option autoImplicit false

namespace LineReview.Json

/-- The digits at the start of a text, which must be there, and what follows them. -/
def digits? (text : List Char) : Option (List Char × List Char) :=
  match text.takeWhile Char.isDigit with
  | [] => none
  | found => some (found, text.dropWhile Char.isDigit)

structure Numeral where
  negative : Bool
  whole : List Char
  fraction : Option (List Char)
  /-- The exponent's letter and sign, as written, and its digits. -/
  exponent : Option (List Char × List Char)

namespace Numeral

def written (numeral : Numeral) : List Char :=
  (if numeral.negative then ['-'] else []) ++ numeral.whole ++
    (numeral.fraction.elim [] fun digits => '.' :: digits) ++
    (numeral.exponent.elim [] fun (mark, digits) => mark ++ digits)

/-- The whole part: a lone zero, or digits that do not start with zero. -/
def readWhole (text : List Char) : Option (List Char × List Char) :=
  match digits? text with
  | some ('0' :: _ :: _, _) => none
  | found => found

/-- The fraction, if a point stands at the start of the text. -/
def readFraction (text : List Char) : Option (Option (List Char) × List Char) :=
  match text with
  | '.' :: rest => (digits? rest).map fun (digits, after) => (some digits, after)
  | _ => some (none, text)

/-- The letter and the sign of an exponent, if the letter stands at the start of the text. -/
def exponentMark (text : List Char) : List Char :=
  match text with
  | letter :: sign :: _ =>
    if letter == 'e' || letter == 'E' then
      if sign == '+' || sign == '-' then [letter, sign] else [letter]
    else []
  | [letter] => if letter == 'e' || letter == 'E' then [letter] else []
  | [] => []

def readExponent (text : List Char) : Option (Option (List Char × List Char) × List Char) :=
  match exponentMark text with
  | [] => some (none, text)
  | mark =>
    (digits? (text.drop mark.length)).map fun (digits, after) => (some (mark, digits), after)

def read? (text : List Char) : Option (Numeral × List Char) := do
  let negative := text.head? == some '-'
  let (whole, afterWhole) ← readWhole (if negative then text.drop 1 else text)
  let (fraction, afterFraction) ← readFraction afterWhole
  let (exponent, rest) ← readExponent afterFraction
  return ({ negative, whole, fraction, exponent }, rest)

/-- All digits of the numeral as one number, the point left out. -/
def significand (numeral : Numeral) : Nat :=
  Nat.ofDigitChars 10 (numeral.whole ++ numeral.fraction.getD []) 0

def scale (numeral : Numeral) : Int :=
  let written : Int := match numeral.exponent with
    | none => 0
    | some (mark, digits) =>
      let size : Int := (Nat.ofDigitChars 10 digits 0 : Nat)
      if mark.contains '-' then -size else size
  written - (numeral.fraction.getD []).length

/-- The least magnitude that rounds beyond the largest number of double precision. -/
def bound : Nat := Nat.pow 2 1024 - Nat.pow 2 970

/-- The value lies beyond the range of double precision. The power of ten is compared with bounds
first, so that it is computed only where it is of a size like the bound's. -/
def isBeyond (numeral : Numeral) : Bool :=
  let significand := numeral.significand
  if significand == 0 then false
  else if 310 < numeral.scale then true
  else if 0 ≤ numeral.scale then bound ≤ significand * Nat.pow 10 numeral.scale.toNat
  else if ((numeral.whole ++ numeral.fraction.getD []).length : Int) < -numeral.scale then false
  else bound * Nat.pow 10 (-numeral.scale).toNat ≤ significand

/-- The value that a numeral denotes in a document. -/
def toJson (numeral : Numeral) : Json :=
  if numeral.isBeyond then .unusable
  else
    match numeral with
    | { negative := false, whole, fraction := none, exponent := none } =>
      .natural (Nat.ofDigitChars 10 whole 0)
    | _ => .number (String.ofList numeral.written)

end Numeral

end LineReview.Json
