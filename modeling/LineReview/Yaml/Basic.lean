import LineReview.Json.Reader
import LineReview.Number.Single

set_option autoImplicit false

namespace LineReview

inductive Yaml where
  /-- A scalar without quotes; the empty one is a value left out. -/
  | plain (content : String)
  | quoted (content : String)
  | sequence (items : List Yaml)
  | mapping (entries : List (Yaml × Yaml))

namespace Yaml

/-- The value of what is left out. -/
def absent : Yaml := .plain ""

def isAllowed (char : Char) : Bool :=
  let code := char.toNat
  code == 0x9 || code == 0xA || code == 0xD || (0x20 ≤ code && code ≤ 0x7E) || code == 0x85 ||
    (0xA0 ≤ code && code ≤ 0xD7FF) || (0xE000 ≤ code && code ≤ 0xFFFD) || 0x10000 ≤ code

/-- A blank inside a line. -/
def isGap (char : Char) : Bool :=
  char == ' ' || char == '\t'

/-- A blank, a line end, or the end of the text stands at the start of a text. -/
def startsGap : List Char → Bool
  | [] => true
  | char :: _ => isGap char || char == '\n'

/-- The rest of a line holds nothing but blanks and a comment. -/
def isRemark (text : List Char) : Bool :=
  match text.dropWhile isGap with
  | [] => true
  | char :: _ => char == '#'

end Yaml

end LineReview

namespace LineReview.Yaml

def text? : Yaml → Option String
  | .plain content | .quoted content => some content
  | _ => none

/-- The plain scalars that stand for nothing. -/
def isNothing (content : String) : Bool :=
  ["", "~", "null", "Null", "NULL"].contains content

/-- The text that a scalar is, where it may also be nothing. -/
def optionalText? : Yaml → Option (Option String)
  | .plain content => some (if isNothing content then none else some content)
  | .quoted content => some (some content)
  | _ => none

/-- The number that digits of a base spell, at least one of them. -/
def digitsIn? (base : Nat) (digits : List Char) : Option Nat :=
  if digits.isEmpty then none
  else do
    let values ← digits.mapM Json.hexValue?
    if values.all (· < base) then some (values.foldl (fun total digit => total * base + digit) 0)
    else none

/-- The number that a numeral without a sign spells: in base sixteen, eight or two after `0x`, `0o`
or `0b`, and otherwise in base ten without a superfluous zero. -/
def unsigned? (digits : List Char) : Option Nat :=
  match digits with
  | '0' :: 'x' :: rest => digitsIn? 16 rest
  | '0' :: 'o' :: rest => digitsIn? 8 rest
  | '0' :: 'b' :: rest => digitsIn? 2 rest
  | '0' :: _ :: _ => none
  | _ => digitsIn? 10 digits

/-- The natural number below a bound that a plain scalar spells, with or without a plus sign. -/
def naturalBelow? (bound : Nat) : Yaml → Option Nat
  | .plain content => do
    let digits := match content.toList with
      | '+' :: rest => rest
      | all => all
    let value ← unsigned? digits
    if value < bound then some value else none
  | _ => none

/-- The number of single precision that a plain scalar spells: a decimal numeral, or a word for an
infinity or for what is no number. -/
def single? : Yaml → Option Number.Single
  | .plain content =>
    if [".inf", ".Inf", ".INF", "+.inf", "+.Inf", "+.INF"].contains content then
      some (Number.Single.infinity false)
    else if ["-.inf", "-.Inf", "-.INF"].contains content then some (Number.Single.infinity true)
    else if [".nan", ".NaN", ".NAN"].contains content then some Number.Single.nan
    else (Number.Numeral.read? content.toList).bind Number.Single.ofNumeral?
  | _ => none

/-- The values of a mapping under each of the names, in the order of the names, each present or
absent; other keys are passed over. Keys have to be scalars, and a name may stand for one entry
only. -/
def fields? (names : List String) (entries : List (Yaml × Yaml)) :
    Option (List (Option Yaml)) := do
  let named ← entries.mapM fun (key, value) => key.text?.map fun name => (name, value)
  names.mapM fun name =>
    match named.filter fun entry => entry.1 == name with
    | [] => some none
    | [(_, value)] => some (some value)
    | _ => none

/-- The entries of a mapping; a value left out has none. -/
def entries? : Yaml → Option (List (Yaml × Yaml))
  | .mapping entries => some entries
  | .plain content => if content.isEmpty then some [] else none
  | _ => none

/-- A field that is absent keeps its default. -/
def fieldOr {α : Type} (default : α) (read? : Yaml → Option α) : Option Yaml → Option α
  | none => some default
  | some value => read? value

end LineReview.Yaml
