import LineReview.Json.Numeral

set_option autoImplicit false

/-! Reading JSON. A document is one value with blanks around it; nothing may follow a value but the
bracket, brace or comma of what holds it. The characters of a text are read first as units, which
are then paired, because a character beyond the basic plane may be written as two escaped
surrogates. -/

namespace LineReview.Json

def isSpace (char : Char) : Bool :=
  char == ' ' || char == '\n' || char == '\t' || char == '\r'

def skip (text : List Char) : List Char :=
  text.dropWhile isSpace

def hexValue? (char : Char) : Option Nat :=
  if char.isDigit then some (char.toNat - '0'.toNat)
  else if 'a' ≤ char ∧ char ≤ 'f' then some (char.toNat - 'a'.toNat + 10)
  else if 'A' ≤ char ∧ char ≤ 'F' then some (char.toNat - 'A'.toNat + 10)
  else none

def hexUnit? (first second third fourth : Char) : Option Nat := do
  return (((← hexValue? first) * 16 + (← hexValue? second)) * 16 + (← hexValue? third)) * 16 +
    (← hexValue? fourth)

/-- One character of a text as it is written. -/
inductive TextUnit where
  | char (value : Char)
  /-- A UTF-16 code unit, given by its number. -/
  | code (value : Nat)

def escaped? : Char → Option Char
  | '"' => some '"'
  | '\\' => some '\\'
  | '/' => some '/'
  | 'b' => some '\x08'
  | 'f' => some '\x0c'
  | 'n' => some '\n'
  | 'r' => some '\r'
  | 't' => some '\t'
  | _ => none

/-- The units of a text up to its closing quote, and what follows the quote. -/
def readUnits : List Char → Option (List TextUnit × List Char)
  | [] => none
  | '"' :: rest => some ([], rest)
  | '\\' :: 'u' :: first :: second :: third :: fourth :: rest => do
    let code ← hexUnit? first second third fourth
    let (units, after) ← readUnits rest
    return (.code code :: units, after)
  | '\\' :: letter :: rest => do
    let char ← escaped? letter
    let (units, after) ← readUnits rest
    return (.char char :: units, after)
  | char :: rest =>
    if char.toNat < 0x20 then none
    else do
      let (units, after) ← readUnits rest
      return (.char char :: units, after)

/-- The characters that the units spell; a surrogate counts only as half of a pair. -/
def pairUnits? : List TextUnit → Option (List Char)
  | [] => some []
  | .char char :: rest => (pairUnits? rest).map (char :: ·)
  | .code high :: .code low :: rest =>
    if 0xD800 ≤ high ∧ high < 0xDC00 ∧ 0xDC00 ≤ low ∧ low < 0xE000 then
      (pairUnits? rest).map (Char.ofNat (0x10000 + (high - 0xD800) * 0x400 + (low - 0xDC00)) :: ·)
    else if 0xD800 ≤ high ∧ high < 0xE000 then none
    else (pairUnits? (.code low :: rest)).map (Char.ofNat high :: ·)
  | .code code :: rest =>
    if 0xD800 ≤ code ∧ code < 0xE000 then none
    else (pairUnits? rest).map (Char.ofNat code :: ·)

/-- A text after its opening quote: nothing if it has no end or a bad escape, and otherwise its
characters, if its units pair up, with what follows the closing quote. -/
def readText (text : List Char) : Option (Option String × List Char) := do
  let (units, rest) ← readUnits text
  return ((pairUnits? units).map String.ofList, rest)

def after? (opening text : List Char) : Option (List Char) :=
  if opening.isPrefixOf text then some (text.drop opening.length) else none

def readScalar (text : List Char) : Option (Json × List Char) :=
  match after? "null".toList text, after? "true".toList text, after? "false".toList text with
  | some rest, _, _ => some (.null, rest)
  | _, some rest, _ => some (.bool true, rest)
  | _, _, some rest => some (.bool false, rest)
  | none, none, none => (Numeral.read? text).map fun (numeral, rest) => (numeral.toJson, rest)

/-- The object of some members, each with its name if the name is a text. -/
def objectOf (members : List (Option String × Json)) : Json :=
  match members.mapM fun (name, value) => name.map fun name => (name, value) with
  | some named => .object named
  | none => .unusable

mutual

/-- A value at the start of a text, found in a number of steps. -/
def readValue : Nat → List Char → Option (Json × List Char)
  | 0, _ => none
  | steps + 1, text =>
    match skip text with
    | '"' :: rest => (readText rest).map fun (value, after) => (value.elim .unusable .string, after)
    | '[' :: rest =>
      match skip rest with
      | ']' :: after => some (.array [], after)
      | _ => (readItems steps rest).map fun (items, after) => (.array items, after)
    | '\x7b' :: rest =>
      match skip rest with
      | '\x7d' :: after => some (.object [], after)
      | _ => (readMembers steps rest).map fun (members, after) => (objectOf members, after)
    | start => readScalar start

/-- The items of an array, at least one, up to its closing bracket. -/
def readItems : Nat → List Char → Option (List Json × List Char)
  | 0, _ => none
  | steps + 1, text =>
    match readValue steps text with
    | none => none
    | some (item, rest) =>
      match skip rest with
      | ']' :: after => some ([item], after)
      | ',' :: more => (readItems steps more).map fun (items, after) => (item :: items, after)
      | _ => none

def readMembers : Nat → List Char → Option (List (Option String × Json) × List Char)
  | 0, _ => none
  | steps + 1, text =>
    match skip text with
    | '"' :: opened =>
      match readText opened with
      | none => none
      | some (name, named) =>
        match skip named with
        | ':' :: valued =>
          match readValue steps valued with
          | none => none
          | some (value, rest) =>
            match skip rest with
            | '\x7d' :: after => some ([(name, value)], after)
            | ',' :: more =>
              (readMembers steps more).map fun (members, after) => ((name, value) :: members, after)
            | _ => none
        | _ => none
    | _ => none

end

theorem skip_append {blanks : List Char} (spaces : ∀ char ∈ blanks, isSpace char = true)
    (text : List Char) : skip (blanks ++ text) = skip text :=
  List.dropWhile_append_of_pos spaces

theorem skip_cons {first : Char} (solid : isSpace first = false) (rest : List Char) :
    skip (first :: rest) = first :: rest := by
  simp [skip, solid]

/-- Blanks before a value do not matter. -/
theorem readValue_blanks {blanks : List Char} (spaces : ∀ char ∈ blanks, isSpace char = true)
    (steps : Nat) (text : List Char) : readValue steps (blanks ++ text) = readValue steps text := by
  cases steps with
  | zero => rfl
  | succ steps => rw [readValue, readValue, skip_append spaces]

def read? (document : String) : Option Json :=
  match readValue (document.toList.length + 1) document.toList with
  | some (value, rest) => if (skip rest).isEmpty then some value else none
  | none => none

end LineReview.Json
