import LineReview.Text.Line
import LineReview.Yaml.Quoted

set_option autoImplicit false

namespace LineReview.Yaml

/-- The characters that separate values inside brackets and braces. -/
def isFlowMark (char : Char) : Bool :=
  char == ',' || char == '[' || char == ']' || char == '\x7b' || char == '\x7d'

/-- A plain scalar may start here: not with a character that has a meaning of its own, unless it is
a hyphen, a question mark or a colon with something right after it. -/
def startsPlain : List Char → Bool
  | [] => false
  | char :: rest =>
    if char == '-' || char == '?' || char == ':' then !startsGap rest
    else !startsGap [char] && !isFlowMark char &&
      !(['#', '&', '*', '!', '|', '>', '\'', '"', '%', '@', '\x60'].contains char)

/-- The text without the comments, blanks and line ends before its next character. -/
def skipFlow : Bool → List Char → List Char
  | _, [] => []
  | true, char :: rest => skipFlow (char != '\n') rest
  | false, char :: rest =>
    if isGap char || char == '\n' then skipFlow false rest
    else if char == '#' then skipFlow true rest
    else char :: rest

/-- The characters of a plain scalar inside brackets up to its end, and what follows; a colon right
before a bracket, a brace or a comma is an error. The flag tells whether the character before was a
blank. -/
def readFlowPlain : Bool → List Char → Option (List Char × List Char)
  | _, [] => some ([], [])
  | afterGap, char :: rest =>
    if char == '\n' || isFlowMark char || (char == '#' && afterGap) ||
      (char == ':' && startsGap rest) then
      some ([], char :: rest)
    else if char == ':' && (rest.head?.any fun next => isFlowMark next || next == '?') then none
    else (readFlowPlain (isGap char) rest).map fun (content, after) => (char :: content, after)

def readFlowScalar (text : List Char) : Option (Yaml × List Char) :=
  if startsQuoted text then readQuoted text
  else if startsPlain text then
    (readFlowPlain false text).map fun (content, after) =>
      (.plain (String.ofList (Text.trimEnd isGap content)), after)
  else none

mutual

/-- A value inside brackets, found in a number of steps. -/
def readFlow : Nat → List Char → Option (Yaml × List Char)
  | 0, _ => none
  | steps + 1, text =>
    match text with
    | '[' :: rest => (readFlowItems steps (skipFlow false rest)).map fun (items, after) =>
        (.sequence items, after)
    | '\x7b' :: rest => (readFlowEntries steps (skipFlow false rest)).map fun (entries, after) =>
        (.mapping entries, after)
    | start => readFlowScalar start

/-- A value inside brackets, or nothing where none stands. -/
def readFlowOptional : Nat → List Char → Option (Yaml × List Char)
  | 0, _ => none
  | steps + 1, text =>
    match text with
    | ',' :: _ | ']' :: _ | '\x7d' :: _ | ':' :: _ => some (absent, text)
    | start => readFlow steps start

/-- A value with the value that a colon after it gives it, if there is a colon. -/
def readFlowPair : Nat → List Char → Option ((Yaml × Option Yaml) × List Char)
  | 0, _ => none
  | steps + 1, text =>
    match readFlowOptional steps text with
    | none => none
    | some (key, rest) =>
      match skipFlow false rest with
      | ':' :: after => (readFlowOptional steps (skipFlow false after)).map fun (value, behind) =>
          ((key, some value), behind)
      | after => some ((key, none), after)

def readFlowItems : Nat → List Char → Option (List Yaml × List Char)
  | 0, _ => none
  | steps + 1, text =>
    match text with
    | ']' :: rest => some ([], rest)
    | ',' :: _ => none
    | start =>
      match readFlowPair steps start with
      | none => none
      | some ((key, value), rest) =>
        let item := value.elim key fun value => .mapping [(key, value)]
        match skipFlow false rest with
        | ',' :: more => (readFlowItems steps (skipFlow false more)).map fun (items, after) =>
            (item :: items, after)
        | ']' :: after => some ([item], after)
        | _ => none

def readFlowEntries : Nat → List Char → Option (List (Yaml × Yaml) × List Char)
  | 0, _ => none
  | steps + 1, text =>
    match text with
    | '\x7d' :: rest => some ([], rest)
    | ',' :: _ => none
    | start =>
      match readFlowPair steps start with
      | none => none
      | some ((key, value), rest) =>
        let entry := (key, value.getD absent)
        match skipFlow false rest with
        | ',' :: more => (readFlowEntries steps (skipFlow false more)).map fun (entries, after) =>
            (entry :: entries, after)
        | '\x7d' :: after => some ([entry], after)
        | _ => none

end

end LineReview.Yaml
