import LineReview.Text.Line
import LineReview.Yaml.Flow

set_option autoImplicit false

namespace LineReview.Yaml

def indentOf (line : List Char) : Nat :=
  (line.takeWhile (· == ' ')).length

def contentOf (line : List Char) : List Char :=
  line.dropWhile (· == ' ')

/-- The line has no content: nothing, or a comment. -/
def isVoid (line : List Char) : Bool :=
  match contentOf line with
  | [] => true
  | char :: _ => char == '#'

/-- The lines of a text that have content; a line ends with a line feed, a carriage return or
both. -/
def contentLines (text : List Char) : List (List Char) :=
  let unified := Text.replaceAll ['\r', '\n'] ['\n'] text
  ((unified.map fun char => if char == '\r' then '\n' else char).splitOn '\n').filter (!isVoid ·)

/-- The line is a mark of three equal characters. -/
def isMark (mark : Char) (line : List Char) : Bool :=
  [mark, mark, mark].isPrefixOf line && startsGap (line.drop 3)

def startsItem : List Char → Bool
  | '-' :: rest => startsGap rest
  | _ => false

/-- The characters up to a colon that has a blank or nothing after it, and what follows the colon. A
comment ends the search. The flag tells whether the character before was a blank. -/
def splitAtColon : Bool → List Char → Option (List Char × List Char)
  | _, [] => none
  | afterGap, char :: rest =>
    if char == ':' && startsGap rest then some ([], rest)
    else if char == '#' && afterGap then none
    else (splitAtColon (isGap char) rest).map fun (before, after) => (char :: before, after)

/-- The key at the start of a content, and what follows its colon. -/
def splitKey (content : List Char) : Option (Yaml × List Char) :=
  if startsQuoted content then
    match readQuoted content with
    | some (key, rest) =>
      match rest.dropWhile isGap with
      | ':' :: after => if startsGap after then some (key, after) else none
      | _ => none
    | none => none
  else if startsPlain content || content.head? == some ':' then
    (splitAtColon false content).map fun (key, after) =>
      (.plain (String.ofList (Text.trimEnd isGap key)), after)
  else none

/-- The characters of a plain scalar on its line, and whether a comment follows them. -/
def plainOnLine : Bool → List Char → List Char × Bool
  | _, [] => ([], false)
  | afterGap, char :: rest =>
    if char == '#' && afterGap then ([], true)
    else
      let (content, commented) := plainOnLine (isGap char) rest
      (char :: content, commented)

/-- A plain scalar from a line and the deeper lines after it, which continue it with a space each,
and the lines left. Lines of blanks at its end do not count. A colon that would open a value is an
error. -/
def readPlain (least : Nat) (content : List Char) (rest : List (List Char)) :
    Option (List Char × List (List Char)) :=
  let (text, commented) := plainOnLine true content
  if (splitAtColon true content).isSome then none
  else
    match rest with
    | [] => some (Text.trimEnd isGap text, [])
    | next :: others =>
      if commented || indentOf next < least || isMark '-' next || isMark '.' next then
        some (Text.trimEnd isGap text, rest)
      else
        (readPlain least ((contentOf next).dropWhile isGap) others).map fun (more, left) =>
          (Text.trimEnd isGap text ++ (if more.isEmpty then [] else ' ' :: more), left)

/-- The lines after a value that ended inside the first of some lines joined, if nothing but a
comment follows it there. -/
def afterValue (joined : List Char) : Option (List (List Char)) :=
  match joined.splitOn '\n' with
  | [] => some []
  | line :: rest => if isRemark line then some rest else none

/-- A value that starts on a line and is no mapping or sequence of lines, and the lines left. -/
def readInline (least : Nat) (content : List Char) (rest : List (List Char)) :
    Option (Yaml × List (List Char)) :=
  if startsQuoted content then do
    let (value, after) ← readQuoted content
    if isRemark after then some (value, rest) else none
  else if content.head? == some '[' || content.head? == some '\x7b' then do
    let joined := ['\n'].intercalate (content :: rest)
    let (value, after) ← readFlow (joined.length + 1) joined
    let left ← afterValue after
    return (value, left)
  else if startsPlain content then do
    let (text, left) ← readPlain least content rest
    return (.plain (String.ofList text), left)
  else none

mutual

/-- The value on lines indented by at least a number of spaces, found in a number of steps. -/
def readNode : Nat → Nat → List (List Char) → Option (Yaml × List (List Char))
  | 0, _, _ => none
  | steps + 1, least, lines =>
    match lines with
    | [] => some (absent, [])
    | line :: rest =>
      let indent := indentOf line
      if indent < least then some (absent, lines)
      else if startsItem (contentOf line) then
        (readItems steps indent lines).map fun (items, left) => (.sequence items, left)
      else if (splitKey (contentOf line)).isSome then
        (readEntries steps indent lines).map fun (entries, left) => (.mapping entries, left)
      else readInline least (contentOf line) rest

/-- The items of a sequence indented by a number of spaces. An item's content counts as indented by
the hyphen too. -/
def readItems : Nat → Nat → List (List Char) → Option (List Yaml × List (List Char))
  | 0, _, _ => none
  | steps + 1, indent, lines =>
    match lines with
    | [] => some ([], [])
    | line :: rest =>
      if indentOf line < indent then some ([], lines)
      else if indent < indentOf line then none
      else if !startsItem (contentOf line) then some ([], lines)
      else
        let opened := List.replicate (indent + 1) ' ' ++ (contentOf line).drop 1
        match readNode steps (indent + 1) (if isVoid opened then rest else opened :: rest) with
        | none => none
        | some (item, left) =>
          (readItems steps indent left).map fun (items, others) => (item :: items, others)

def readEntries :
    Nat → Nat → List (List Char) → Option (List (Yaml × Yaml) × List (List Char))
  | 0, _, _ => none
  | steps + 1, indent, lines =>
    match lines with
    | [] => some ([], [])
    | line :: rest =>
      if indentOf line < indent then some ([], lines)
      else if indent < indentOf line || isMark '-' line || isMark '.' line then
        if indent < indentOf line then none else some ([], lines)
      else
        match splitKey (contentOf line) with
        | none => none
        | some (key, after) =>
          match readValue steps indent after rest with
          | none => none
          | some (value, left) =>
            (readEntries steps indent left).map fun (entries, others) =>
              ((key, value) :: entries, others)

/-- The value of an entry whose key has some indentation: on the key's line, or else on deeper
lines, or else a sequence that is not deeper, or else nothing. -/
def readValue : Nat → Nat → List Char → List (List Char) → Option (Yaml × List (List Char))
  | 0, _, _, _ => none
  | steps + 1, indent, after, rest =>
    if !isRemark after then readInline (indent + 1) (after.dropWhile isGap) rest
    else
      match rest with
      | [] => some (absent, [])
      | next :: _ =>
        if indentOf next == indent && startsItem (contentOf next) then
          (readItems steps indent rest).map fun (items, left) => (.sequence items, left)
        else readNode steps (indent + 1) rest

end

/-- The lines of the first document after the mark that may open it, with what stands behind the
mark on its line. -/
def openDocument (lines : List (List Char)) : List (List Char) × Option (List Char) :=
  match lines with
  | line :: rest =>
    if isMark '-' line then
      if isRemark (line.drop 3) then (rest, none) else (rest, some ((line.drop 3).dropWhile isGap))
    else (lines, none)
  | [] => ([], none)

/-- The lines after a document are none, or a mark that ends it and nothing more. -/
def isEnd : List (List Char) → Bool
  | [] => true
  | line :: rest => isMark '.' line && isRemark (line.drop 3) && rest.all (isMark '.')

/-- The value of a text that holds one document at most. -/
def read? (text : String) : Option Yaml :=
  let chars := text.toList.dropWhile (· == '\uFEFF')
  if chars.all isAllowed then
    match openDocument (contentLines chars) with
    | (lines, none) =>
      if lines.head?.any fun line => isMark '-' line || isMark '.' line then
        if isEnd lines then some absent else none
      else
        match readNode (2 * chars.length + 4) 0 lines with
        | some (value, left) => if isEnd left then some value else none
        | none => none
    | (lines, some content) =>
      match readInline 0 content lines with
      | some (value, left) => if isEnd left then some value else none
      | none => none
  else none

end LineReview.Yaml
