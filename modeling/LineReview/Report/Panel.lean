import LineReview.Report.Document
import LineReview.Text.Line

set_option autoImplicit false

namespace LineReview

inductive Colour where
  | red
  | green
  | yellow
  | blue
  | magenta
  | cyan
  deriving DecidableEq

/-- The number that selects a colour for the foreground. -/
def Colour.code : Colour → String
  | .red => "31"
  | .green => "32"
  | .yellow => "33"
  | .blue => "34"
  | .magenta => "35"
  | .cyan => "36"

inductive Style where
  | bold
  | dimmed
  | colour (foreground : Colour)
  | boldColour (foreground : Colour)
  deriving DecidableEq

def Style.codes : Style → String
  | .bold => "1"
  | .dimmed => "2"
  | .colour foreground => foreground.code
  | .boldColour foreground => "1;" ++ foreground.code

/-- A sequence that changes how a terminal shows what follows. -/
def Style.escape (codes : String) : List Char :=
  ['\x1b', '['] ++ codes.toList ++ ['m']

/-- The sequence that ends every style. -/
def Style.reset : List Char :=
  Style.escape "0"

/-- A piece of text, with its style if it has one. -/
structure Piece where
  style : Option Style
  text : String

namespace Piece

def plain (text : String) : Piece where
  style := none
  text

/-- The characters of a piece, with or without colours. -/
def render (coloured : Bool) (piece : Piece) : List Char :=
  match piece.style with
  | some style =>
    if coloured then
      Style.escape style.codes ++
        Text.replaceAll Style.reset (Style.reset ++ Style.escape style.codes) piece.text.toList ++
        Style.reset
    else piece.text.toList
  | none => piece.text.toList

def renderAll (coloured : Bool) (pieces : List Piece) : String :=
  String.ofList (pieces.flatMap (render coloured))

end Piece

def Style.paint (style : Style) (text : String) : Piece where
  style := some style
  text

end LineReview

namespace LineReview.Panel

open Piece (plain)

/-- A text followed by spaces up to a width. -/
def padTo (width : Nat) (text : String) : String :=
  text ++ String.ofList (List.replicate (width - text.length) ' ')

/-- A line number as panels show it. -/
def lineTag (line : Nat) : Piece :=
  Style.dimmed.paint ("line " ++ padTo 4 (toString line))

/-- The program, the path and the language. -/
def header (path : String) (language : Language) : List Piece := [
  plain "\n  ", (Style.boldColour .cyan).paint Program.name,
    plain (" v" ++ Program.version ++ "\n\n"),
  plain "  ", Style.dimmed.paint "Source:   ", plain (path ++ "\n"),
  plain "  ", Style.dimmed.paint "Language: ", plain (language.label ++ "\n\n")]

def ratingStyle : Rating → Style
  | .excellent => .boldColour .green
  | .good => .colour .blue
  | .fair => .colour .yellow
  | .poor => .colour .red

/-- The advice, with its heading, if there is any. -/
def adviceList : List String → List Piece
  | [] => []
  | advice =>
    [plain "\n  ", Style.bold.paint "Suggestions:", plain "\n"] ++
      advice.flatMap fun remark =>
        [plain "    ", (Style.colour .magenta).paint "•", plain (" " ++ remark ++ "\n")]

/-- The rating, the sizes of the panels, and the advice. -/
def summary (review : Review) : List Piece :=
  [plain "  Code quality: ", (ratingStyle review.rating).paint review.rating.tag, plain "  ",
    Style.dimmed.paint ("(" ++ toString review.findings.length ++ " bugs, " ++
      toString review.repairs.length ++ " fixes, " ++
      toString review.notes.length ++ " explanations)"),
    plain "\n"] ++
    adviceList review.advice ++ [plain "\n"]

/-- The heading of a panel, with the number of its entries. -/
def heading (title : String) (size : Nat) : List Piece :=
  [plain "  ", Style.bold.paint title, plain (" (" ++ toString size ++ "):\n\n")]

def kindTag : FindingKind → Piece
  | .error => (Style.colour .red).paint "ERROR"
  | .warning => (Style.colour .yellow).paint "WARN "
  | .suggestion => (Style.colour .blue).paint "HINT "

def findingEntry (finding : Finding) : List Piece := [
  plain "    ", kindTag finding.kind, plain " ", lineTag finding.line,
  plain (" " ++ finding.message ++ "  "), Style.dimmed.paint ("[" ++ finding.severity.tag ++ "]"),
  plain ("\n               " ++ finding.description ++ "\n\n")]

def findings (review : Review) : List Piece :=
  heading "Bugs" review.findings.length ++
    if review.findings.isEmpty then [
      plain "    ", (Style.colour .green).paint "No bugs detected!", plain "\n    ",
      Style.dimmed.paint "Your code looks clean.", plain "\n\n"]
    else review.findings.flatMap findingEntry

/-- The line that a repair is shown with: that of its finding, or zero if the review has no such
finding. -/
def repairLine (review : Review) (repair : Repair) : Nat :=
  (review.findingFor? repair).elim 0 Finding.line

def repairEntry (review : Review) (repair : Repair) : List Piece := [
  plain "    ", (Style.colour .green).paint repair.title, plain " ",
  Style.dimmed.paint ("(line " ++ toString (repairLine review repair) ++ ")"),
  plain ("\n      " ++ repair.description ++ "\n      "),
  (Style.colour .cyan).paint "→", plain " ", (Style.colour .cyan).paint repair.code,
  plain "\n      ", Style.dimmed.paint repair.explanation, plain "\n\n"]

def repairs (review : Review) : List Piece :=
  heading "Fixes" review.repairs.length ++
    if review.repairs.isEmpty then
      [plain "    ", (Style.colour .green).paint "No fixes needed!", plain "\n\n"]
    else review.repairs.flatMap (repairEntry review)

def noteEntry (note : Note) : List Piece := [
  plain "    ", lineTag note.line, plain " ", (Style.colour .blue).paint note.code,
  plain ("\n              " ++ note.explanation ++ "\n              "),
  (Style.colour .magenta).paint (String.intercalate " · " note.concepts), plain "\n\n"]

def notes (review : Review) : List Piece :=
  heading "Explanations" review.notes.length ++
    if review.notes.isEmpty then
      [plain "    ", Style.dimmed.paint "No explanations available", plain "\n\n"]
    else review.notes.flatMap noteEntry

def pieces (path : String) (language : Language) (review : Review) : List Piece :=
  header path language ++ summary review ++ findings review ++ repairs review ++ notes review

def render (coloured : Bool) (path : String) (language : Language) (review : Review) : String :=
  Piece.renderAll coloured (pieces path language review)

end LineReview.Panel
