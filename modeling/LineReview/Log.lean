set_option autoImplicit false

/-! The log. An event comes from a part of the program and carries named values. A filter is a list
of directives, each of which sets a threshold for the parts whose name starts in a given way; the
directive with the longest name decides, and of two with the same name the later one. -/

namespace LineReview.Log

/-- The thresholds, the most silent first. -/
inductive Threshold where
  | off
  | error
  | warning
  | information
  | debug
  | trace
  deriving DecidableEq

namespace Threshold

def names : List (String × Threshold) := [
  ("off", .off), ("error", .error), ("warn", .warning), ("info", .information), ("debug", .debug),
  ("trace", .trace)]

def place : Threshold → Nat
  | .off => 0
  | .error => 1
  | .warning => 2
  | .information => 3
  | .debug => 4
  | .trace => 5

/-- The number that digits spell, which a plus sign may precede. -/
def number? (text : List Char) : Option Nat :=
  let digits := match text with
    | '+' :: rest => rest
    | digits => digits
  if digits.isEmpty || !digits.all Char.isDigit then none
  else some (digits.foldl (fun value digit => 10 * value + (digit.toNat - '0'.toNat)) 0)

/-- Reads a threshold: its name in any letter case, or its place. -/
def parse? (text : List Char) : Option Threshold :=
  match number? text with
  | some place => (names.find? fun entry => entry.2.place == place).map Prod.snd
  | none => (names.find? fun entry => entry.1.toList == text.map Char.toLower).map Prod.snd

end Threshold

/-- A threshold for the parts of the program whose name starts with the given characters. -/
structure Directive where
  source : List Char
  threshold : Threshold
  deriving DecidableEq

def Directive.isStart (char : Char) : Bool :=
  char.isAlphanum || ['-', ':', '_'].contains char || 0x80 ≤ char.toNat

/-- Reads a directive: a threshold for all parts, a name that lets everything through, or both with
an equals sign between them. -/
def Directive.parse? (text : List Char) : Option Directive :=
  match text with
  | [] => none
  | first :: _ =>
    if !Directive.isStart first || text.contains '[' then none
    else
      let source := text.takeWhile (· != '=')
      match text.dropWhile (· != '=') with
      | [] =>
        match Threshold.parse? source with
        | some threshold => some { source := [], threshold }
        | none => some { source, threshold := .trace }
      | [_] => some { source, threshold := .trace }
      | _ :: threshold => (Threshold.parse? threshold).map fun threshold => { source, threshold }

structure Filter where
  directives : List Directive
  deriving DecidableEq

namespace Filter

def quiet : Filter where
  directives := []

def usual : Filter where
  directives := [{ source := "decode".toList, threshold := .warning }]

def verbose : Filter where
  directives := [{ source := "decode".toList, threshold := .debug }]

def parse? (text : String) : Option Filter :=
  let parts := (text.toList.splitOn ',').filter fun part => !part.isEmpty
  (parts.mapM Directive.parse?).map fun directives => { directives }

/-- The filter of a run: full if that is asked for, otherwise as the variable of the environment
says. -/
def choose (full : Bool) (setting : Option String) : Filter :=
  if full then .verbose else (setting.bind parse?).getD .usual

/-- The directive that decides about a part of the program, where a later one comes before an
earlier one of the same length. -/
def deciding? (filter : Filter) (source : String) : Option Directive :=
  filter.directives.foldl
    (fun best directive =>
      if directive.source.isPrefixOf source.toList then
        match best with
        | some chosen =>
          if chosen.source.length ≤ directive.source.length then some directive else best
        | none => some directive
      else best)
    none

end Filter

inductive Level where
  | warning
  | debug
  deriving DecidableEq

namespace Level

def word : Level → String
  | .warning => "WARN"
  | .debug => "DEBUG"

/-- The most silent threshold that lets events of the level through. -/
def threshold : Level → Threshold
  | .warning => .warning
  | .debug => .debug

end Level

structure Event where
  level : Level
  /-- The part of the program that the event comes from. -/
  source : String
  message : String
  fields : List (String × String)
  deriving DecidableEq

/-- The line of an event, without the time. -/
def Event.line (event : Event) : String :=
  event.level.word ++ " " ++ event.message ++
    String.join (event.fields.map fun field => " " ++ field.1 ++ "=" ++ field.2)

def Filter.shows (filter : Filter) (event : Event) : Bool :=
  match filter.deciding? event.source with
  | some directive => event.level.threshold.place ≤ directive.threshold.place
  | none => false

end LineReview.Log
