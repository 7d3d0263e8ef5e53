import LineReview.Finding
import LineReview.Language
import LineReview.Text.Line

set_option autoImplicit false

namespace LineReview

/-- The declared languages a rule runs for. -/
inductive Scope where
  | script
  | python
  | everywhere
  deriving DecidableEq

namespace Scope

def covers : Scope → Language → Bool
  | .script, language => language.isScript
  | .python, language => language == .python
  | .everywhere, _ => true

def label : Scope → String
  | .script => "javascript, typescript"
  | .python => "python"
  | .everywhere => "all languages"

end Scope

/-- The wording of a repair and the replacement it proposes for a flagged line. -/
structure RepairTemplate where
  title : String
  description : String
  explanation : String
  /-- The proposed line, from the flagged one. -/
  replacement : Line → Line

structure Rule where
  id : String
  title : String
  scope : Scope
  kind : FindingKind
  severity : Severity
  message : String
  description : String
  /-- The lines that the rule finds fault with. -/
  flags : Line → Bool
  template : Option RepairTemplate

namespace Rule

def findingAt (rule : Rule) (number : Nat) : Finding where
  id := Finding.idFor number rule.id
  line := number
  kind := rule.kind
  message := rule.message
  description := rule.description
  severity := rule.severity

/-- The repair of a line of the given number by a template of the rule. -/
def repairAt (rule : Rule) (template : RepairTemplate) (number : Nat) (line : Line) : Repair where
  id := Repair.idFor (Finding.idFor number rule.id)
  findingId := Finding.idFor number rule.id
  title := template.title
  description := template.description
  code := String.ofList (template.replacement line)
  explanation := template.explanation

/-- The finding on a flagged line, with its repair where the rule has a template. -/
def check (rule : Rule) (number : Nat) (line : Line) : Option (Finding × Option Repair) :=
  if rule.flags line then
    some (rule.findingAt number, rule.template.map fun template =>
      rule.repairAt template number line)
  else none

end Rule

end LineReview

namespace LineReview.Line

/-- The characters of an identifier: the ASCII letters and digits and the underscore. -/
def isWord (char : Char) : Bool :=
  char.isAlphanum || char == '_'

/-- The identifier at the start of a line that has a point right after it, and what follows the
point. -/
def memberAccess? (line : Line) : Option (Line × Line) :=
  match line.takeWhile isWord, line.dropWhile isWord with
  | name@(_ :: _), '.' :: rest => some (name, rest)
  | _, _ => none

/-- The line with a question mark before the point of its leftmost member access, if it has one. -/
def chainOptionally : Line → Line
  | [] => []
  | first :: rest =>
    match memberAccess? (first :: rest) with
    | some (name, after) => name ++ ['?', '.'] ++ after
    | none => first :: chainOptionally rest

end LineReview.Line

namespace LineReview

/-- A non-empty line that neither ends in a semicolon or a brace nor is a comment nor holds a word
that opens a block. -/
def Line.lacksSemicolon (line : Line) : Bool :=
  !line.isEmpty && !";".toList.isSuffixOf line && !(['\x7b'].isSuffixOf line) &&
    !(['\x7d'].isSuffixOf line) &&
    !"//".toList.isPrefixOf line &&
    !Text.contains "if".toList line && !Text.contains "for".toList line &&
    !Text.contains "while".toList line && !Text.contains "function".toList line

namespace Rule

/-- The most UTF-16 code units a line may have. -/
def maxUnits : Nat := 120

def varKeyword : Rule where
  id := "var"
  title := "var usage"
  scope := .script
  kind := .warning
  severity := .medium
  message := "Use of \"var\" keyword"
  description :=
    "The \"var\" keyword has function scope and can lead to hoisting issues, temporal dead zones, and unexpected behavior. Modern JavaScript prefers \"let\" for variables that need reassignment and \"const\" for constants."
  flags := Text.contains "var ".toList
  template := some {
    title := "Replace var with let/const"
    description :=
      "Use \"const\" for values that won't be reassigned, or \"let\" for variables that will be modified. This provides better scoping and prevents common errors."
    explanation :=
      "Block-scoped declarations (let/const) are safer than function-scoped var declarations and help prevent bugs related to variable hoisting and scope confusion."
    replacement := Text.replaceFirst "var ".toList "const ".toList }

def looseEquality : Rule where
  id := "equality"
  title := "loose equality"
  scope := .script
  kind := .warning
  severity := .medium
  message := "Use of loose equality (==)"
  description :=
    "Loose equality (==) performs type coercion which can lead to unexpected results. For example, \"0\" == 0 is true, but \"0\" === 0 is false. Always use strict equality (===) unless you specifically need type coercion."
  flags := fun line => Text.contains "==".toList line && !Text.contains "===".toList line
  template := some {
    title := "Use strict equality"
    description :=
      "Strict equality (===) compares both value and type, preventing unexpected type conversions."
    explanation :=
      "This ensures that comparisons are predictable and don't rely on JavaScript's sometimes confusing type coercion rules."
    replacement := Text.replaceAll "==".toList "===".toList }

def consoleCall : Rule where
  id := "console"
  title := "debug print"
  scope := .script
  kind := .suggestion
  severity := .low
  message := "Console statement in code"
  description :=
    "Console statements should be removed before production deployment as they can expose sensitive information and impact performance."
  flags := Text.contains "console.log".toList
  template := some {
    title := "Remove console statement"
    description :=
      "Remove or replace with proper logging mechanism."
    explanation :=
      "Use a proper logging library in production or remove debug statements entirely."
    replacement := fun line => "// ".toList ++ line ++ " // TODO: Remove debug statement".toList }

/-- Statements that do not end in a semicolon. The words that excuse a line count as characters, so
that an identifier that holds one of them excuses it too. -/
def missingSemicolon : Rule where
  id := "semicolon"
  title := "missing semicolon"
  scope := .script
  kind := .suggestion
  severity := .low
  message := "Missing semicolon"
  description :=
    "While JavaScript has automatic semicolon insertion, it's better to be explicit to avoid potential issues."
  flags := Line.lacksSemicolon
  template := some {
    title := "Add semicolon"
    description :=
      "Add explicit semicolon for better code clarity."
    explanation :=
      "Explicit semicolons make your code more predictable and prevent issues with automatic semicolon insertion."
    replacement := fun line => line ++ [';'] }

/-- Members taken of a document query without a check. -/
def uncheckedQuery : Rule where
  id := "null-check"
  title := "unchecked DOM access"
  scope := .script
  kind := .warning
  severity := .medium
  message := "Potential null reference"
  description :=
    "DOM queries can return null. Consider adding null checks or using optional chaining."
  flags := fun line =>
    line.contains '.' && !Text.contains "?.".toList line &&
      (Text.contains "getElementById".toList line || Text.contains "querySelector".toList line)
  template := some {
    title := "Add null check"
    description :=
      "Use optional chaining or explicit null checking."
    explanation :=
      "Optional chaining (?.) safely accesses nested properties even if the reference is null or undefined."
    replacement := Line.chainOptionally }

def printCall : Rule where
  id := "print"
  title := "print usage"
  scope := .python
  kind := .suggestion
  severity := .low
  message := "Print statement in code"
  description :=
    "Print statements should be replaced with proper logging for production code. The logging module provides better control over output levels and destinations."
  flags := fun line => Text.contains "print(".toList line && !line.contains '#'
  template := some {
    title := "Use logging instead of print"
    description :=
      "Replace print with logging for better production readiness."
    explanation :=
      "The logging module allows you to control log levels and output destinations, making it more suitable for production applications."
    replacement := Text.replaceFirst "print(".toList "logging.info(".toList }

def missingTypeHints : Rule where
  id := "type-hints"
  title := "missing type hints"
  scope := .python
  kind := .suggestion
  severity := .low
  message := "Missing type hints"
  description :=
    "Type hints improve code readability and help catch errors early. Consider adding parameter and return type annotations."
  flags := fun line =>
    "def ".toList.isPrefixOf line && !Text.contains "->".toList line && !line.contains ':'
  template := none

def indexIteration : Rule where
  id := "inefficient-iteration"
  title := "index-based iteration"
  scope := .python
  kind := .warning
  severity := .medium
  message := "Inefficient iteration pattern"
  description :=
    "Using range(len()) is less Pythonic and less efficient than direct iteration."
  flags := fun line => Text.contains "range(len(".toList line && Text.contains "))".toList line
  template := some {
    title := "Use direct iteration"
    description :=
      "Iterate directly over the collection instead of using indices."
    explanation :=
      "Direct iteration is more readable, less error-prone, and often more efficient in Python."
    replacement := fun _ =>
      "# Use: for item in collection: instead of for i in range(len(collection)):".toList }

def markerComment : Rule where
  id := "todo"
  title := "marker comments"
  scope := .everywhere
  kind := .suggestion
  severity := .low
  message := "TODO/FIXME comment found"
  description :=
    "This line contains a TODO, FIXME, or HACK comment indicating incomplete or problematic code."
  flags := fun line =>
    Text.contains "TODO".toList line || Text.contains "FIXME".toList line ||
      Text.contains "HACK".toList line
  template := none

def longLine : Rule where
  id := "long-line"
  title := "line length"
  scope := .everywhere
  kind := .suggestion
  severity := .low
  message := "Line too long"
  description :=
    "This line exceeds 120 characters. Consider breaking it into multiple lines for better readability."
  flags := fun line => maxUnits < line.units16
  template := none

def all : List Rule := [
  varKeyword, looseEquality, consoleCall, missingSemicolon, uncheckedQuery,
  printCall, missingTypeHints, indexIteration, markerComment, longLine]

def find? (id : String) : Option Rule :=
  all.find? fun rule => rule.id == id

def applicable (language : Language) : List Rule :=
  all.filter fun rule => rule.scope.covers language

end Rule

end LineReview
