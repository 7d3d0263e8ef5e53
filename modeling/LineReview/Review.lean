import LineReview.Catalogue
import LineReview.Finding
import LineReview.Language
import LineReview.Rule
import LineReview.Text.LetterCase
import LineReview.Text.Line

set_option autoImplicit false

namespace LineReview

inductive Rating where
  | excellent
  | good
  | fair
  | poor
  deriving DecidableEq

namespace Rating

/-- Every rating, best first. -/
def all : List Rating := [.excellent, .good, .fair, .poor]

def tag : Rating → String
  | .excellent => "excellent"
  | .good => "good"
  | .fair => "fair"
  | .poor => "poor"

/-- The place of a rating, counted from the best. -/
def place : Rating → Nat
  | .excellent => 0
  | .good => 1
  | .fair => 2
  | .poor => 3

def isWorseThan (rating threshold : Rating) : Bool :=
  threshold.place < rating.place

/-- Reads a name, whatever its case. -/
def parse? (name : String) : Option Rating :=
  all.find? fun rating => rating.tag.toList == Text.lower name.toList

def ofTag? (text : String) : Option Rating :=
  all.find? fun rating => rating.tag == text

def unknown (name : String) : String :=
  "unknown quality: " ++ name

/-- The number of findings of each kind. -/
structure Tally where
  errors : Nat
  warnings : Nat
  suggestions : Nat
  deriving DecidableEq

def Tally.ofFindings (findings : List Finding) : Tally where
  errors := findings.countP fun finding => finding.kind == .error
  warnings := findings.countP fun finding => finding.kind == .warning
  suggestions := findings.countP fun finding => finding.kind == .suggestion

/-- The rating that the numbers of findings earn: the best one whose bounds they keep. The bound on
suggestions is dropped from `fair` on. -/
def ofTally (tally : Tally) : Rating :=
  if tally.errors = 0 ∧ tally.warnings = 0 ∧ tally.suggestions ≤ 1 then .excellent
  else if tally.errors = 0 ∧ tally.warnings ≤ 2 ∧ tally.suggestions ≤ 3 then .good
  else if tally.errors ≤ 1 ∧ tally.warnings ≤ 4 then .fair
  else .poor

def ofFindings (findings : List Finding) : Rating :=
  ofTally (Tally.ofFindings findings)

theorem ofTag?_tag (rating : Rating) : ofTag? rating.tag = some rating := by
  cases rating <;> rfl

end Rating

/-- What advice is given on. -/
structure Evidence where
  language : Language
  findings : List Finding
  notes : List Note

namespace Evidence

/-- Some finding has the word in its message. -/
def mentions (evidence : Evidence) (word : String) : Bool :=
  evidence.findings.any fun finding => Text.contains word.toList finding.message.toList

end Evidence

/-- A remark and the condition under which it is made. -/
structure Remark where
  text : String
  applies : Evidence → Bool

namespace Remark

def modernDeclarations : Remark where
  text := "Modernize variable declarations by using let and const instead of var"
  applies := fun evidence => evidence.mentions "var"

def productionLogging : Remark where
  text := "Remove console statements and implement proper logging for production"
  applies := fun evidence => evidence.mentions "console"

def strictEquality : Remark where
  text := "Use strict equality (===) to avoid type coercion issues"
  applies := fun evidence => evidence.mentions "equality"

def explicitSemicolons : Remark where
  text := "Add explicit semicolons for better code clarity and consistency"
  applies := fun evidence => evidence.mentions "semicolon"

def nullChecks : Remark where
  text := "Add null checks or use optional chaining to prevent runtime errors"
  applies := fun evidence => evidence.mentions "null"

def goodStructure : Remark where
  text := "Good code structure detected with proper use of functions and control flow"
  applies := fun evidence => !evidence.notes.isEmpty

def noIssues : Remark where
  text := "Excellent code quality! No issues detected - keep up the good work"
  applies := fun evidence => evidence.findings.isEmpty

def directIteration : Remark where
  text := "Use more Pythonic iteration patterns for better performance and readability"
  applies := fun evidence => evidence.language == .python && evidence.mentions "range(len"

def openMarkers : Remark where
  text := "Address TODO comments and incomplete code sections"
  applies := fun evidence => evidence.mentions "TODO"

def all : List Remark := [
  modernDeclarations, productionLogging, strictEquality, explicitSemicolons, nullChecks,
  goodStructure, noIssues, directIteration, openMarkers]

end Remark

/-- The remarks that apply, in order. -/
def Evidence.advice (evidence : Evidence) : List String :=
  (Remark.all.filter fun remark => remark.applies evidence).map Remark.text

structure Review where
  findings : List Finding
  repairs : List Repair
  notes : List Note
  rating : Rating
  advice : List String
  deriving DecidableEq

namespace Review

def maxNotes : Nat := 15

/-- The trimmed lines of a text with their numbers. -/
def numberedLines (text : String) : List (Line × Nat) :=
  ((Line.ofText text).map Line.trimmed).zipIdx 1

/-- What the rules of the language report on one line, in the order of the rules. -/
def checkLine (language : Language) (numbered : Line × Nat) : List (Finding × Option Repair) :=
  (Rule.applicable language).filterMap fun rule => rule.check numbered.2 numbered.1

def checks (text : String) (language : Language) : List (Finding × Option Repair) :=
  (numberedLines text).flatMap (checkLine language)

def notesOnLine (numbered : Line × Nat) : List Note :=
  if numbered.1.isExplainable then Topic.notesOn numbered.2 numbered.1 else []

/-- The notes on a text, as far as they are kept. -/
def notesOn (text : String) : List Note :=
  ((numberedLines text).flatMap notesOnLine).take maxNotes

def ofText (text : String) (language : Language) : Review :=
  let reports := checks text language
  let findings := reports.map Prod.fst
  let notes := notesOn text
  { findings
    repairs := reports.filterMap Prod.snd
    notes
    rating := Rating.ofFindings findings
    advice := Evidence.advice { language, findings, notes } }

def findingFor? (review : Review) (repair : Repair) : Option Finding :=
  review.findings.find? fun finding => finding.id == repair.findingId

def count (review : Review) (kind : FindingKind) : Nat :=
  review.findings.countP fun finding => finding.kind == kind

end Review

end LineReview
