set_option autoImplicit false

namespace LineReview

/-- How serious a finding is meant to be taken. -/
inductive FindingKind where
  | error
  | warning
  | suggestion
  deriving DecidableEq

namespace FindingKind

def all : List FindingKind := [.error, .warning, .suggestion]

def tag : FindingKind → String
  | .error => "error"
  | .warning => "warning"
  | .suggestion => "suggestion"

/-- The kind with exactly this name. -/
def ofTag? (text : String) : Option FindingKind :=
  all.find? fun kind => kind.tag == text

theorem ofTag?_tag (kind : FindingKind) : ofTag? kind.tag = some kind := by
  cases kind <;> rfl

end FindingKind

/-- How much harm a finding may do. -/
inductive Severity where
  | high
  | medium
  | low
  deriving DecidableEq

namespace Severity

def all : List Severity := [.high, .medium, .low]

def tag : Severity → String
  | .high => "high"
  | .medium => "medium"
  | .low => "low"

def ofTag? (text : String) : Option Severity :=
  all.find? fun severity => severity.tag == text

theorem ofTag?_tag (severity : Severity) : ofTag? severity.tag = some severity := by
  cases severity <;> rfl

end Severity

/-- An issue on one line. -/
structure Finding where
  id : String
  /-- The line, counted from one. -/
  line : Nat
  kind : FindingKind
  message : String
  description : String
  severity : Severity
  deriving DecidableEq

/-- A replacement proposed for the line of a finding. -/
structure Repair where
  id : String
  /-- The identifier of the finding that the repair is for. -/
  findingId : String
  title : String
  description : String
  /-- The proposed line. -/
  code : String
  explanation : String
  deriving DecidableEq

/-- An explanation of a construct recognised on one line. -/
structure Note where
  id : String
  /-- The line, counted from one. -/
  line : Nat
  /-- The line explained. -/
  code : String
  explanation : String
  concepts : List String
  deriving DecidableEq

namespace Finding

def idFor (line : Nat) (rule : String) : String :=
  "bug-" ++ toString line ++ "-" ++ rule

def after? (mark : Char) (text : List Char) : Option (List Char) :=
  match text.dropWhile (· != mark) with
  | [] => none
  | _ :: rest => some rest

/-- The rule of a finding, read off its identifier: what follows the hyphen after the line. -/
def rule? (finding : Finding) : Option String :=
  let opening := "bug-".toList
  if opening.isPrefixOf finding.id.toList then
    (after? '-' (finding.id.toList.drop opening.length)).map String.ofList
  else none

end Finding

def Repair.idFor (findingId : String) : String :=
  "fix-" ++ findingId

def Note.idFor (line : Nat) (topic : String) : String :=
  "explanation-" ++ toString line ++ "-" ++ topic

end LineReview
