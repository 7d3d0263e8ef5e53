import LineReview.Report.Document
import LineReview.Report.Panel

set_option autoImplicit false

namespace LineReview.Sarif

def level : FindingKind → String
  | .error => "error"
  | .warning => "warning"
  | .suggestion => "note"

def ruleId (finding : Finding) : String :=
  finding.rule?.getD "unknown"

/-- A description of a rule in the log. -/
structure Descriptor where
  id : String
  name : String
  short : String
  full : Option String
  level : String

/-- The place, the rule and the text of a finding in the log. -/
structure Result where
  ruleId : String
  level : String
  message : String
  uri : String
  startLine : Nat

structure Run where
  rules : List Descriptor
  results : List Result

/-- Puts a text into an increasing list, unless it is there already. -/
def insert (text : String) : List String → List String
  | [] => [text]
  | first :: rest =>
    if text < first then text :: first :: rest
    else if text = first then first :: rest
    else first :: insert text rest

/-- The texts of a list in increasing order, each once. -/
def distinct (texts : List String) : List String :=
  texts.foldr insert []

/-- The descriptor of the rule with an identifier; an identifier of no rule is described as
unknown. -/
def describe (id : String) : Descriptor :=
  match Rule.find? id with
  | some rule => {
      id
      name := rule.title
      short := rule.message
      full := some rule.description
      level := Sarif.level rule.kind }
  | none => {
      id
      name := "Unknown"
      short := "Unknown rule type"
      full := none
      level := "warning" }

/-- The path with forward slashes only. -/
def uri (path : String) : String :=
  String.ofList (path.toList.map fun char => if char = '\\' then '/' else char)

/-- The result of a finding in the file of a path; lines count from one. -/
def resultOf (path : String) (finding : Finding) : Result where
  ruleId := ruleId finding
  level := level finding.kind
  message := finding.message ++ ": " ++ finding.description
  uri := uri path
  startLine := max finding.line 1

def ofReview (path : String) (review : Review) : Run where
  rules := (distinct (review.findings.map ruleId)).map describe
  results := review.findings.map (resultOf path)

def messageObject (text : String) : Json :=
  .object [("text", .string text)]

def Descriptor.toJson (descriptor : Descriptor) : Json :=
  .object ([
    ("id", .string descriptor.id),
    ("name", .string descriptor.name),
    ("shortDescription", messageObject descriptor.short)] ++
    (descriptor.full.map fun text => ("fullDescription", messageObject text)).toList ++
    [("defaultConfiguration", .object [("level", .string descriptor.level)])])

def Result.toJson (result : Result) : Json :=
  .object [
    ("ruleId", .string result.ruleId),
    ("level", .string result.level),
    ("message", messageObject result.message),
    ("locations", .array [.object [("physicalLocation", .object [
      ("artifactLocation", .object [("uri", .string result.uri)]),
      ("region", .object [("startLine", .natural result.startLine)])])]])]

def Run.toJson (run : Run) : Json :=
  .object [
    ("version", .string "2.1.0"),
    ("$schema", .string
      "https://raw.githubusercontent.com/oasis-tcs/sarif-spec/master/Schemata/sarif-schema-2.1.0.json"),
    ("runs", .array [.object [
      ("tool", .object [("driver", .object [
        ("name", .string Program.name),
        ("version", .string Program.version),
        ("rules", .array (run.rules.map Descriptor.toJson))])]),
      ("results", .array (run.results.map Result.toJson))]])]

def render (path : String) (review : Review) : String :=
  (ofReview path review).toJson.pretty

end LineReview.Sarif

namespace LineReview

inductive ReportFormat where
  /-- Panels for people. -/
  | panel
  | json
  | sarif
  deriving DecidableEq

namespace ReportFormat

def all : List ReportFormat := [.panel, .json, .sarif]

def name : ReportFormat → String
  | .panel => "pretty"
  | .json => "json"
  | .sarif => "sarif"

def ofName? (text : String) : Option ReportFormat :=
  all.find? fun format => format.name == text

/-- The report of a review in a format. A document ends with a line feed of its own. -/
def render (format : ReportFormat) (coloured : Bool) (path : String) (language : Language)
    (review : Review) : String :=
  match format with
  | .panel => Panel.render coloured path language review
  | .json => (Report.ofReview path language review).render ++ "\n"
  | .sarif => Sarif.render path review ++ "\n"

theorem ofName?_name (format : ReportFormat) : ofName? format.name = some format := by
  cases format <;> rfl

end ReportFormat

end LineReview
