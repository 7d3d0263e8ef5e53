import LineReview.Json.Basic
import LineReview.Json.Reader
import LineReview.Review

set_option autoImplicit false

namespace LineReview.Program

def name : String := "decode"

def version : String := "0.1.0"

end LineReview.Program

namespace LineReview

def Finding.toJson (finding : Finding) : Json :=
  .object [
    ("id", .string finding.id),
    ("line", .natural finding.line),
    ("type", .string finding.kind.tag),
    ("message", .string finding.message),
    ("description", .string finding.description),
    ("severity", .string finding.severity.tag)]

def Finding.ofJson? (value : Json) : Option Finding := do
  match ← value.record? ["id", "line", "type", "message", "description", "severity"] with
  | [id, line, kind, message, description, severity] =>
    return {
      id := ← Json.required? Json.text? id
      line := ← Json.required? Json.lineNumber? line
      kind := ← Json.required? (fun field => field.tag?.bind FindingKind.ofTag?) kind
      message := ← Json.required? Json.text? message
      description := ← Json.required? Json.text? description
      severity := ← Json.required? (fun field => field.tag?.bind Severity.ofTag?) severity }
  | _ => none

def Repair.toJson (repair : Repair) : Json :=
  .object [
    ("id", .string repair.id),
    ("bugId", .string repair.findingId),
    ("title", .string repair.title),
    ("description", .string repair.description),
    ("code", .string repair.code),
    ("explanation", .string repair.explanation)]

def Repair.ofJson? (value : Json) : Option Repair := do
  match ← value.record? ["id", "bugId", "title", "description", "code", "explanation"] with
  | [id, findingId, title, description, code, explanation] =>
    return {
      id := ← Json.required? Json.text? id
      findingId := ← Json.required? Json.text? findingId
      title := ← Json.required? Json.text? title
      description := ← Json.required? Json.text? description
      code := ← Json.required? Json.text? code
      explanation := ← Json.required? Json.text? explanation }
  | _ => none

def Note.toJson (note : Note) : Json :=
  .object [
    ("id", .string note.id),
    ("line", .natural note.line),
    ("code", .string note.code),
    ("explanation", .string note.explanation),
    ("concepts", .texts note.concepts)]

def Note.ofJson? (value : Json) : Option Note := do
  match ← value.record? ["id", "line", "code", "explanation", "concepts"] with
  | [id, line, code, explanation, concepts] =>
    return {
      id := ← Json.required? Json.text? id
      line := ← Json.required? Json.lineNumber? line
      code := ← Json.required? Json.text? code
      explanation := ← Json.required? Json.text? explanation
      concepts := ← Json.required? (Json.list? Json.text?) concepts }
  | _ => none

namespace Review

def members (review : Review) : List (String × Json) := [
  ("bugs", .array (review.findings.map Finding.toJson)),
  ("fixes", .array (review.repairs.map Repair.toJson)),
  ("explanations", .array (review.notes.map Note.toJson)),
  ("overallQuality", .string review.rating.tag),
  ("suggestions", .texts review.advice)]

def memberNames : List String :=
  ["bugs", "fixes", "explanations", "overallQuality", "suggestions"]

def toJson (review : Review) : Json :=
  .object review.members

def ofFields? (fields : List (Option Json)) : Option Review := do
  match fields with
  | [findings, repairs, notes, rating, advice] =>
    return {
      findings := ← Json.required? (Json.list? Finding.ofJson?) findings
      repairs := ← Json.required? (Json.list? Repair.ofJson?) repairs
      notes := ← Json.required? (Json.list? Note.ofJson?) notes
      rating := ← Json.required? (fun field => field.tag?.bind Rating.ofTag?) rating
      advice := ← Json.required? (Json.list? Json.text?) advice }
  | _ => none

def ofJson? (value : Json) : Option Review :=
  (value.record? memberNames).bind ofFields?

end Review

/-- A review together with what was reviewed and what wrote it. -/
structure Report where
  version : String
  path : String
  language : Language
  review : Review
  deriving DecidableEq

namespace Report

def ofReview (path : String) (language : Language) (review : Review) : Report where
  version := Program.version
  path
  language
  review

def toJson (report : Report) : Json :=
  .object ([
    ("version", .string report.version),
    ("path", .string report.path),
    ("language", .string report.language.tag)] ++ report.review.members)

/-- The deepest nesting that a report is read with. -/
def maxDepth : Nat := 127

/-- The report that a JSON value records. All parts of the value have to be usable, those passed
over included. -/
def ofJson? (value : Json) : Option Report := do
  match value with
  | .object members =>
    if value.isWithin maxDepth then
      match ← Json.fieldsOf? ["version", "path", "language"] members with
      | [version, path, language] =>
        return {
          version := ← Json.required? Json.text? version
          path := ← Json.required? Json.text? path
          language := ← Json.required? (fun field => field.tag?.bind Language.ofTag?) language
          review := ← (Json.fieldsOf? Review.memberNames members).bind Review.ofFields? }
      | _ => none
    else none
  | _ => none

def render (report : Report) : String :=
  report.toJson.pretty

def read? (text : String) : Option Report :=
  (Json.read? text).bind ofJson?

end Report

end LineReview
