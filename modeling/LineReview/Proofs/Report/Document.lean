import LineReview.Proofs.Json.Record
import LineReview.Report.Document

set_option autoImplicit false

namespace LineReview

open Json (Plain)

/-- Every line that the review names is a number of at most 64 bits. -/
structure Review.LinesFit (review : Review) : Prop where
  findings : ∀ finding ∈ review.findings, finding.line < Json.lineBound
  notes : ∀ note ∈ review.notes, note.line < Json.lineBound

theorem Finding.ofJson?_toJson {finding : Finding} (fits : finding.line < Json.lineBound) :
    ofJson? finding.toJson = some finding := by
  have names : ["id", "line", "type", "message", "description", "severity"].Nodup := by decide
  have fields : finding.toJson.record? ["id", "line", "type", "message",
      "description", "severity"] =
        some [some (.string finding.id), some (.natural finding.line),
          some (.string finding.kind.tag),
          some (.string finding.message), some (.string finding.description),
          some (.string finding.severity.tag)] := Json.record?_object names
  simp [ofJson?, fields, Json.required?, Json.text?, Json.tag?, Json.lineNumber?_natural fits,
    FindingKind.ofTag?_tag, Severity.ofTag?_tag]

theorem Repair.ofJson?_toJson (repair : Repair) : ofJson? repair.toJson = some repair := by
  have names : ["id", "bugId", "title", "description", "code", "explanation"].Nodup := by decide
  have fields : repair.toJson.record? ["id", "bugId", "title", "description", "code",
    "explanation"] =
      some [some (.string repair.id), some (.string repair.findingId), some (.string repair.title),
        some (.string repair.description), some (.string repair.code),
        some (.string repair.explanation)] := Json.record?_object names
  simp [ofJson?, fields, Json.required?, Json.text?]

theorem Note.ofJson?_toJson {note : Note} (fits : note.line < Json.lineBound) :
    ofJson? note.toJson = some note := by
  have names : ["id", "line", "code", "explanation", "concepts"].Nodup := by decide
  have fields : note.toJson.record? ["id", "line", "code", "explanation", "concepts"] =
      some [some (.string note.id), some (.natural note.line), some (.string note.code),
        some (.string note.explanation), some (.texts note.concepts)] := Json.record?_object names
  simp [ofJson?, fields, Json.required?, Json.text?, Json.lineNumber?_natural fits,
    Json.list?_texts]

theorem Finding.plain_toJson {finding : Finding} (fits : finding.line < Json.lineBound) :
    finding.toJson.Plain := by
  refine .object ?_
  simp [Plain.string, Plain.line fits]

theorem Repair.plain_toJson (repair : Repair) : repair.toJson.Plain := by
  refine .object ?_
  simp [Plain.string]

theorem Note.plain_toJson {note : Note} (fits : note.line < Json.lineBound) :
    note.toJson.Plain := by
  refine .object ?_
  simp [Plain.string, Plain.line fits, Plain.texts]

theorem Finding.isWithin_toJson (finding : Finding) (depth : Nat) :
    finding.toJson.isWithin (depth + 1) = true := by
  cases depth <;> rfl

theorem Repair.isWithin_toJson (repair : Repair) (depth : Nat) :
    repair.toJson.isWithin (depth + 1) = true := by
  cases depth <;> rfl

theorem Note.isWithin_toJson (note : Note) (depth : Nat) :
    note.toJson.isWithin (depth + 2) = true := by
  simp [toJson, Json.isWithin, Json.membersWithin, Json.isWithin_texts]

namespace Review

theorem ofFields?_members {review : Review} (fits : review.LinesFit) :
    ofFields? (review.members.map fun member => some member.2) = some review := by
  have findings : Json.list? Finding.ofJson? (.array (review.findings.map Finding.toJson)) =
      some review.findings :=
    Json.list?_map fun finding listed => Finding.ofJson?_toJson (fits.findings finding listed)
  have repairs : Json.list? Repair.ofJson? (.array (review.repairs.map Repair.toJson)) =
      some review.repairs :=
    Json.list?_map fun repair _ => repair.ofJson?_toJson
  have notes : Json.list? Note.ofJson? (.array (review.notes.map Note.toJson)) =
      some review.notes :=
    Json.list?_map fun note listed => Note.ofJson?_toJson (fits.notes note listed)
  simp [members, ofFields?, Json.required?, findings, repairs, notes, Json.tag?, Rating.ofTag?_tag,
    Json.list?_texts]

theorem plain_members {review : Review} (fits : review.LinesFit) :
    ∀ member ∈ review.members, member.2.Plain := by
  have findings : Plain (.array (review.findings.map Finding.toJson)) :=
    .array_map fun finding listed => Finding.plain_toJson (fits.findings finding listed)
  have repairs : Plain (.array (review.repairs.map Repair.toJson)) :=
    .array_map fun repair _ => repair.plain_toJson
  have notes : Plain (.array (review.notes.map Note.toJson)) :=
    .array_map fun note listed => Note.plain_toJson (fits.notes note listed)
  simp [members, findings, repairs, notes, Plain.string, Plain.texts]

theorem membersWithin_members (review : Review) (depth : Nat) :
    Json.membersWithin (depth + 3) review.members = true := by
  have findings := Json.areWithin_map (depth + 2) fun finding (_ : finding ∈ review.findings) =>
    finding.isWithin_toJson (depth + 1)
  have repairs := Json.areWithin_map (depth + 2) fun repair (_ : repair ∈ review.repairs) =>
    repair.isWithin_toJson (depth + 1)
  have notes := Json.areWithin_map (depth + 2) fun note (_ : note ∈ review.notes) =>
    note.isWithin_toJson depth
  simp [members, Json.membersWithin, Json.isWithin, findings, repairs, notes, Json.isWithin_texts]

end Review

namespace Report

/-- The members of a report beside those of its review. -/
def envelope (report : Report) : List (String × Json) := [
  ("version", .string report.version),
  ("path", .string report.path),
  ("language", .string report.language.tag)]

def members (report : Report) : List (String × Json) :=
  report.envelope ++ report.review.members

theorem toJson_eq_object (report : Report) : report.toJson = .object report.members := rfl

theorem names_nodup (report : Report) : (report.members.map Prod.fst).Nodup :=
  show ["version", "path", "language", "bugs", "fixes", "explanations", "overallQuality",
    "suggestions"].Nodup by decide

theorem isWithin_toJson (report : Report) : report.toJson.isWithin maxDepth = true := by
  simp [toJson, maxDepth, Json.isWithin, Json.membersWithin, Review.membersWithin_members]

theorem ofJson?_toJson {report : Report} (fits : report.review.LinesFit) :
    ofJson? report.toJson = some report := by
  have within := report.isWithin_toJson
  have own : Json.fieldsOf? ["version", "path", "language"] report.members =
      some (report.envelope.map fun member => some member.2) :=
    Json.fieldsOf?_of_subset report.names_nodup (List.subset_append_left _ _)
  have inner : Json.fieldsOf? Review.memberNames report.members =
      some (report.review.members.map fun member => some member.2) :=
    Json.fieldsOf?_of_subset report.names_nodup (List.subset_append_right _ _)
  rw [toJson_eq_object] at within ⊢
  simp only [ofJson?, within, ↓reduceIte, own, inner, Option.bind_some,
    Review.ofFields?_members fits]
  simp [envelope, Json.required?, Json.text?, Json.tag?, Language.ofTag?_tag]

theorem plain_toJson {report : Report} (fits : report.review.LinesFit) : report.toJson.Plain := by
  refine .object fun member listed => ?_
  rcases List.mem_append.mp listed with own | inner
  · simp only [List.mem_cons, List.not_mem_nil, or_false] at own
    rcases own with rfl | rfl | rfl <;> exact .string _
  · exact Review.plain_members fits member inner

/-- A report is read back from its text. -/
theorem read?_render {report : Report} (fits : report.review.LinesFit) :
    read? report.render = some report := by
  rw [read?, render, Json.read?_pretty (plain_toJson fits), Option.bind_some, ofJson?_toJson fits]

/-- The text of a report holds the path, the language and the whole review that it is made for, and
the version of the program; no other path, language or review has the same text. -/
theorem render_lossless (path : String) (language : Language) {review : Review}
    (fits : review.LinesFit) :
    read? (ofReview path language review).render =
      some { version := Program.version, path, language, review } ∧
    ∀ (otherPath : String) (otherLanguage : Language) (other : Review), other.LinesFit →
      (ofReview otherPath otherLanguage other).render = (ofReview path language review).render →
      otherPath = path ∧ otherLanguage = language ∧ other = review := by
  have back : read? (ofReview path language review).render = some (ofReview path language review) :=
    read?_render fits
  refine ⟨back, ?_⟩
  intro otherPath otherLanguage other otherFits same
  have otherBack : read? (ofReview otherPath otherLanguage other).render =
      some (ofReview otherPath otherLanguage other) := read?_render otherFits
  rw [same, back] at otherBack
  have reports := Option.some.inj otherBack
  exact ⟨congrArg Report.path reports.symm, congrArg Report.language reports.symm,
    congrArg Report.review reports.symm⟩

theorem render_lossless_of_rough_texts :
    let finding : Finding := {
      id := "bug-0-", line := 0, kind := .error, message := "\"quoted\" \\ \x08\t\n\x0c\r\x1f\x00"
      description := "\u2028\u2029 \x7f 😀", severity := .high }
    let review : Review := {
      findings := [finding, { finding with line := 18446744073709551615 }]
      repairs := [{
        id := "", findingId := "of no finding", title := "/", description := "", code := "\r\n",
          explanation := "" }]
      notes :=
        [{ id := "", line := 18446744073709551615, code := "", explanation := "",
           concepts := ["", "é"] }]
      rating := .poor
      advice := [] }
    review.LinesFit ∧ read? (ofReview "a\\b\".js" .cpp review).render =
      some { version := "0.1.0", path := "a\\b\".js", language := .cpp, review } := by
  intro finding review
  have fits : review.LinesFit := ⟨by decide, by decide⟩
  exact ⟨fits, (render_lossless "a\\b\".js" .cpp fits).1⟩

end Report

end LineReview
