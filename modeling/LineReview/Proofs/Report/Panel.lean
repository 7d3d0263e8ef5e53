import LineReview.Proofs.Report.Style
import LineReview.Report.Panel

set_option autoImplicit false

namespace LineReview

open Escape

namespace Panel

open Piece (StripApart Bare)

theorem stripApart_header (path : String) (language : Language) :
    StripApart (header path language) := by
  refine .cons_bare (by decide) (.cons_bare (by decide) (.cons_bare (by decide) ?_))
  refine .cons_bare (by decide)
    (.cons_bare (by decide) (.cons (Piece.closed_append_break path (by decide)) ?_))
  refine .cons_bare (by decide)
    (.cons_bare (by decide) (.cons (Piece.closed_append_break _ (by decide)) ?_))
  exact Piece.stripApart_nil

theorem stripApart_adviceList (advice : List String) : StripApart (adviceList advice) := by
  unfold adviceList
  split
  · exact Piece.stripApart_nil
  · refine .append ?_ (Piece.stripApart_flatMap ?_ _)
    · exact .cons_bare (by decide)
        (.cons_bare (by decide) (.cons_bare (by decide) Piece.stripApart_nil))
    · intro remark
      refine .cons_bare (by decide) (.cons_bare (by decide) ?_)
      exact .cons (Piece.closed_append_break _ (by decide)) Piece.stripApart_nil

theorem stripApart_summary (review : Review) : StripApart (summary review) := by
  refine .append (.append ?_ (stripApart_adviceList _))
    (.cons_bare (by decide) Piece.stripApart_nil)
  refine .cons_bare (by decide) (.cons_cons _ (by decide) (.cons_bare (by decide) ?_))
  exact .cons_cons _ (by decide) (.cons_bare (by decide) Piece.stripApart_nil)

theorem stripApart_heading (title : String) (size : Nat) : StripApart (heading title size) := by
  have starts : Piece.Starts (" (" ++ toString size ++ "):\n\n") :=
    .append (.append (by decide) _) _
  refine .cons_bare (by decide) (.cons_cons _ starts ?_)
  exact .cons (Piece.closed_append_break _ (by decide)) Piece.stripApart_nil

theorem stripApart_findingEntry (finding : Finding) : StripApart (findingEntry finding) := by
  have message : Piece.Starts (" " ++ finding.message ++ "  ") := .append (.append (by decide) _) _
  have description : Piece.Starts ("\n               " ++ finding.description ++ "\n\n") :=
    .append (.append (by decide) _) _
  refine .cons_bare (by decide) (.cons_cons _ (by decide) (.cons_bare (by decide) ?_))
  refine .cons_cons _ message (.cons (Piece.closed_append_break _ (by decide)) ?_)
  exact .cons_cons _ description
    (.cons (Piece.closed_append_break _ (by decide)) Piece.stripApart_nil)

theorem stripApart_findings (review : Review) : StripApart (findings review) := by
  refine .append (stripApart_heading _ _) ?_
  split
  · refine .cons_bare (by decide) (.cons_bare (by decide) (.cons_bare (by decide) ?_))
    exact .cons_bare (by decide) (.cons_bare (by decide) Piece.stripApart_nil)
  · exact Piece.stripApart_flatMap stripApart_findingEntry _

theorem stripApart_repairEntry (review : Review) (repair : Repair) :
    StripApart (repairEntry review repair) := by
  have description : Piece.Starts ("\n      " ++ repair.description ++ "\n      ") :=
    .append (.append (by decide) _) _
  refine .cons_bare (by decide) (.cons_cons _ (by decide) (.cons_bare (by decide) ?_))
  refine .cons_cons _ description (.cons (Piece.closed_append_break _ (by decide)) ?_)
  refine .cons_bare (by decide)
    (.cons_bare (by decide) (.cons_cons _ (by decide) (.cons_bare (by decide) ?_)))
  exact .cons_cons _ (by decide) (.cons_bare (by decide) Piece.stripApart_nil)

theorem stripApart_repairs (review : Review) : StripApart (repairs review) := by
  refine .append (stripApart_heading _ _) ?_
  split
  · exact .cons_bare (by decide)
      (.cons_bare (by decide) (.cons_bare (by decide) Piece.stripApart_nil))
  · exact Piece.stripApart_flatMap (stripApart_repairEntry review) _

theorem stripApart_noteEntry (note : Note) : StripApart (noteEntry note) := by
  have explanation : Piece.Starts ("\n              " ++ note.explanation ++ "\n              ") :=
    .append (.append (by decide) _) _
  refine .cons_bare (by decide) (.cons_cons _ (by decide) (.cons_bare (by decide) ?_))
  refine .cons_cons _ explanation (.cons (Piece.closed_append_break _ (by decide)) ?_)
  exact .cons_cons _ (by decide) (.cons_bare (by decide) Piece.stripApart_nil)

theorem stripApart_notes (review : Review) : StripApart (notes review) := by
  refine .append (stripApart_heading _ _) ?_
  split
  · exact .cons_bare (by decide)
      (.cons_bare (by decide) (.cons_bare (by decide) Piece.stripApart_nil))
  · exact Piece.stripApart_flatMap stripApart_noteEntry _

theorem stripApart_pieces (path : String) (language : Language) (review : Review) :
    StripApart (pieces path language review) :=
  ((((stripApart_header path language).append (stripApart_summary review)).append
    (stripApart_findings review)).append (stripApart_repairs review)).append
      (stripApart_notes review)

def findingTexts (finding : Finding) : List String :=
  [finding.message, finding.description]

def repairTexts (repair : Repair) : List String :=
  [repair.title, repair.description, repair.code, repair.explanation]

def noteTexts (note : Note) : List String :=
  note.code :: note.explanation :: note.concepts

/-- The path and the texts of a review that panels show. -/
def shownTexts (path : String) (review : Review) : List String :=
  path :: review.advice ++ review.findings.flatMap findingTexts ++
    review.repairs.flatMap repairTexts ++
    review.notes.flatMap noteTexts

theorem mark_not_mem_toDigits (number : Nat) : mark ∉ Nat.toDigits 10 number := by
  intro member
  have digit : mark.isDigit = true := Nat.isDigit_of_mem_toDigits (by decide) (by decide) member
  revert digit
  decide

theorem mark_not_mem_intercalate {separator : String} (bare : mark ∉ separator.toList)
    {texts : List String} (each : ∀ text ∈ texts, mark ∉ text.toList) :
    mark ∉ (separator.intercalate texts).toList := by
  induction texts with
  | nil => simp
  | cons first rest ih =>
      rw [List.forall_mem_cons] at each
      cases rest with
      | nil => simpa using each.1
      | cons second others => simpa [String.intercalate_cons_cons, bare, each.1] using ih each.2

theorem bare_header {path : String} (bare : mark ∉ path.toList) (language : Language) :
    Bare (header path language) := by
  have label : mark ∉ language.label.toList := by cases language <;> decide
  unfold mark at bare label
  simp [header, Piece.plain, Style.paint, mark, bare, label, Program.name, Program.version]

theorem bare_adviceList {advice : List String}
    (bare : ∀ remark ∈ advice, mark ∉ remark.toList) : Bare (adviceList advice) := by
  unfold adviceList
  split
  · exact Piece.bare_nil
  · unfold mark at bare
    simpa [Piece.plain, Style.paint, mark] using bare

theorem bare_findingEntry {finding : Finding}
    (bare : ∀ text ∈ findingTexts finding, mark ∉ text.toList) :
    Bare (findingEntry finding) := by
  simp only [findingTexts, List.forall_mem_cons] at bare
  obtain ⟨message, description, -⟩ := bare
  have tag : mark ∉ (kindTag finding.kind).text.toList := by cases finding.kind <;> decide
  have severity : mark ∉ finding.severity.tag.toList := by cases finding.severity <;> decide
  have line := mark_not_mem_toDigits finding.line
  unfold mark at *
  simp [findingEntry, Piece.plain, Style.paint, mark, tag, severity, line, message, description,
    lineTag, padTo]

theorem bare_summary {review : Review}
    (bare : ∀ remark ∈ review.advice, mark ∉ remark.toList) : Bare (summary review) := by
  have rating : mark ∉ review.rating.tag.toList := by cases review.rating <;> decide
  have findings := mark_not_mem_toDigits review.findings.length
  have repairs := mark_not_mem_toDigits review.repairs.length
  have notes := mark_not_mem_toDigits review.notes.length
  have advice := bare_adviceList bare
  unfold mark at rating findings repairs notes
  simp [summary, Piece.plain, Style.paint, mark, rating, findings, repairs, notes, advice]

theorem bare_heading {title : String} (bare : mark ∉ title.toList) (size : Nat) :
    Bare (heading title size) := by
  have digits := mark_not_mem_toDigits size
  unfold mark at bare digits
  simp [heading, Piece.plain, Style.paint, mark, bare, digits]

theorem bare_findings {review : Review}
   
    (bare : ∀ finding ∈ review.findings, ∀ text ∈ findingTexts finding,
      mark ∉ text.toList) : Bare (findings review) := by
  unfold findings
  rw [Piece.bare_append]
  refine ⟨bare_heading (by decide) _, ?_⟩
  split
  · simp [Piece.plain, Style.paint, mark]
  · rw [Piece.bare_flatMap]
    intro finding member
    exact bare_findingEntry (bare finding member)

theorem bare_repairEntry (review : Review) {repair : Repair}
    (bare : ∀ text ∈ repairTexts repair, mark ∉ text.toList) :
    Bare (repairEntry review repair) := by
  have line := mark_not_mem_toDigits (repairLine review repair)
  simp only [repairTexts, List.forall_mem_cons] at bare
  obtain ⟨title, description, code, explanation, -⟩ := bare
  unfold mark at line title description code explanation
  simp [repairEntry, Piece.plain, Style.paint, mark, line, title, description, code, explanation]

theorem bare_repairs {review : Review}
    (bare : ∀ repair ∈ review.repairs, ∀ text ∈ repairTexts repair, mark ∉ text.toList) :
    Bare (repairs review) := by
  unfold repairs
  rw [Piece.bare_append]
  refine ⟨bare_heading (by decide) _, ?_⟩
  split
  · simp [Piece.plain, Style.paint, mark]
  · rw [Piece.bare_flatMap]
    intro repair member
    exact bare_repairEntry review (bare repair member)

theorem bare_noteEntry {note : Note} (bare : ∀ text ∈ noteTexts note, mark ∉ text.toList) :
    Bare (noteEntry note) := by
  have line := mark_not_mem_toDigits note.line
  simp only [noteTexts, List.forall_mem_cons] at bare
  obtain ⟨code, explanation, each⟩ := bare
  have concepts := mark_not_mem_intercalate (show mark ∉ " · ".toList by decide) each
  unfold mark at line code explanation concepts
  simpa [noteEntry, lineTag, padTo, Piece.plain, Style.paint, mark, line, code, explanation]
    using concepts

theorem bare_notes {review : Review}
    (bare : ∀ note ∈ review.notes, ∀ text ∈ noteTexts note, mark ∉ text.toList) :
    Bare (notes review) := by
  unfold notes
  rw [Piece.bare_append]
  refine ⟨bare_heading (by decide) _, ?_⟩
  split
  · simp [Piece.plain, Style.paint, mark]
  · rw [Piece.bare_flatMap]
    intro note member
    exact bare_noteEntry (bare note member)

theorem bare_pieces {path : String} {review : Review}
    (bare : ∀ text ∈ shownTexts path review, mark ∉ text.toList) (language : Language) :
    Bare (pieces path language review) := by
  simp only [shownTexts, List.forall_mem_append, List.forall_mem_flatMap] at bare
  obtain ⟨⟨⟨sourceAndAdvice, ofFindings⟩, ofRepairs⟩, ofNotes⟩ := bare
  obtain ⟨source, advice⟩ := List.forall_mem_cons.mp sourceAndAdvice
  simp only [pieces, Piece.bare_append]
  exact ⟨⟨⟨⟨bare_header source language, bare_summary advice⟩,
    bare_findings ofFindings⟩,
    bare_repairs ofRepairs⟩, bare_notes ofNotes⟩

/-- Colours only decorate: without their escape sequences, panels written with colours are panels
written without, and where no text that is shown opens a sequence, stripping the coloured panels
gives exactly the others. -/
theorem render_strip (path : String) (language : Language) (review : Review) :
    strip (render true path language review).toList =
      strip (render false path language review).toList ∧
    ((∀ text ∈ shownTexts path review, mark ∉ text.toList) →
      strip (render true path language review).toList =
        (render false path language review).toList) := by
  have same : strip (render true path language review).toList =
      strip (render false path language review).toList := by
    have apart := stripApart_pieces path language review
    have coloured := apart true []
    have uncoloured := apart false []
    rw [List.append_nil] at coloured uncoloured
    simp only [render, Piece.renderAll, String.toList_ofList]
    rw [coloured, uncoloured]
  refine ⟨same, ?_⟩
  intro bare
  rw [same]
  simp only [render, Piece.renderAll, String.toList_ofList]
  exact Piece.strip_render_of_bare (bare_pieces bare language)

/-- A review whose texts hold everything of a sequence but its mark. -/
def marklessReview : Review where
  findings := [{
    id := "bug-1-var", line := 1, kind := .warning, message := "[31m", description := "0m",
      severity := .low }]
  repairs := [{
    id := "fix-bug-1-var", findingId := "bug-1-var", title := "m", description := "", code := "[0m"
    explanation := ";" }]
  notes :=
    [{ id := "explanation-1-loop", line := 1, code := "[m", explanation := "[",
       concepts := ["m", "[1;3"] }]
  rating := .good
  advice := ["[2m"]

theorem render_strip_of_markless :
    (∀ text ∈ shownTexts "[m" marklessReview, mark ∉ text.toList) ∧
      strip (render true "[m" .go marklessReview).toList =
        (render false "[m" .go marklessReview).toList := by
  have bare : ∀ text ∈ shownTexts "[m" marklessReview, mark ∉ text.toList := by decide
  exact ⟨bare, (render_strip "[m" .go marklessReview).2 bare⟩

end Panel

end LineReview
