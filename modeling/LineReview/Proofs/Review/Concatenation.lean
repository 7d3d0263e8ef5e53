import LineReview.Proofs.Advice
import LineReview.Proofs.Identifier
import LineReview.Proofs.Rating
import LineReview.Proofs.Review.Site

set_option autoImplicit false

namespace LineReview

/-- The finding moved down by a number of lines. -/
def Finding.shift (count : Nat) (finding : Finding) : Finding :=
  { finding with
    id := Identifier.renumber "bug-" count finding.id
    line := finding.line + count }

def Repair.shift (count : Nat) (repair : Repair) : Repair :=
  { repair with
    id := Repair.idFor (Identifier.renumber "bug-" count repair.findingId)
    findingId := Identifier.renumber "bug-" count repair.findingId }

def Note.shift (count : Nat) (note : Note) : Note :=
  { note with
    id := Identifier.renumber "explanation-" count note.id
    line := note.line + count }

@[simp] theorem Finding.shift_kind (count : Nat) (finding : Finding) :
    (finding.shift count).kind = finding.kind := rfl

@[simp] theorem Finding.shift_message (count : Nat) (finding : Finding) :
    (finding.shift count).message = finding.message := rfl

theorem Rule.shift_findingAt (rule : Rule) (count number : Nat) :
    (rule.findingAt number).shift count = rule.findingAt (number + count) := by
  simp only [findingAt, Finding.shift, Finding.idFor_eq_spell, Identifier.renumber_spell]

theorem Rule.shift_repairAt (rule : Rule) (template : RepairTemplate) (count number : Nat)
    (line : Line) :
    (rule.repairAt template number line).shift count =
      rule.repairAt template (number + count) line := by
  simp only [repairAt, Repair.shift, Finding.idFor_eq_spell, Identifier.renumber_spell]

theorem Topic.shift_noteAt (topic : Topic) (count number : Nat) (line : Line) :
    (topic.noteAt number line).shift count = topic.noteAt (number + count) line := by
  simp only [noteAt, Note.shift, Note.idFor_eq_spell, Identifier.renumber_spell]

namespace Site

def shift {Entry : Type} (count : Nat) (site : Site Entry) : Site Entry :=
  { site with number := site.number + count }

theorem collect_shift {Entry : Type} (table : List Entry) (picks : Entry → Line → Bool)
    (count : Nat) (numbered : List (Line × Nat)) :
    collect table picks (numbered.map (Prod.map id (· + count))) =
      (collect table picks numbered).map (shift count) := by
  simp only [collect, List.flatMap_map, List.map_flatMap, List.map_map]
  rfl

theorem finding_shift (count : Nat) (site : Site Rule) :
    (site.shift count).finding = site.finding.shift count :=
  (site.entry.shift_findingAt count site.number).symm

theorem repair?_shift (count : Nat) (site : Site Rule) :
    (site.shift count).repair? = site.repair?.map (Repair.shift count) := by
  unfold repair? shift
  cases site.entry.template with
  | none => rfl
  | some template =>
      exact congrArg some (site.entry.shift_repairAt template count site.number site.line).symm

theorem note_shift (count : Nat) (site : Site Topic) :
    (site.shift count).note = site.note.shift count :=
  (site.entry.shift_noteAt count site.number site.line).symm

/-- What is read off moved sites has moved, when reading and moving commute at each site. -/
theorem map_shift {Entry Result : Type} (read : Site Entry → Result) (move : Result → Result)
    (count : Nat) (moved : ∀ site : Site Entry, read (site.shift count) = move (read site))
    (sites : List (Site Entry)) :
    (sites.map (shift count)).map read = (sites.map read).map move := by
  rw [List.map_map, List.map_map]
  apply List.map_congr_left
  intro site _
  exact moved site

theorem filterMap_repair?_shift (count : Nat) (sites : List (Site Rule)) :
    (sites.map (shift count)).filterMap repair? =
      (sites.filterMap repair?).map (Repair.shift count) := by
  rw [List.filterMap_map, List.map_filterMap]
  apply List.filterMap_congr
  intro site _
  exact repair?_shift count site

end Site

namespace Review

theorem numberedLines_append (first second : String) :
    numberedLines (first ++ "\n" ++ second) =
      numberedLines first ++
        (numberedLines second).map (Prod.map id (· + (first.toList.count '\n' + 1))) := by
  have counted : ((Line.ofText first).map Line.trimmed).length = first.toList.count '\n' + 1 := by
    rw [List.length_map, Line.length_ofText]
  simp only [numberedLines, Line.ofText_append, List.map_append, List.zipIdx_append, counted,
    List.map_snd_add_zipIdx_eq_zipIdx, Nat.add_comm 1]

theorem flagged_append (first second : String) (language : Language) :
    Site.flagged (numberedLines (first ++ "\n" ++ second)) language =
      Site.flagged (numberedLines first) language ++
        (Site.flagged (numberedLines second) language).map
          (Site.shift (first.toList.count '\n' + 1)) := by
  rw [numberedLines_append, Site.flagged, Site.collect_append, Site.collect_shift]
  rfl

theorem explained_append (first second : String) :
    Site.explained (numberedLines (first ++ "\n" ++ second)) =
      Site.explained (numberedLines first) ++
        (Site.explained (numberedLines second)).map (Site.shift (first.toList.count '\n' + 1)) := by
  rw [numberedLines_append, Site.explained, Site.collect_append, Site.collect_shift]
  rfl

theorem findings_append (first second : String) (language : Language) :
    (ofText (first ++ "\n" ++ second) language).findings =
      (ofText first language).findings ++
        (ofText second language).findings.map (Finding.shift (first.toList.count '\n' + 1)) := by
  rw [findings_ofText, findings_ofText, findings_ofText, flagged_append, List.map_append,
    Site.map_shift Site.finding (Finding.shift _) _ (Site.finding_shift _)]

theorem repairs_append (first second : String) (language : Language) :
    (ofText (first ++ "\n" ++ second) language).repairs =
      (ofText first language).repairs ++
        (ofText second language).repairs.map (Repair.shift (first.toList.count '\n' + 1)) := by
  rw [repairs_ofText, repairs_ofText, repairs_ofText, flagged_append, List.filterMap_append,
    Site.filterMap_repair?_shift]

private theorem take_append_take {Entry : Type} (count : Nat) (first second : List Entry) :
    (first.take count ++ second.take count).take count = (first ++ second).take count := by
  have rest : min (count - min count first.length) count = count - first.length := by omega
  rw [List.take_append, List.take_append, List.take_take, List.take_take, List.length_take,
    Nat.min_self, rest]

/-- Cutting off the notes of both parts first changes nothing in the notes that the whole keeps. -/
theorem notes_append (first second : String) (language : Language) :
    (ofText (first ++ "\n" ++ second) language).notes =
      ((ofText first language).notes ++
        (ofText second language).notes.map (Note.shift (first.toList.count '\n' + 1))).take
          maxNotes := by
  rw [notes_ofText, notes_ofText, notes_ofText, explained_append, List.map_take, List.map_take,
    List.map_take, List.map_take, take_append_take, List.map_append,
    Site.map_shift Site.note (Note.shift _) _ (Site.note_shift _)]

theorem notes_append_isEmpty (first second : String) (language : Language) :
    (ofText (first ++ "\n" ++ second) language).notes.isEmpty =
      ((ofText first language).notes.isEmpty && (ofText second language).notes.isEmpty) := by
  have some : maxNotes ≠ 0 := by decide
  rw [notes_append, Bool.eq_iff_iff, Bool.and_eq_true]
  simp only [List.isEmpty_iff, List.take_eq_nil_iff, List.append_eq_nil_iff, List.map_eq_nil_iff,
    some, false_or]

theorem tally_append (first second : String) (language : Language) :
    Rating.Tally.ofFindings (ofText (first ++ "\n" ++ second) language).findings =
      (Rating.Tally.ofFindings (ofText first language).findings).add
        (Rating.Tally.ofFindings (ofText second language).findings) := by
  rw [findings_append, Rating.Tally.ofFindings_append,
    Rating.Tally.ofFindings_map _ _ (Finding.shift_kind (first.toList.count '\n' + 1))]

theorem rating_ofText (text : String) (language : Language) :
    (ofText text language).rating =
      Rating.ofTally (Rating.Tally.ofFindings (ofText text language).findings) := by
  simp only [ofText, Rating.ofFindings]

def evidence (review : Review) (language : Language) : Evidence :=
  { language, findings := review.findings, notes := review.notes }

theorem advice_ofText (text : String) (language : Language) :
    (ofText text language).advice = ((ofText text language).evidence language).advice := by
  simp only [ofText, evidence]

theorem evidence_append (first second : String) (language : Language) :
    Evidence.Joined ((ofText first language).evidence language)
      ((ofText second language).evidence language)
      ((ofText (first ++ "\n" ++ second) language).evidence language) where
  language_first := by simp only [evidence]
  language_second := by simp only [evidence]
  messages := by
    simp only [evidence, findings_append, List.map_append, List.map_map, Function.comp_def,
      Finding.shift_message]
  notes := by simp only [evidence, notes_append_isEmpty]

/-- A text is reviewed part by part: findings and repairs of the second part follow those of the
first one, moved down by its lines; of the notes the first fifteen are kept; the tallies add up; and
a remark is made on the whole when it is made on either part, the praise for no findings when it is
made on both. -/
theorem ofText_concatenation (first second : String) (language : Language) :
    let count := first.toList.count '\n' + 1
    let before := ofText first language
    let after := ofText second language
    let whole := ofText (first ++ "\n" ++ second) language
    whole.findings = before.findings ++ after.findings.map (Finding.shift count) ∧
    whole.repairs = before.repairs ++ after.repairs.map (Repair.shift count) ∧
    whole.notes = (before.notes ++ after.notes.map (Note.shift count)).take 15 ∧
    whole.rating = Rating.ofTally
      ((Rating.Tally.ofFindings before.findings).add (Rating.Tally.ofFindings after.findings)) ∧
    (∀ text, text ≠ Remark.noIssues.text →
      (text ∈ whole.advice ↔ text ∈ before.advice ∨ text ∈ after.advice)) ∧
    (Remark.noIssues.text ∈ whole.advice ↔
      Remark.noIssues.text ∈ before.advice ∧ Remark.noIssues.text ∈ after.advice) ∧
    whole.advice.Sublist (Remark.all.map Remark.text) ∧ whole.advice.Nodup := by
  dsimp only
  have joined := evidence_append first second language
  simp only [rating_ofText, advice_ofText]
  refine ⟨findings_append first second language, repairs_append first second language,
    notes_append first second language, ?_, ?_, joined.noIssues_mem_advice,
      Evidence.advice_sublist _,
    Evidence.advice_nodup _⟩
  · rw [tally_append]
  · intro text other
    exact joined.mem_advice other

theorem ofText_concatenation_of_marker :
    Remark.openMarkers.text ≠ Remark.noIssues.text ∧
      Remark.openMarkers.text ∈ (ofText ("# TODO" ++ "\n" ++ "x = 1") .python).advice := by
  have other : Remark.openMarkers.text ≠ Remark.noIssues.text := by decide
  have made : Remark.openMarkers.text ∈ (ofText "# TODO" .python).advice := by decide
  obtain ⟨-, -, -, -, remarks, -⟩ := ofText_concatenation "# TODO" "x = 1" .python
  exact ⟨other, (remarks _ other).mpr (Or.inl made)⟩

end Review

end LineReview
