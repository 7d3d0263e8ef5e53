import LineReview.Proofs.Review.Site
import LineReview.Proofs.Text.LineEnd

set_option autoImplicit false

namespace LineReview

namespace Rule

theorem flags_nil {rule : Rule} (listed : rule ∈ all) : rule.flags [] = false := by
  revert rule
  decide

end Rule

namespace Site

theorem collect_append_empty {Entry : Type} (table : List Entry) (picks : Entry → Line → Bool)
    (numbered rest : List (Line × Nat)) (silent : ∀ entry ∈ table, picks entry [] = false)
    (empty : ∀ shown ∈ rest, shown.1 = []) :
    collect table picks (numbered ++ rest) = collect table picks numbered := by
  have nothing : collect table picks rest = [] := by
    rw [collect, List.flatMap_eq_nil_iff]
    intro shown member
    rw [List.map_eq_nil_iff, List.filter_eq_nil_iff]
    intro entry listed
    rw [empty shown member, silent entry listed]
    exact Bool.false_ne_true
  rw [collect_append, nothing, List.append_nil]

/-- No rule finds fault with an empty line. -/
theorem flagged_append_empty (numbered rest : List (Line × Nat)) (language : Language)
    (empty : ∀ shown ∈ rest, shown.1 = []) :
    flagged (numbered ++ rest) language = flagged numbered language := by
  refine collect_append_empty _ _ numbered rest ?_ empty
  intro rule listed
  rw [Rule.flags_nil listed, Bool.and_false]

/-- No topic is explained on an empty line. -/
theorem explained_append_empty (numbered rest : List (Line × Nat))
    (empty : ∀ shown ∈ rest, shown.1 = []) :
    explained (numbered ++ rest) = explained numbered := by
  refine collect_append_empty _ _ numbered rest ?_ empty
  intro topic _
  have plain : Line.isExplainable [] = false := rfl
  rw [plain, Bool.false_and]

end Site

namespace Review

theorem ofText_eq_of_sites {first second : String} {language : Language}
    (flagged : Site.flagged (numberedLines first) language =
      Site.flagged (numberedLines second) language)
    (explained : Site.explained (numberedLines first) = Site.explained (numberedLines second)) :
    ofText first language = ofText second language := by
  have checked : checks first language = checks second language := by
    rw [checks_eq_map, checks_eq_map, flagged]
  have noted : notesOn first = notesOn second := by
    rw [notesOn_eq_map, notesOn_eq_map, explained]
  simp only [ofText, checked, noted]

/-- Only the trimmed lines of a text are seen. -/
theorem ofText_eq_of_trimmed {first second : String} (language : Language)
    (same : (Line.ofText first).map Line.trimmed = (Line.ofText second).map Line.trimmed) :
    ofText first language = ofText second language := by
  have numbered : numberedLines first = numberedLines second := by
    rw [numberedLines, numberedLines, same]
  apply ofText_eq_of_sites
  · rw [numbered]
  · rw [numbered]

theorem ofText_eq_of_padded {first second : String} (language : Language)
    (around : List.Forall₂ Line.Padded (Line.ofText first) (Line.ofText second)) :
    ofText second language = ofText first language :=
  ofText_eq_of_trimmed language (Line.map_trimmed_of_padded around)

theorem ofText_join_padded (text : String) (language : Language) {padded : List Line}
    (around : List.Forall₂ Line.Padded (Line.ofText text) padded) :
    ofText (Line.join padded) language = ofText text language := by
  apply ofText_eq_of_padded
  rwa [Line.ofText_join_of_padded around]

theorem ofText_join_trimmed (text : String) (language : Language) :
    ofText (Line.join ((Line.ofText text).map Line.trimmed)) language = ofText text language := by
  apply ofText_eq_of_trimmed
  rw [Line.ofText_join_trimmed, List.map_map]
  apply List.map_congr_left
  intro line _
  exact Line.trimmed_trimmed line

theorem numberedLines_append_lines (text : String) (lines : List Line)
    (single : ∀ line ∈ lines, '\n' ∉ line) :
    numberedLines (text ++ String.ofList (lines.flatMap (List.cons '\n'))) =
      numberedLines text ++ (lines.map Line.trimmed).zipIdx (1 + (Line.ofText text).length) := by
  rw [numberedLines, Line.ofText_append_lines text lines single, List.map_append,
    List.zipIdx_append, List.length_map, numberedLines]

theorem ofText_append_blank (text : String) (language : Language) (blanks : List Line)
    (blank : ∀ line ∈ blanks, Line.IsPadding line) :
    ofText (text ++ String.ofList (blanks.flatMap (List.cons '\n'))) language =
      ofText text language := by
  have single : ∀ line ∈ blanks, '\n' ∉ line :=
    fun line member => (blank line member).feed_not_mem
  have empty : ∀ shown ∈ (blanks.map Line.trimmed).zipIdx (1 + (Line.ofText text).length),
      shown.1 = [] := by
    intro shown member
    obtain ⟨line, listed, trimmed⟩ := List.mem_map.mp (List.fst_mem_of_mem_zipIdx member)
    rw [← trimmed]
    exact Text.trim_of_dropped _ line (blank line listed).margin
  apply ofText_eq_of_sites
  · rw [numberedLines_append_lines text blanks single]
    exact Site.flagged_append_empty _ _ language empty
  · rw [numberedLines_append_lines text blanks single]
    exact Site.explained_append_empty _ _ empty

/-- A line is seen only through its trimmed part: a review stays the same when padding is put around
the lines or taken away from them, with either kind of line end, and when lines of padding are put
after the last one. -/
theorem margins_unseen (text : String) (language : Language) :
    (∀ other, (Line.ofText other).map Line.trimmed = (Line.ofText text).map Line.trimmed →
      ofText other language = ofText text language) ∧
    (∀ padded, List.Forall₂ Line.Padded (Line.ofText text) padded →
      ofText (Line.join padded) language = ofText text language) ∧
    ofText (Line.join ((Line.ofText text).map Line.trimmed)) language = ofText text language ∧
    ofText (Line.withReturns text) language = ofText text language ∧
    ofText (Line.withoutReturns text) language = ofText text language ∧
    (∀ blanks : List Line, (∀ blank ∈ blanks, Line.IsPadding blank) →
      ofText (text ++ String.ofList (blanks.flatMap (List.cons '\n'))) language =
        ofText text language) := by
  refine ⟨fun other same => ofText_eq_of_trimmed language same,
    fun padded around => ofText_join_padded text language around, ofText_join_trimmed text language,
    ?_, ?_, ofText_append_blank text language⟩
  · exact ofText_eq_of_padded language (Line.padded_withReturns text)
  · exact (ofText_eq_of_padded language (Line.padded_withoutReturns text)).symm

theorem margins_unseen_around_declaration :
    ofText "\uFEFF var a\t\r\n " .javascript = ofText "var a\n" .javascript := by
  have first : Line.Padded "var a".toList "\uFEFF var a\t\r".toList :=
    ⟨['\uFEFF', ' '], ['\t', '\r'], by decide, by decide, by decide⟩
  have second : Line.Padded [] [' '] :=
    ⟨[' '], [], by decide, by decide, by decide⟩
  have lines : Line.ofText "var a\n" = ["var a".toList, []] := by decide
  have text : Line.join ["\uFEFF var a\t\r".toList, [' ']] = "\uFEFF var a\t\r\n " := by decide
  have same := (margins_unseen "var a\n" .javascript).2.1 ["\uFEFF var a\t\r".toList, [' ']]
  rw [lines, text] at same
  exact same (.cons first (.cons second .nil))

end Review

end LineReview
