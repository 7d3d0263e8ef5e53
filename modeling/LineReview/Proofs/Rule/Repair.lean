import LineReview.Proofs.Review.Language
import LineReview.Proofs.Rule.OptionalChaining
import LineReview.Proofs.Text.Search

set_option autoImplicit false

/-! Lines after a repair. A rule flags a line for the words in it and lets it pass for others; a
repair brings no word that a rule flags and takes away no word that lets a line pass, but for the
few that are named here. So whoever follows a repair is shown no new finding, except that the line
may have become too long, or has been turned into a comment. -/

namespace LineReview

namespace Line

/-- A line stays trimmed when something solid takes the place of a part of it. -/
theorem trimmed_exchange {before removed inserted after : Line}
    (trim : (before ++ (removed ++ after)).trimmed = before ++ (removed ++ after))
    (filled : inserted ≠ []) (head : inserted.head?.any isMargin = false)
    (last : after ≠ [] ∨ inserted.getLast?.any isMargin = false) :
    (before ++ (inserted ++ after)).trimmed = before ++ (inserted ++ after) := by
  obtain ⟨first, rest, rfl⟩ := List.exists_cons_of_ne_nil filled
  rw [trimmed, Text.trim_eq_self_iff] at trim ⊢
  constructor
  · cases before with
    | nil => simpa using head
    | cons char others => exact trim.1
  · by_cases empty : after = []
    · subst empty
      have solid := last.resolve_left (fun some => some rfl)
      simpa [List.getLast?_append, List.getLast?_cons] using solid
    · obtain ⟨char, others, rfl⟩ := List.exists_cons_of_ne_nil empty
      simpa [List.getLast?_append, List.getLast?_cons] using trim.2

end Line

namespace Rule

/-- Whatever of the words the second line holds, the first one holds. -/
def NoneNew (words : List String) (line other : Line) : Prop :=
  ∀ word ∈ words, Text.contains word.toList other = true →
    Text.contains word.toList line = true

section Words

variable {words : List String} {line other : Line}

theorem NoneNew.of_subset (none : NoneNew words line other) {fewer : List String}
    (subset : fewer ⊆ words) : NoneNew fewer line other :=
  fun word member => none word (subset member)

/-- Of the words, one may be passed over if the first line holds it, or the second line does not. -/
theorem NoneNew.of_erase {word : String}
    (held : Text.contains word.toList line = true ∨ Text.contains word.toList other = false)
    (none : NoneNew (words.erase word) line other) : NoneNew words line other := by
  intro some member found
  by_cases same : some = word
  · subst same
    exact held.resolve_right (by simp [found])
  · exact none some ((List.mem_erase_of_ne same).mpr member) found

theorem noneNew_exchange {removed inserted : Line}
    (apart : ∀ word ∈ words, Text.isApart word.toList removed = true ∧
      Text.isApart word.toList inserted = true)
    (before after : Line) :
    NoneNew words (before ++ (removed ++ after)) (before ++ (inserted ++ after)) := by
  intro word member found
  obtain ⟨old, new⟩ := apart word member
  rwa [Text.contains_exchange old new] at found

theorem noneNew_insertion {inserted : Line}
    (apart : ∀ word ∈ words, Text.isApart word.toList inserted = true) (before after : Line) :
    NoneNew words (before ++ after) (before ++ (inserted ++ after)) :=
  fun word member found => Text.contains_of_insertion (apart word member) found

theorem noneNew_replaced {pattern replacement : Line}
    (some : Text.Replaced pattern replacement line other) (filled : pattern ≠ [])
    (replacementFilled : replacement ≠ [])
    (foreign : ∀ word ∈ words, Text.Replaced.Foreign pattern replacement word.toList) :
    NoneNew words line other ∧ NoneNew words other line := by
  have same : ∀ word ∈ words, Text.contains word.toList other =
      Text.contains word.toList line :=
    fun word member => some.contains_eq (foreign word member) filled replacementFilled
  constructor
  · intro word member found
    rwa [same word member] at found
  · intro word member found
    rwa [same word member]

theorem NoneNew.absent (none : NoneNew words line other) {word : String} (listed : word ∈ words)
    (absent : Text.contains word.toList line = false) :
    Text.contains word.toList other = false := by
  rw [Bool.eq_false_iff] at absent ⊢
  exact mt (none word listed) absent

end Words

section Verdicts

variable {line repaired : Line}

theorem looseEquality_of (triggers : NoneNew ["=="] line repaired)
    (excuses : NoneNew ["==="] repaired line) (found : looseEquality.flags repaired = true) :
    looseEquality.flags line = true := by
  simp only [looseEquality, Bool.and_eq_true, Bool.not_eq_true'] at found ⊢
  exact ⟨triggers "==" (by simp) found.1, excuses.absent (by simp) found.2⟩

theorem uncheckedQuery_of
    (triggers : NoneNew [".", "getElementById", "querySelector"] line repaired)
    (excuses : NoneNew ["?."] repaired line) (found : uncheckedQuery.flags repaired = true) :
    uncheckedQuery.flags line = true := by
  simp only [uncheckedQuery, ← Text.contains_singleton, Bool.and_eq_true, Bool.or_eq_true,
    Bool.not_eq_true'] at found ⊢
  obtain ⟨⟨point, unchained⟩, query⟩ := found
  refine ⟨⟨triggers "." (by simp) point, excuses.absent (by simp) unchained⟩, ?_⟩
  exact query.imp (triggers "getElementById" (by simp)) (triggers "querySelector" (by simp))

theorem markerComment_of (triggers : NoneNew ["TODO", "FIXME", "HACK"] line repaired)
    (found : markerComment.flags repaired = true) : markerComment.flags line = true := by
  simp only [markerComment, Bool.or_eq_true] at found ⊢
  exact found.imp (Or.imp (triggers "TODO" (by simp)) (triggers "FIXME" (by simp)))
    (triggers "HACK" (by simp))

/-- Apart from its words, a missing semicolon depends on how the line ends and on whether it is a
comment. -/
theorem missingSemicolon_of (last : repaired.getLast? = line.getLast?)
    (comment : "//".toList.isPrefixOf repaired = "//".toList.isPrefixOf line)
    (excuses : NoneNew ["if", "for", "while", "function"] repaired line)
    (found : missingSemicolon.flags repaired = true) : missingSemicolon.flags line = true := by
  have filled : repaired.isEmpty = line.isEmpty := by
    rw [Bool.eq_iff_iff, List.isEmpty_iff, List.isEmpty_iff, ← List.getLast?_eq_none_iff, last,
      List.getLast?_eq_none_iff]
  have semicolon : ";".toList = [';'] := rfl
  simp only [missingSemicolon, Line.lacksSemicolon, semicolon, Text.isSuffixOf_singleton, filled,
    last, comment, Bool.and_eq_true, Bool.not_eq_true'] at found ⊢
  obtain ⟨⟨⟨⟨ends, noIf⟩, noFor⟩, noWhile⟩, noFunction⟩ := found
  exact ⟨⟨⟨⟨ends, excuses.absent (by simp) noIf⟩, excuses.absent (by simp) noFor⟩,
    excuses.absent (by simp) noWhile⟩, excuses.absent (by simp) noFunction⟩

theorem missingTypeHints_of
    (header : "def ".toList.isPrefixOf repaired = "def ".toList.isPrefixOf line)
    (excuses : NoneNew ["->", ":"] repaired line) (found : missingTypeHints.flags repaired = true) :
    missingTypeHints.flags line = true := by
  simp only [missingTypeHints, header, ← Text.contains_singleton, Bool.and_eq_true,
    Bool.not_eq_true'] at found ⊢
  obtain ⟨⟨start, noArrow⟩, noColon⟩ := found
  have colon : Text.contains ":".toList line = false := excuses.absent (by simp) noColon
  exact ⟨⟨start, excuses.absent (by simp) noArrow⟩, colon⟩

theorem indexIteration_of (triggers : NoneNew ["range(len(", "))"] line repaired)
    (found : indexIteration.flags repaired = true) : indexIteration.flags line = true := by
  simp only [indexIteration, Bool.and_eq_true] at found ⊢
  exact ⟨triggers "range(len(" (by simp) found.1, triggers "))" (by simp) found.2⟩

end Verdicts

/-- The words that make rules for scripts flag a line. -/
def scriptTriggers : List String :=
  ["var ", "==", "console.log", ".", "getElementById", "querySelector", "TODO", "FIXME", "HACK"]

/-- The words that make rules for scripts let a line pass. -/
def scriptExcuses : List String :=
  ["===", "?.", "if", "for", "while", "function"]

/-- A rule for scripts that flags a repaired line has flagged the line before, if the repair has
kept the words in order. Whether a semicolon is missing depends on more than words. -/
theorem flags_of_words {line repaired : Line} (triggers : NoneNew scriptTriggers line repaired)
    (excuses : NoneNew scriptExcuses repaired line)
    (semicolon : missingSemicolon.flags repaired = true → missingSemicolon.flags line = true)
    {other : Rule} (listed : other ∈ scriptRules ++ generalRules)
    (found : other.flags repaired = true) :
    other.flags line = true ∨ other = longLine := by
  simp only [scriptRules, generalRules, List.mem_append, List.mem_cons, List.not_mem_nil,
    or_false] at listed
  rcases listed with (rfl | rfl | rfl | rfl | rfl) | rfl | rfl
  · exact Or.inl (triggers "var " (by simp [scriptTriggers]) found)
  · exact Or.inl (looseEquality_of (triggers.of_subset (by simp [scriptTriggers]))
      (excuses.of_subset (by simp [scriptExcuses])) found)
  · exact Or.inl (triggers "console.log" (by simp [scriptTriggers]) found)
  · exact Or.inl (semicolon found)
  · exact Or.inl (uncheckedQuery_of (triggers.of_subset (by simp [scriptTriggers]))
      (excuses.of_subset (by simp [scriptExcuses])) found)
  · exact Or.inl (markerComment_of (triggers.of_subset (by simp [scriptTriggers])) found)
  · exact Or.inr rfl

section Repairs

variable {line : Line} {other : Rule}

theorem flags_of_varKeyword_repair (trim : line.trimmed = line)
    (flagged : varKeyword.flags line = true) (listed : other ∈ scriptRules ++ generalRules)
    (found : other.flags
      (Line.trimmed (Text.replaceFirst "var ".toList "const ".toList line)) = true) :
    other.flags line = true ∨ other = longLine := by
  obtain ⟨before, after, whole, replaced⟩ :=
    Text.exists_replaceFirst "const ".toList (show "var ".toList ≠ [] by decide) flagged
  have more : after ≠ [] := by
    intro empty
    subst empty
    rw [whole, Line.trimmed, Text.trim_eq_self_iff] at trim
    have blank : Line.isMargin ' ' = true := by decide
    have solid := trim.2 ' ' (by simp)
    rw [blank] at solid
    cases solid
  have still : Line.trimmed (before ++ ("const ".toList ++ after)) = before ++
      ("const ".toList ++ after) := by
    rw [whole] at trim
    exact Line.trimmed_exchange trim (by decide) (by decide) (Or.inl more)
  rw [replaced, still] at found
  have triggers : NoneNew scriptTriggers line (before ++ ("const ".toList ++ after)) := by
    refine .of_erase (Or.inl flagged) ?_
    rw [whole]
    exact noneNew_exchange (by decide) before after
  have excuses : NoneNew scriptExcuses (before ++ ("const ".toList ++ after)) line := by
    rw [whole]
    exact noneNew_exchange (by decide) before after
  refine flags_of_words triggers excuses
    (missingSemicolon_of ?_ ?_ (excuses.of_subset (by decide))) listed found
  · obtain ⟨char, rest, rfl⟩ := List.exists_cons_of_ne_nil more
    rw [whole]
    simp [List.getLast?_append, List.getLast?_cons]
  · rw [whole, Text.isPrefixOf_append_middle (by decide),
      Text.isPrefixOf_append_middle (by decide)]

theorem flags_of_looseEquality_repair (trim : line.trimmed = line)
    (flagged : looseEquality.flags line = true) (listed : other ∈ scriptRules ++ generalRules)
    (found : other.flags (Line.trimmed (Text.replaceAll "==".toList "===".toList line)) = true) :
    other.flags line = true ∨ other = longLine := by
  have filled : "==".toList ≠ [] := by decide
  have replacementFilled : "===".toList ≠ [] := by decide
  have some := Text.replaced_replaceAll filled "===".toList line
  have last : (Text.replaceAll "==".toList "===".toList line).getLast? = line.getLast? :=
    some.getLast?_eq rfl
  have still : Line.trimmed (Text.replaceAll "==".toList "===".toList line) =
      Text.replaceAll "==".toList "===".toList line := by
    rw [Line.trimmed, Text.trim_eq_self_iff] at trim ⊢
    rwa [some.head?_eq rfl filled, last]
  rw [still] at found
  obtain ⟨double, noTriple⟩ : Text.contains "==".toList line = true ∧
      Text.contains "===".toList line = false := by
    simpa only [looseEquality, Bool.and_eq_true, Bool.not_eq_true'] using flagged
  have triggers : NoneNew scriptTriggers line (Text.replaceAll "==".toList "===".toList line) :=
    .of_erase (Or.inl double) (noneNew_replaced some filled replacementFilled (by decide)).1
  have excuses : NoneNew scriptExcuses (Text.replaceAll "==".toList "===".toList line) line :=
    .of_erase (Or.inr noTriple) (noneNew_replaced some filled replacementFilled (by decide)).2
  refine flags_of_words triggers excuses
    (missingSemicolon_of last ?_ (excuses.of_subset (by decide))) listed found
  exact some.isPrefixOf_eq (by decide) filled replacementFilled

theorem flags_of_missingSemicolon_repair (trim : line.trimmed = line)
    (flagged : missingSemicolon.flags line = true) (listed : other ∈ scriptRules ++ generalRules)
    (found : other.flags (Line.trimmed (line ++ [';'])) = true) :
    other.flags line = true ∨ other = longLine := by
  have still : Line.trimmed (line ++ [';']) = line ++ [';'] := by
    have whole : Line.trimmed (line ++ ([] ++ [])) = line ++ ([] ++ []) := by simpa using trim
    exact Line.trimmed_exchange whole (List.cons_ne_nil ';' []) (by decide) (Or.inr (by decide))
  rw [still] at found
  have triggers : NoneNew scriptTriggers line (line ++ [';']) := by
    have inserted := noneNew_insertion
      (show ∀ word ∈ scriptTriggers, Text.isApart word.toList [';'] = true by decide)
      line []
    simpa using inserted
  have excuses : NoneNew scriptExcuses (line ++ [';']) line :=
    fun word _ held => Text.contains_append_of_left held [';']
  exact flags_of_words triggers excuses (fun _ => flagged) listed found

theorem flags_of_uncheckedQuery_repair (trim : line.trimmed = line)
    (flagged : uncheckedQuery.flags line = true) (listed : other ∈ scriptRules ++ generalRules)
    (found : other.flags (Line.trimmed line.chainOptionally) = true) :
    other.flags line = true ∨ other = longLine := by
  rcases Line.chainOptionally_cases line with same | ⟨before, last, after, word, whole, chained⟩
  · rw [same, trim] at found
    exact Or.inl found
  · have split : line = (before ++ [last]) ++ (".".toList ++ after) := by simp [whole]
    have inserted : line.chainOptionally = (before ++ [last]) ++ ("?".toList ++ ('.' :: after)) :=
      by simp [chained]
    have exchanged : line.chainOptionally = (before ++ [last]) ++ ("?.".toList ++ after) := by
      simp [chained]
    have still : Line.trimmed line.chainOptionally = line.chainOptionally := by
      rw [split] at trim
      rw [inserted]
      have apart : Line.trimmed ((before ++ [last]) ++ ([] ++ ('.' :: after))) =
          (before ++ [last]) ++ ([] ++ ('.' :: after)) := trim
      exact Line.trimmed_exchange apart (by decide) (by decide)
        (Or.inl (List.cons_ne_nil '.' after))
    rw [still] at found
    have triggers : NoneNew scriptTriggers line line.chainOptionally := by
      rw [inserted, split]
      exact noneNew_insertion (by decide) (before ++ [last]) ('.' :: after)
    have unchained : Text.contains "?.".toList line = false := by
      simp only [uncheckedQuery, Bool.and_eq_true, Bool.not_eq_true'] at flagged
      exact flagged.1.2
    have excuses : NoneNew scriptExcuses line.chainOptionally line := by
      refine .of_erase (Or.inr unchained) ?_
      rw [exchanged, split]
      exact noneNew_exchange (by decide) (before ++ [last]) after
    refine flags_of_words triggers excuses
      (missingSemicolon_of ?_ ?_ (excuses.of_subset (by decide))) listed found
    · rw [chained, whole]
      simp [List.getLast?_append, List.getLast?_cons]
    · rw [exchanged, split, Text.isPrefixOf_append_middle (by decide),
        Text.isPrefixOf_append_middle (by decide)]

/-- What stands before a line that is turned into a comment. -/
def commentMark : Line := "// ".toList

/-- The remark on a line that is turned into a comment. A blank stands between the two. -/
def removalRemark : Line := "// TODO: Remove debug statement".toList

def asComment (line : Line) : Line := commentMark ++ (line ++ ' ' :: removalRemark)

theorem trimmed_asComment (line : Line) : (asComment line).trimmed = asComment line := by
  have first : commentMark.head? = some '/' := by decide
  have last : removalRemark.getLast? = some 't' := by decide
  have start : (asComment line).head? = some '/' := by
    rw [asComment, List.head?_append, first, Option.some_or]
  have ending : (asComment line).getLast? = some 't' := by
    rw [asComment, List.getLast?_append, List.getLast?_append, List.getLast?_cons, last]
    rfl
  have solid : Line.isMargin '/' = false ∧ Line.isMargin 't' = false := by decide
  rw [Line.trimmed, Text.trim_eq_self_iff, start, ending]
  simpa using solid

/-- A word that the remark is apart from is found in the comment only if it is found in the line. -/
theorem noneNew_asComment {words : List String}
    (apart : ∀ word ∈ words, Text.isApart word.toList commentMark = true ∧
      Text.isApart word.toList (' ' :: removalRemark) = true)
    (line : Line) : NoneNew words line (asComment line) := by
  intro word member found
  obtain ⟨mark, remark⟩ := apart word member
  rw [asComment, Text.contains_append_middle mark,
    ← List.append_nil (' ' :: removalRemark)] at found
  have inside := Text.contains_of_insertion remark found
  rwa [List.append_nil] at inside

/-- The blank before the remark completes the keyword only where the line ends in the rest of it. -/
theorem var_of_asComment (found : varKeyword.flags (asComment line) = true) :
    varKeyword.flags line = true ∨ "var".toList <:+ line := by
  have mark : Text.isApart "var ".toList commentMark = true := by decide
  have remark : Text.isApart "var ".toList removalRemark = true := by decide
  have keyword : "var ".toList = "var".toList ++ [' '] := by decide
  have held : Text.contains "var ".toList (asComment line) = true := found
  rw [asComment, Text.contains_append_middle mark, List.append_cons,
    ← List.append_nil removalRemark] at held
  have inside := Text.contains_of_insertion remark held
  rw [List.append_nil, Text.contains_iff, List.infix_concat_iff, keyword,
    List.suffix_concat_iff] at inside
  rcases inside with (none | ⟨rest, same, ending⟩) | early
  · exact absurd none (List.append_ne_nil_of_right_ne_nil _ (List.cons_ne_nil ' ' []))
  · rw [← List.append_cancel_right same] at ending
    exact Or.inr ending
  · rw [← keyword] at early
    exact Or.inl ((Text.contains_iff _ _).mpr early)

theorem flags_of_consoleCall_repair (flagged : consoleCall.flags line = true)
    (listed : other ∈ scriptRules ++ generalRules)
    (found : other.flags (asComment line).trimmed = true) :
    other.flags line = true ∨ other = longLine ∨ other = markerComment ∨
      other = varKeyword ∧ "var".toList <:+ line := by
  rw [trimmed_asComment] at found
  have triggers : NoneNew ["==", ".", "getElementById", "querySelector"] line (asComment line) :=
    noneNew_asComment (by decide) line
  have excuses : NoneNew ["===", "?."] (asComment line) line :=
    fun word _ held => Text.contains_append_of_right
      (Text.contains_append_of_left held _) commentMark
  simp only [scriptRules, generalRules, List.mem_append, List.mem_cons, List.not_mem_nil,
    or_false] at listed
  rcases listed with (rfl | rfl | rfl | rfl | rfl) | rfl | rfl
  · rcases var_of_asComment found with old | ending
    · exact Or.inl old
    · exact Or.inr (Or.inr (Or.inr ⟨rfl, ending⟩))
  · exact Or.inl (looseEquality_of (triggers.of_subset (by decide))
      (excuses.of_subset (by decide)) found)
  · exact Or.inl flagged
  · have comment : "//".toList.isPrefixOf (asComment line) = true := by
      rw [List.isPrefixOf_iff_prefix]
      exact List.IsPrefix.trans (by decide) (List.prefix_append commentMark _)
    simp only [missingSemicolon, Line.lacksSemicolon, comment, Bool.not_true, Bool.and_false,
      Bool.false_and] at found
    cases found
  · exact Or.inl (uncheckedQuery_of (triggers.of_subset (by decide))
      (excuses.of_subset (by decide)) found)
  · exact Or.inr (Or.inr (Or.inl rfl))
  · exact Or.inr (Or.inl rfl)

theorem flags_of_printCall_repair (trim : line.trimmed = line)
    (flagged : printCall.flags line = true) (listed : other ∈ pythonRules ++ generalRules)
    (found : other.flags
      (Line.trimmed (Text.replaceFirst "print(".toList "logging.info(".toList line)) = true) :
    other.flags line = true ∨ other = longLine := by
  have held : Text.contains "print(".toList line = true := by
    simp only [printCall, Bool.and_eq_true] at flagged
    exact flagged.1
  obtain ⟨before, after, whole, replaced⟩ :=
    Text.exists_replaceFirst "logging.info(".toList (show "print(".toList ≠ [] by decide) held
  have still : Line.trimmed (before ++ ("logging.info(".toList ++ after)) =
      before ++ ("logging.info(".toList ++ after) := by
    rw [whole] at trim
    exact Line.trimmed_exchange trim (by decide) (by decide) (Or.inr (by decide))
  rw [replaced, still] at found
  have triggers : NoneNew ["range(len(", "))", "TODO", "FIXME", "HACK"] line
      (before ++ ("logging.info(".toList ++ after)) := by
    rw [whole]
    exact noneNew_exchange (by decide) before after
  have excuses : NoneNew ["->", ":"] (before ++ ("logging.info(".toList ++ after)) line := by
    rw [whole]
    exact noneNew_exchange (by decide) before after
  simp only [pythonRules, generalRules, List.mem_append, List.mem_cons, List.not_mem_nil,
    or_false] at listed
  rcases listed with (rfl | rfl | rfl) | rfl | rfl
  · exact Or.inl flagged
  · refine Or.inl (missingTypeHints_of ?_ excuses found)
    rw [whole, Text.isPrefixOf_append_middle (by decide), Text.isPrefixOf_append_middle (by decide)]
  · exact Or.inl (indexIteration_of (triggers.of_subset (by decide)) found)
  · exact Or.inl (markerComment_of (triggers.of_subset (by decide)) found)
  · exact Or.inr rfl

/-- The advice against index iteration is a comment that no rule finds fault with. -/
theorem not_flags_advice (listed : other ∈ pythonRules ++ generalRules)
    (differ : other ≠ indexIteration) :
    other.flags (Line.trimmed
      "# Use: for item in collection: instead of for i in range(len(collection)):".toList) =
        false := by
  simp only [pythonRules, generalRules, List.mem_append, List.mem_cons, List.not_mem_nil,
    or_false] at listed
  rcases listed with (rfl | rfl | rfl) | rfl | rfl
  · decide
  · decide
  · exact absurd rfl differ
  · decide
  · decide

end Repairs

/-- The rules for scripts do not run together with those for Python. -/
theorem mem_script_of_applicable {language : Language} (script : language.isScript = true)
    {rule : Rule} (runs : rule ∈ applicable language) : rule ∈ scriptRules ++ generalRules := by
  obtain ⟨listed, covered⟩ := List.mem_filter.mp runs
  have part := mem_part_of_mem listed
  rw [List.mem_append]
  cases scope : rule.scope with
  | script => exact Or.inl (by rwa [scope] at part)
  | everywhere => exact Or.inr (by rwa [scope] at part)
  | python =>
      rw [scope] at covered
      cases language <;> simp [Language.isScript, Scope.covers] at script covered

theorem mem_python_of_applicable {rule : Rule} (runs : rule ∈ applicable .python) :
    rule ∈ pythonRules ++ generalRules := by
  obtain ⟨listed, covered⟩ := List.mem_filter.mp runs
  have part := mem_part_of_mem listed
  rw [List.mem_append]
  cases scope : rule.scope with
  | python => exact Or.inl (by rwa [scope] at part)
  | everywhere => exact Or.inr (by rwa [scope] at part)
  | script =>
      rw [scope] at covered
      cases covered

/-- A rule that flags the repaired line has flagged the line that was repaired, except that the line
may have become too long; where output to the console has been turned into a comment, the remark is
a marker, and it may complete a keyword that the line ends in. -/
theorem repair_adds_nothing {language : Language} {rule other : Rule} {template : RepairTemplate}
    {line : Line} (runs : rule ∈ applicable language) (repairs : rule.template = some template)
    (trim : line.trimmed = line) (flagged : rule.flags line = true)
    (otherRuns : other ∈ applicable language)
    (found : other.flags (Line.trimmed (template.replacement line)) = true) :
    other.flags line = true ∨ other = longLine ∨
      rule = consoleCall ∧
        (other = markerComment ∨ other = varKeyword ∧ "var".toList <:+ line) := by
  have whenPlain : other.flags line = true ∨ other = longLine →
      other.flags line = true ∨ other = longLine ∨
        rule = consoleCall ∧
          (other = markerComment ∨ other = varKeyword ∧ "var".toList <:+ line) :=
    Or.imp_right Or.inl
  obtain ⟨listed, covered⟩ := List.mem_filter.mp runs
  have part := mem_part_of_mem listed
  cases scope : rule.scope with
  | script =>
      rw [scope] at part covered
      have others := mem_script_of_applicable covered otherRuns
      simp only [scriptRules, List.mem_cons, List.not_mem_nil, or_false] at part
      rcases part with rfl | rfl | rfl | rfl | rfl
      all_goals cases repairs
      · exact whenPlain (flags_of_varKeyword_repair trim flagged others found)
      · exact whenPlain (flags_of_looseEquality_repair trim flagged others found)
      · have comment : "// ".toList ++ line ++
            " // TODO: Remove debug statement".toList = asComment line := by
          rw [List.append_assoc]
          rfl
        dsimp only at found
        rw [comment] at found
        rcases flags_of_consoleCall_repair flagged others found with old | long | added
        · exact Or.inl old
        · exact Or.inr (Or.inl long)
        · exact Or.inr (Or.inr ⟨rfl, added⟩)
      · exact whenPlain (flags_of_missingSemicolon_repair trim flagged others found)
      · exact whenPlain (flags_of_uncheckedQuery_repair trim flagged others found)
  | python =>
      rw [scope] at part covered
      have spoken : language = .python := by simpa [Scope.covers] using covered
      subst spoken
      have others := mem_python_of_applicable otherRuns
      simp only [pythonRules, List.mem_cons, List.not_mem_nil, or_false] at part
      rcases part with rfl | rfl | rfl
      all_goals cases repairs
      · exact whenPlain (flags_of_printCall_repair trim flagged others found)
      · by_cases same : other = indexIteration
        · subst same
          exact Or.inl flagged
        · have silent := not_flags_advice others same
          rw [found] at silent
          cases silent
  | everywhere =>
      have none := template_of_everywhere listed scope
      rw [repairs] at none
      cases none

/-- A call with the bare keyword behind it is flagged for a variable once it is a comment, and only
then. -/
theorem repair_adds_nothing_but_var :
    let line : Line := "console.log(1) // var".toList
    line.trimmed = line ∧ consoleCall.flags line = true ∧
      varKeyword.flags (Line.trimmed
        ("// ".toList ++ line ++ " // TODO: Remove debug statement".toList)) = true ∧
      varKeyword.flags line = false ∧
      (varKeyword.flags line = true ∨ varKeyword = longLine ∨
        consoleCall = consoleCall ∧
          (varKeyword = markerComment ∨ varKeyword = varKeyword ∧ "var".toList <:+ line)) := by
  intro line
  have runs : consoleCall ∈ applicable .typescript := List.mem_filter.mpr ⟨by simp [all], rfl⟩
  have otherRuns : varKeyword ∈ applicable .typescript :=
    List.mem_filter.mpr ⟨by simp [all], rfl⟩
  have trim : line.trimmed = line := by decide
  have flagged : consoleCall.flags line = true := by decide
  have found : varKeyword.flags
      (Line.trimmed ("// ".toList ++ line ++ " // TODO: Remove debug statement".toList)) =
        true := by decide
  exact ⟨trim, flagged, found, by decide,
    repair_adds_nothing runs rfl trim flagged otherRuns found⟩

end Rule

end LineReview
