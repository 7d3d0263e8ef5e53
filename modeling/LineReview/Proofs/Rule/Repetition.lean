import LineReview.Proofs.Rule.Repair
import LineReview.Proofs.Text.Occurrence

set_option autoImplicit false

namespace LineReview

namespace Line

/-- Somewhere on the line a point follows a letter, a digit or an underscore. -/
def HasMemberAccess (line : Line) : Prop :=
  ∃ before last after, isWord last = true ∧ line = before ++ last :: '.' :: after

theorem hasMemberAccess_iff {line : Line} :
    line.HasMemberAccess ↔ ∃ place, line.IsAccess place := by
  constructor
  · rintro ⟨before, last, after, word, whole⟩
    exact ⟨_, before, last, after, whole, isWord_iff.mp word, rfl⟩
  · rintro ⟨_, before, last, after, whole, word, -⟩
    exact ⟨before, last, after, isWord_iff.mpr word, whole⟩

/-- A line is changed just where it has a member access. -/
theorem chainOptionally_eq_self_iff (line : Line) :
    chainOptionally line = line ↔ ¬ line.HasMemberAccess := by
  rw [hasMemberAccess_iff, not_exists]
  rcases chainOptionally_by_place line with ⟨place, ⟨access, -⟩,
    inserted⟩ | ⟨without, same⟩
  · refine iff_of_false ?_ fun without => without place access
    obtain ⟨before, last, after, whole, -, rfl⟩ := access
    intro same
    rw [inserted] at same
    have inside : before.length + 1 ≤ line.length := by
      rw [whole, List.length_append, List.length_cons]
      omega
    have longer := congrArg List.length same
    rw [List.length_insertIdx, if_pos inside] at longer
    omega
  · exact iff_of_true same without

end Line

namespace Rule

def repaired (rule : Rule) (line : Line) : Line :=
  rule.template.elim line fun template => template.replacement line

/-- Each repair takes the first of the words that are left and moves the others on, and the rule
flags the line as long as there are words left. -/
def UsesUp (rule : Rule) (word : String) (growth : Nat) (line : Line) : Prop :=
  ∀ count,
    Text.places word.toList (rule.repaired^[count] line) =
        ((Text.places word.toList line).drop count).map (· + count * growth) ∧
      (rule.flags (rule.repaired^[count] line) = true ↔
        count < (Text.places word.toList line).length)

section Repetition

variable {rule : Rule} {line : Line}

/-- A line stays flagged over and over if it does so once. -/
theorem flags_iterate
    (keeps : ∀ line, rule.flags line = true → rule.flags (rule.repaired line) = true)
    (flagged : rule.flags line = true) (count : Nat) :
    rule.flags (rule.repaired^[count] line) = true := by
  induction count with
  | zero => exact flagged
  | succ count ih =>
      rw [Function.iterate_succ_apply']
      exact keeps _ ih

/-- A word is left on a line just where there are more places than repairs. -/
theorem contains_iterate_iff {pattern replacement : List Char}
    (solitary : Text.isSolitary pattern = true) (apart : Text.isApart pattern replacement = true)
    (filled : pattern ≠ []) {growth : Nat} (longer : replacement.length = pattern.length + growth)
    (count : Nat) :
    Text.contains pattern ((Text.replaceFirst pattern replacement)^[count] line) = true ↔
      count < (Text.places pattern line).length := by
  have left := Text.places_iterate_replaceFirst solitary apart filled longer line count
  rw [← Bool.not_eq_false, ← Text.places_eq_nil_iff filled, left, List.map_eq_nil_iff,
    List.drop_eq_nil_iff, not_le]

theorem varKeyword_usesUp (line : Line) : varKeyword.UsesUp "var " 2 line := by
  intro count
  have solitary : Text.isSolitary "var ".toList = true := by decide
  have apart : Text.isApart "var ".toList "const ".toList = true := by decide
  have longer : "const ".toList.length = "var ".toList.length + 2 := rfl
  exact ⟨Text.places_iterate_replaceFirst solitary apart (by decide) longer line count,
    contains_iterate_iff solitary apart (by decide) longer count⟩

/-- A call that logs brings no comment. -/
theorem hash_not_mem_iterate (absent : '#' ∉ line) (count : Nat) :
    '#' ∉ printCall.repaired^[count] line := by
  induction count with
  | zero => exact absent
  | succ count ih =>
      rw [Function.iterate_succ_apply']
      intro member
      rcases Text.mem_of_mem_replaceFirst member with inserted | kept
      · exact absurd inserted (by decide)
      · exact ih kept

theorem printCall_usesUp (flagged : printCall.flags line = true) :
    printCall.UsesUp "print(" 7 line := by
  intro count
  have solitary : Text.isSolitary "print(".toList = true := by decide
  have apart : Text.isApart "print(".toList "logging.info(".toList = true := by decide
  have longer : "logging.info(".toList.length = "print(".toList.length + 7 := rfl
  have verdict : ∀ other, printCall.flags other = true ↔
      Text.contains "print(".toList other = true ∧ '#' ∉ other := by
    intro other
    simp only [printCall, Bool.and_eq_true, Bool.not_eq_true', ← Bool.not_eq_true,
      List.contains_iff_mem]
  have clean := hash_not_mem_iterate ((verdict line).mp flagged).2 count
  refine ⟨Text.places_iterate_replaceFirst solitary apart (by decide) longer line count, ?_⟩
  rw [verdict, ← contains_iterate_iff solitary apart (by decide) longer count]
  exact and_iff_left clean

theorem looseEquality_settled (flagged : looseEquality.flags line = true) :
    looseEquality.flags (looseEquality.repaired line) = false := by
  have held : Text.contains "==".toList line = true := by
    simp only [looseEquality, Bool.and_eq_true] at flagged
    exact flagged.1
  have strict : Text.contains "===".toList (looseEquality.repaired line) = true :=
    Text.contains_replaceAll "===".toList (by decide) held
  change (_ && !Text.contains "===".toList (looseEquality.repaired line)) = false
  rw [strict, Bool.not_true, Bool.and_false]

theorem missingSemicolon_settled (line : Line) :
    missingSemicolon.flags (missingSemicolon.repaired line) = false := by
  have ended : ";".toList.isSuffixOf (line ++ [';']) = true := by
    rw [List.isSuffixOf_iff_suffix]
    exact List.suffix_append line [';']
  change Line.lacksSemicolon (line ++ [';']) = false
  rw [Line.lacksSemicolon, ended, Bool.not_true]
  simp only [Bool.and_false, Bool.false_and]

theorem uncheckedQuery_repaired (line : Line) :
    uncheckedQuery.repaired line = line.chainOptionally := rfl

/-- A query is checked once its line has a member access to chain, and its line is left alone
otherwise. -/
theorem uncheckedQuery_settled_iff (flagged : uncheckedQuery.flags line = true) :
    uncheckedQuery.flags (uncheckedQuery.repaired line) = false ↔ line.HasMemberAccess := by
  rw [uncheckedQuery_repaired]
  rcases Line.chainOptionally_cases line with same | ⟨before, last, after, word, whole, chained⟩
  · rw [same, flagged]
    have without := (Line.chainOptionally_eq_self_iff line).mp same
    exact ⟨nofun, fun access => absurd access without⟩
  · have found : Text.contains "?.".toList line.chainOptionally = true := by
      rw [Text.contains_iff, chained]
      exact ⟨before ++ [last], after, by simp⟩
    refine ⟨fun _ => ⟨before, last, after, word, whole⟩, fun _ => ?_⟩
    change (_ && !Text.contains "?.".toList line.chainOptionally && _) = false
    rw [found, Bool.not_true, Bool.and_false, Bool.false_and]

theorem consoleCall_keeps (line : Line) (flagged : consoleCall.flags line = true) :
    consoleCall.flags (consoleCall.repaired line) = true :=
  Text.contains_append_of_left (Text.contains_append_of_right flagged _) _

/-- The advice on iteration quotes the very pattern that it advises against. -/
theorem indexIteration_keeps (line : Line) :
    indexIteration.flags (indexIteration.repaired line) = true := by
  change indexIteration.flags
    "# Use: for item in collection: instead of for i in range(len(collection)):".toList = true
  decide

/-- What it comes to when a rule's repair is made over and over on a line that the rule flags. -/
theorem repeated_repairs (line : Line) :
    (looseEquality.flags line = true →
      looseEquality.flags (looseEquality.repaired line) = false) ∧
    (missingSemicolon.flags line = true →
      missingSemicolon.flags (missingSemicolon.repaired line) = false) ∧
    (uncheckedQuery.flags line = true →
      (uncheckedQuery.flags (uncheckedQuery.repaired line) = false ↔ line.HasMemberAccess) ∧
      (¬ line.HasMemberAccess → uncheckedQuery.repaired line = line)) ∧
    (varKeyword.flags line = true → varKeyword.UsesUp "var " 2 line) ∧
    (printCall.flags line = true → printCall.UsesUp "print(" 7 line) ∧
    (consoleCall.flags line = true →
      ∀ count, consoleCall.flags (consoleCall.repaired^[count] line) = true) ∧
    (indexIteration.flags line = true →
      ∀ count, indexIteration.flags (indexIteration.repaired^[count] line) = true) := by
  refine ⟨looseEquality_settled, fun _ => missingSemicolon_settled line, ?_,
    fun _ => varKeyword_usesUp line,
    printCall_usesUp, flags_iterate consoleCall_keeps,
      flags_iterate fun other _ => indexIteration_keeps other⟩
  intro flagged
  exact ⟨uncheckedQuery_settled_iff flagged, (Line.chainOptionally_eq_self_iff line).mpr⟩

end Repetition

/-- One line for scripts and one for Python that keep all seven rules busy. -/
theorem repeated_repairs_of_busy_lines :
    let script : Line := "var a = b == c; var d = console.log(document.getElementById(e))".toList
    let python : Line := "for i in range(len(a)): print(print(a[i]))".toList
    (looseEquality.flags script = true ∧
      looseEquality.flags (looseEquality.repaired script) = false) ∧
      (missingSemicolon.flags script = true ∧
        missingSemicolon.flags (missingSemicolon.repaired script) = false) ∧
      (uncheckedQuery.flags script = true ∧ script.HasMemberAccess ∧
        uncheckedQuery.flags (uncheckedQuery.repaired script) = false) ∧
      (varKeyword.flags script = true ∧ Text.places "var ".toList script = [0, 16] ∧
        Text.places "var ".toList (varKeyword.repaired^[1] script) = [18] ∧
        ¬ varKeyword.flags (varKeyword.repaired^[2] script) = true) ∧
      (printCall.flags python = true ∧ Text.places "print(".toList python = [24, 30] ∧
        Text.places "print(".toList (printCall.repaired^[1] python) = [37] ∧
        ¬ printCall.flags (printCall.repaired^[2] python) = true) ∧
      (consoleCall.flags script = true ∧
        consoleCall.flags (consoleCall.repaired^[5] script) = true) ∧
      (indexIteration.flags python = true ∧
        indexIteration.flags (indexIteration.repaired^[5] python) = true) := by
  intro script python
  have access : script.HasMemberAccess :=
    ⟨"var a = b == c; var d = consol".toList, 'e',
      "log(document.getElementById(e))".toList, by decide, by decide⟩
  have keywords : Text.places "var ".toList script = [0, 16] := by decide
  have calls : Text.places "print(".toList python = [24, 30] := by decide
  obtain ⟨equality, semicolon, query, var, -, console, -⟩ := repeated_repairs script
  obtain ⟨-, -, -, -, print, -, iteration⟩ := repeated_repairs python
  have declared := var (by decide)
  have printed := print (by decide)
  unfold UsesUp at declared printed
  rw [keywords] at declared
  rw [calls] at printed
  exact ⟨⟨by decide, equality (by decide)⟩, ⟨by decide, semicolon (by decide)⟩,
    ⟨by decide, access, (query (by decide)).1.mpr access⟩,
    ⟨by decide, keywords, (declared 1).1,
      fun still => absurd ((declared 2).2.mp still) (by decide)⟩,
    ⟨by decide, calls, (printed 1).1, fun still => absurd ((printed 2).2.mp still) (by decide)⟩,
    ⟨by decide, console (by decide) 5⟩, ⟨by decide, iteration (by decide) 5⟩⟩

end Rule

end LineReview
