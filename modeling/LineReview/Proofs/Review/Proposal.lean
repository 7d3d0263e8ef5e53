import LineReview.Proofs.Review.Reference
import LineReview.Proofs.Rule.Repetition

set_option autoImplicit false

namespace LineReview

namespace Rule

/-- What is proposed for every line that iterates over indices. -/
def iterationAdvice : String :=
  "# Use: for item in collection: instead of for i in range(len(collection)):"

section Change

variable {rule : Rule} {line : Line}

theorem replaceFirst_ne_self {pattern replacement text : List Char} (filled : pattern ≠ [])
    (found : Text.contains pattern text = true) (differ : replacement.length ≠ pattern.length) :
    Text.replaceFirst pattern replacement text ≠ text := by
  obtain ⟨before, after, whole, replaced⟩ := Text.exists_replaceFirst replacement filled found
  intro same
  rw [replaced, whole] at same
  have lengths := congrArg List.length same
  simp only [List.length_append] at lengths
  omega

/-- A repair that settles the matter is not the line itself. -/
theorem repaired_ne_self_of_settled (flagged : rule.flags line = true)
    (settled : rule.flags (rule.repaired line) = false) : rule.repaired line ≠ line := by
  intro same
  rw [same, flagged] at settled
  cases settled

theorem varKeyword_changes (flagged : varKeyword.flags line = true) :
    varKeyword.repaired line ≠ line :=
  replaceFirst_ne_self (show "var ".toList ≠ [] by decide) flagged
    (show "const ".toList.length ≠ _ by decide)

theorem printCall_changes (flagged : printCall.flags line = true) :
    printCall.repaired line ≠ line := by
  have held : Text.contains "print(".toList line = true := by
    simp only [printCall, Bool.and_eq_true] at flagged
    exact flagged.1
  exact replaceFirst_ne_self (by decide) held (show "logging.info(".toList.length ≠ _ by decide)

theorem consoleCall_changes (line : Line) : consoleCall.repaired line ≠ line := by
  intro same
  have lengths : ("// ".toList ++ line ++ " // TODO: Remove debug statement".toList).length =
      line.length :=
    congrArg List.length same
  have mark : "// ".toList.length = 3 := rfl
  simp only [List.length_append, mark] at lengths
  omega

/-- The lines that a rule would have as they are, among those that it flags. -/
theorem repaired_eq_self_iff (listed : rule ∈ all) (repairs : rule.template.isSome = true)
    (flagged : rule.flags line = true) :
    rule.repaired line = line ↔
      rule = uncheckedQuery ∧ ¬ line.HasMemberAccess ∨ rule = indexIteration ∧
        line = iterationAdvice.toList := by
  -- Rules are told apart by their identifiers, as equality of rules is not decidable.
  have otherwise : rule.id ≠ uncheckedQuery.id → rule.id ≠ indexIteration.id →
      rule.repaired line ≠ line →
        (rule.repaired line = line ↔
          rule = uncheckedQuery ∧ ¬ line.HasMemberAccess ∨ rule = indexIteration ∧
            line = iterationAdvice.toList) := by
    intro noQuery noIteration changes
    refine iff_of_false changes ?_
    rintro (⟨rfl, -⟩ | ⟨rfl, -⟩)
    · exact noQuery rfl
    · exact noIteration rfl
  simp only [all, List.mem_cons, List.not_mem_nil, or_false] at listed
  rcases listed with rfl | rfl | rfl | rfl | rfl | rfl | rfl | rfl | rfl | rfl
  · exact otherwise (by decide) (by decide) (varKeyword_changes flagged)
  · exact otherwise (by decide) (by decide)
      (repaired_ne_self_of_settled flagged (looseEquality_settled flagged))
  · exact otherwise (by decide) (by decide) (consoleCall_changes line)
  · exact otherwise (by decide) (by decide)
      (repaired_ne_self_of_settled flagged (missingSemicolon_settled line))
  · rw [uncheckedQuery_repaired, Line.chainOptionally_eq_self_iff]
    refine ⟨fun without => Or.inl ⟨rfl, without⟩, ?_⟩
    rintro (⟨-, without⟩ | ⟨same, -⟩)
    · exact without
    · exact absurd (congrArg Rule.id same) (by decide)
  · exact otherwise (by decide) (by decide) (printCall_changes flagged)
  · cases repairs
  · refine ⟨fun same => Or.inr ⟨rfl, same.symm⟩, ?_⟩
    rintro (⟨same, -⟩ | ⟨-, rfl⟩)
    · exact absurd (congrArg Rule.id same) (by decide)
    · rfl
  · cases repairs
  · cases repairs

end Change

end Rule

namespace Site

theorem code_of_repair? {site : Site Rule} {repair : Repair}
    (repaired : site.repair? = some repair) :
    site.entry.template.isSome = true ∧
      repair.code = String.ofList (site.entry.repaired site.line) := by
  obtain ⟨template, has, rfl⟩ := Option.map_eq_some_iff.mp repaired
  refine ⟨by rw [has]; rfl, ?_⟩
  rw [Rule.repaired, has]
  rfl

end Site

namespace Review

/-- A repair proposes the trimmed line itself in two cases: the line queries the document, and no
point on it comes right after a letter, a digit or an underscore; or the line is the advice against
iteration over indices. Every other repair proposes a change. -/
theorem proposes_line_itself_iff (text : String) (language : Language) :
    ∀ repair ∈ (ofText text language).repairs,
      ∃ site : Site Rule, site.Flagged text language ∧
        site.repair? = some repair ∧
        (repair.code = String.ofList site.line ↔
          site.entry = Rule.uncheckedQuery ∧ ¬ site.line.HasMemberAccess ∨
            site.entry = Rule.indexIteration ∧ site.line = Rule.iterationAdvice.toList) := by
  intro repair member
  obtain ⟨site, flag, repaired⟩ := mem_repairs_iff.mp member
  obtain ⟨repairs, code⟩ := Site.code_of_repair? repaired
  refine ⟨site, flag, repaired, ?_⟩
  rw [code, String.ofList_inj]
  exact Rule.repaired_eq_self_iff flag.2.1 repairs flag.2.2.2

theorem proposes_line_itself_iff_of_access :
    let text := "a.getElementById(b);"
    ∃ repair ∈ (ofText text .javascript).repairs,
      ∃ site : Site Rule, site.Flagged text .javascript ∧
        site.repair? = some repair ∧ site.line.HasMemberAccess ∧
        repair.code ≠ String.ofList site.line := by
  intro text
  have listed : "bug-1-null-check" ∈ (ofText text .javascript).repairs.map Repair.findingId := by
    decide
  obtain ⟨repair, member, -⟩ := List.mem_map.mp listed
  obtain ⟨site, flag, repaired, itself⟩ :=
    proposes_line_itself_iff text .javascript repair member
  have line : site.line = text.toList := by
    obtain ⟨index, piece, found, -, shown⟩ := flag.1
    have single : Line.ofText text = [text.toList] := by decide
    have only : piece ∈ Line.ofText text := List.mem_of_getElem? found
    rw [single, List.mem_singleton] at only
    rw [shown, only]
    decide
  have access : site.line.HasMemberAccess :=
    ⟨[], 'a', "getElementById(b);".toList, by decide, by rw [line]; decide⟩
  refine ⟨repair, member, site, flag, repaired, access, ?_⟩
  rw [ne_eq, itself]
  rintro (⟨-, without⟩ | ⟨-, advice⟩)
  · exact without access
  · rw [line] at advice
    exact absurd advice (by decide)

/-- A query right after a call is proposed as it is. -/
theorem query_of_call_proposed_unchanged :
    let text := "getElementById('a').value;"
    ∃ (site : Site Rule) (repair : Repair),
      site.Flagged text .javascript ∧ site.repair? = some repair ∧
      repair ∈ (ofText text .javascript).repairs ∧ repair.code = String.ofList site.line := by
  intro text
  have on : Site.IsOn text (⟨1, text.toList, Rule.uncheckedQuery⟩ : Site Rule) :=
    ⟨0, text.toList, by decide, rfl, by decide⟩
  have flag : Site.Flagged text .javascript ⟨1, text.toList, Rule.uncheckedQuery⟩ :=
    ⟨on, by simp [Rule.all], rfl, by decide⟩
  exact ⟨_, _, flag, rfl, mem_repairs_iff.mpr ⟨_, flag, rfl⟩, by decide⟩

end Review

end LineReview
