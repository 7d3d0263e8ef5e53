import LineReview.Review
import Mathlib.Tactic.SplitIfs

set_option autoImplicit false

namespace LineReview.Rating

namespace Tally

/-- The sum of two tallies, kind by kind. -/
def add (first second : Tally) : Tally where
  errors := first.errors + second.errors
  warnings := first.warnings + second.warnings
  suggestions := first.suggestions + second.suggestions

theorem ofFindings_append (first second : List Finding) :
    ofFindings (first ++ second) = (ofFindings first).add (ofFindings second) := by
  simp only [ofFindings, add, List.countP_append]

/-- What leaves the kind of every finding alone leaves the tally alone. -/
theorem ofFindings_map (change : Finding → Finding) (findings : List Finding)
    (same : ∀ finding, (change finding).kind = finding.kind) :
    ofFindings (findings.map change) = ofFindings findings := by
  simp only [ofFindings, List.countP_map, Function.comp_def, same]

theorem ofFindings_perm {first second : List Finding} (perm : first.Perm second) :
    ofFindings first = ofFindings second := by
  simp only [ofFindings, perm.countP_eq]

/-- The first tally counts no more findings of any kind than the second. -/
structure AtMost (fewer more : Tally) : Prop where
  errors : fewer.errors ≤ more.errors
  warnings : fewer.warnings ≤ more.warnings
  suggestions : fewer.suggestions ≤ more.suggestions

theorem ofFindings_atMost {first second : List Finding}
    (each : ∀ kind, first.countP (fun finding => finding.kind == kind) ≤
      second.countP (fun finding => finding.kind == kind)) :
    (ofFindings first).AtMost (ofFindings second) :=
  ⟨each .error, each .warning, each .suggestion⟩

theorem atMost_add_left (first second : Tally) : first.AtMost (first.add second) :=
  ⟨Nat.le_add_right _ _, Nat.le_add_right _ _, Nat.le_add_right _ _⟩

theorem atMost_add_right (first second : Tally) : second.AtMost (first.add second) :=
  ⟨Nat.le_add_left _ _, Nat.le_add_left _ _, Nat.le_add_left _ _⟩

/-- The tally keeps the bounds of a rating. -/
def Keeps (tally : Tally) : Rating → Prop
  | .excellent => tally.errors = 0 ∧ tally.warnings = 0 ∧ tally.suggestions ≤ 1
  | .good => tally.errors = 0 ∧ tally.warnings ≤ 2 ∧ tally.suggestions ≤ 3
  | .fair => tally.errors ≤ 1 ∧ tally.warnings ≤ 4
  | .poor => True

theorem Keeps.of_atMost {fewer more : Tally} {rating : Rating} (keeps : more.Keeps rating)
    (atMost : fewer.AtMost more) : fewer.Keeps rating := by
  obtain ⟨errors, warnings, suggestions⟩ := atMost
  cases rating with
  | excellent =>
      obtain ⟨noErrors, noWarnings, fewSuggestions⟩ := keeps
      exact ⟨by omega, by omega, by omega⟩
  | good =>
      obtain ⟨noErrors, fewWarnings, fewSuggestions⟩ := keeps
      exact ⟨by omega, by omega, by omega⟩
  | fair =>
      obtain ⟨fewErrors, fewWarnings⟩ := keeps
      exact ⟨by omega, by omega⟩
  | poor => trivial

end Tally

/-- A tally earns a rating or a better one exactly when it keeps the bounds of that rating. -/
theorem place_ofTally_le_iff (tally : Tally) (rating : Rating) :
    (ofTally tally).place ≤ rating.place ↔ tally.Keeps rating := by
  unfold ofTally
  split_ifs with excellent good fair
  all_goals cases rating <;> simp only [place, Tally.Keeps, iff_true] <;> omega

theorem place_ofTally_le {fewer more : Tally} (atMost : fewer.AtMost more) :
    (ofTally fewer).place ≤ (ofTally more).place := by
  have keeps : more.Keeps (ofTally more) := (place_ofTally_le_iff more _).mp (Nat.le_refl _)
  exact (place_ofTally_le_iff fewer _).mpr (keeps.of_atMost atMost)

theorem isWorseThan_iff {rating threshold : Rating} :
    rating.isWorseThan threshold = true ↔ threshold.place < rating.place :=
  decide_eq_true_iff

theorem isWorseThan_eq_false_iff {rating threshold : Rating} :
    rating.isWorseThan threshold = false ↔ rating.place ≤ threshold.place := by
  rw [← Bool.not_eq_true, isWorseThan_iff, Nat.not_lt]

end LineReview.Rating
