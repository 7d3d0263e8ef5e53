import LineReview.Proofs.Rule.Repetition
import LineReview.Proofs.Text.Run

set_option autoImplicit false

namespace LineReview.Rule

/-- The repair of an unchecked query puts one question mark before the first point that comes right
after an ASCII letter, an ASCII digit or an underscore, and the line is back when the mark is taken
out again. A line without such a point stays as it is. -/
theorem uncheckedQuery_inserts (line : Line) :
    (∃ place, line.IsFirstAccess place ∧
      uncheckedQuery.repaired line = line.insertIdx place '?' ∧
        (uncheckedQuery.repaired line).eraseIdx place = line) ∨
      (∀ place, ¬ line.IsAccess place) ∧ uncheckedQuery.repaired line = line := by
  rw [uncheckedQuery_repaired]
  rcases line.chainOptionally_by_place with ⟨place, first, inserted⟩ | unchanged
  · refine Or.inl ⟨place, first, inserted, ?_⟩
    rw [inserted, List.eraseIdx_insertIdx_self]
  · exact Or.inr unchanged

/-- Only a point after a word character counts, and of these only the first one. -/
example : uncheckedQuery.repaired "f() .é.b.c".toList = "f() .é.b?.c".toList := by decide

section StrictEquality

variable {line : Line}

def equalsRuns (line : Line) : Text.Runs '=' :=
  Text.Runs.ofList '=' line

theorem toList_equalsRuns (line : Line) : (equalsRuns line).toList = line :=
  Text.Runs.toList_ofList '=' line

theorem mem_lengths_equalsRuns_iff {length : Nat} :
    length ∈ (equalsRuns line).lengths ↔ Text.HasRun '=' line length := by
  rw [Text.Runs.mem_lengths_iff, toList_equalsRuns]

theorem contains_equals_iff {size : Nat} (positive : 0 < size) :
    Text.contains (List.replicate size '=') line = true ↔
      ∃ length, Text.HasRun '=' line length ∧ size ≤ length := by
  have found := Text.Runs.contains_replicate_iff positive (equalsRuns line)
  rw [toList_equalsRuns] at found
  simp only [found, mem_lengths_equalsRuns_iff]

theorem looseEquality_flags_iff :
    looseEquality.flags line = true ↔
      Text.HasRun '=' line 2 ∧ ∀ length, Text.HasRun '=' line length → length ≤ 2 := by
  have double : Text.contains "==".toList line = true ↔
      ∃ length, Text.HasRun '=' line length ∧ 2 ≤ length :=
    contains_equals_iff (show 0 < 2 by decide)
  have triple : Text.contains "===".toList line = true ↔
      ∃ length, Text.HasRun '=' line length ∧ 3 ≤ length :=
    contains_equals_iff (show 0 < 3 by decide)
  simp only [looseEquality, Bool.and_eq_true, Bool.not_eq_true', ← Bool.not_eq_true,
    double, triple]
  constructor
  · rintro ⟨⟨length, run, two⟩, none⟩
    have most : ∀ length, Text.HasRun '=' line length → length ≤ 2 := by
      intro length run
      by_contra more
      exact none ⟨length, run, by omega⟩
    have bound := most length run
    obtain rfl : length = 2 := by omega
    exact ⟨run, most⟩
  · rintro ⟨run, most⟩
    refine ⟨⟨2, run, le_rfl⟩, ?_⟩
    rintro ⟨length, longer, three⟩
    have bound := most length longer
    omega

theorem looseEquality_repaired (line : Line) :
    looseEquality.repaired line =
      ((equalsRuns line).resize fun length => 3 * (length / 2) + length % 2).toList := by
  have resized := Text.Runs.replaceAll_toList (equalsRuns line)
  rwa [toList_equalsRuns] at resized

/-- The repair of a loose equality keeps a line but for its maximal runs of equals signs, in which
it makes three signs of every two. A line is flagged for a run of two signs if it has no longer one;
then these runs get one sign more, nothing else changes, and the line is flagged no more. -/
theorem looseEquality_resizes (line : Line) :
    let runs := equalsRuns line
    runs.toList = line ∧
      (∀ length, length ∈ runs.lengths ↔ Text.HasRun '=' line length) ∧
      looseEquality.repaired line =
        (runs.resize fun length => 3 * (length / 2) + length % 2).toList ∧
      (looseEquality.flags line = true ↔
        Text.HasRun '=' line 2 ∧ ∀ length, Text.HasRun '=' line length → length ≤ 2) ∧
      (looseEquality.flags line = true →
        looseEquality.repaired line =
          (runs.resize fun length => if length = 2 then 3 else length).toList ∧
          looseEquality.flags (looseEquality.repaired line) = false) := by
  intro runs
  refine ⟨toList_equalsRuns line, fun _ => mem_lengths_equalsRuns_iff,
    looseEquality_repaired line,
    looseEquality_flags_iff, ?_⟩
  intro flagged
  have most := (looseEquality_flags_iff.mp flagged).2
  have same : ∀ length ∈ runs.lengths, 3 * (length / 2) + length % 2 = if length = 2 then 3
      else length := by
    intro length member
    have bound := most length (mem_lengths_equalsRuns_iff.mp member)
    split <;> omega
  refine ⟨?_, looseEquality_settled flagged⟩
  rw [looseEquality_repaired, Text.Runs.resize_congr same]

theorem looseEquality_resizes_at_both_ends :
    let line : Line := "== a = b != c ==".toList
    looseEquality.flags line = true ∧
    looseEquality.repaired line = "=== a = b != c ===".toList ∧
      looseEquality.flags (looseEquality.repaired line) = false := by
  intro line
  have flagged : looseEquality.flags line = true := by decide
  obtain ⟨-, -, -, -, settled⟩ := looseEquality_resizes line
  obtain ⟨resized, silent⟩ := settled flagged
  exact ⟨flagged, resized.trans (by decide), silent⟩

end StrictEquality

end LineReview.Rule
