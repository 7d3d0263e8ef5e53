import LineReview.Rule
import Mathlib.Data.List.TakeWhile

set_option autoImplicit false

namespace LineReview.Line

/-- An ASCII letter, an ASCII digit or the underscore. -/
def IsIdentifierChar (char : Char) : Prop :=
  'A' ≤ char ∧ char ≤ 'Z' ∨ 'a' ≤ char ∧ char ≤ 'z' ∨ '0' ≤ char ∧
    char ≤ '9' ∨ char = '_'

/-- The place of a point that comes right after such a character. -/
def IsAccess (line : Line) (place : Nat) : Prop :=
  ∃ before last after, line = before ++ last :: '.' :: after ∧ IsIdentifierChar last ∧
    place = before.length + 1

/-- The first of these places. -/
def IsFirstAccess (line : Line) (place : Nat) : Prop :=
  line.IsAccess place ∧ ∀ earlier < place, ¬ line.IsAccess earlier

theorem isWord_iff {char : Char} : isWord char = true ↔ IsIdentifierChar char := by
  have upper : char.isUpper = true ↔ 'A' ≤ char ∧ char ≤ 'Z' := decide_eq_true_iff
  have lower : char.isLower = true ↔ 'a' ≤ char ∧ char ≤ 'z' := by
    change (decide ('a' ≤ char) && decide (char ≤ 'z')) = true ↔ _
    rw [Bool.and_eq_true, decide_eq_true_iff, decide_eq_true_iff]
  have digit : char.isDigit = true ↔ '0' ≤ char ∧ char ≤ '9' := by
    change (decide ('0' ≤ char) && decide (char ≤ '9')) = true ↔ _
    rw [Bool.and_eq_true, decide_eq_true_iff, decide_eq_true_iff]
  change (char.isUpper || char.isLower || char.isDigit || char == '_') = true ↔ _
  rw [Bool.or_eq_true, Bool.or_eq_true, Bool.or_eq_true, upper, lower, digit, beq_iff_eq,
    or_assoc, or_assoc]
  rfl

theorem isWord_point : isWord '.' = false := by decide

/-- A member access is a name of word characters, a point and the rest of the line. -/
theorem memberAccess?_eq_some_iff {line name after : Line} :
    memberAccess? line = some (name, after) ↔
      line = name ++ '.' :: after ∧ name ≠ [] ∧ ∀ char ∈ name, isWord char = true := by
  constructor
  · intro found
    unfold memberAccess? at found
    split at found
    · rename_i first others rest named behind
      simp only [Option.some.injEq, Prod.mk.injEq] at found
      obtain ⟨rfl, rfl⟩ := found
      have whole := List.takeWhile_append_dropWhile (p := isWord) (l := line)
      rw [named, behind] at whole
      refine ⟨whole.symm, List.cons_ne_nil _ _, ?_⟩
      intro char member
      rw [← named] at member
      exact List.mem_takeWhile_imp member
    · cases found
  · rintro ⟨rfl, filled, words⟩
    have named : (name ++ '.' :: after).takeWhile isWord = name := by
      rw [List.takeWhile_append_of_pos words, List.takeWhile_cons_of_neg (by simp [isWord_point]),
        List.append_nil]
    have behind : (name ++ '.' :: after).dropWhile isWord = '.' :: after := by
      rw [List.dropWhile_append_of_pos words, List.dropWhile_cons_of_neg (by simp [isWord_point])]
    obtain ⟨first, rest, rfl⟩ := List.exists_cons_of_ne_nil filled
    rw [memberAccess?, named, behind]
    rfl

/-- Of the word characters that a member access begins with, only the last one matters. -/
theorem chainOptionally_cons (first : Char) (rest : Line) :
    chainOptionally (first :: rest) =
      if isWord first = true ∧ rest.head? = some '.' then first :: '?' :: rest
      else first :: chainOptionally rest := by
  rw [chainOptionally]
  cases found : memberAccess? (first :: rest) with
  | some access =>
      obtain ⟨name, after⟩ := access
      obtain ⟨whole, filled, words⟩ := memberAccess?_eq_some_iff.mp found
      obtain ⟨char, others, rfl⟩ := List.exists_cons_of_ne_nil filled
      obtain ⟨rfl, rfl⟩ : first = char ∧ rest = others ++ '.' :: after := by simpa using whole
      cases others with
      | nil => simp [words]
      | cons second others =>
          have inside : memberAccess? (second :: (others ++ '.' :: after)) =
              some (second :: others, after) := by
            rw [memberAccess?_eq_some_iff]
            exact ⟨rfl, List.cons_ne_nil _ _,
              fun char member => words char (List.mem_cons_of_mem _ member)⟩
          have solid : second ≠ '.' := by
            rintro rfl
            have word := words '.' (by simp)
            rw [isWord_point] at word
            cases word
          simp [chainOptionally, inside, solid]
  | none =>
      have apart : ¬ (isWord first = true ∧ rest.head? = some '.') := by
        rintro ⟨word, point⟩
        obtain ⟨after, rfl⟩ := List.head?_eq_some_iff.mp point
        have here : memberAccess? (first :: '.' :: after) = some ([first], after) := by
          rw [memberAccess?_eq_some_iff]
          exact ⟨rfl, List.cons_ne_nil _ _, by simpa using word⟩
        rw [here] at found
        cases found
      rw [if_neg apart]

theorem isAccess_cons {first : Char} {rest : Line} {place : Nat} :
    IsAccess (first :: rest) place ↔
      place = 1 ∧ isWord first = true ∧ rest.head? = some '.' ∨
        ∃ later, place = later + 1 ∧ IsAccess rest later := by
  rw [isWord_iff]
  constructor
  · rintro ⟨before, last, after, whole, word, rfl⟩
    cases before with
    | nil =>
        cases whole
        exact Or.inl ⟨rfl, word, rfl⟩
    | cons char before =>
        cases whole
        exact Or.inr ⟨_, rfl, before, last, after, rfl, word, rfl⟩
  · rintro (⟨rfl, word, point⟩ | ⟨_, rfl, before, last, after, rfl, word, rfl⟩)
    · obtain ⟨after, rfl⟩ := List.head?_eq_some_iff.mp point
      exact ⟨[], first, after, rfl, word, rfl⟩
    · exact ⟨first :: before, last, after, rfl, word, rfl⟩

/-- A question mark is put in at the place of the first access, or there is no access and nothing
changes. -/
theorem chainOptionally_by_place (line : Line) :
    (∃ place, line.IsFirstAccess place ∧ chainOptionally line = line.insertIdx place '?') ∨
      (∀ place, ¬ line.IsAccess place) ∧ chainOptionally line = line := by
  induction line with
  | nil =>
      refine Or.inr ⟨?_, rfl⟩
      rintro place ⟨before, last, after, whole, -⟩
      simp at whole
  | cons first rest ih =>
      rw [chainOptionally_cons]
      by_cases here : isWord first = true ∧ rest.head? = some '.'
      · rw [if_pos here]
        refine Or.inl ⟨1, ⟨isAccess_cons.mpr (Or.inl ⟨rfl, here⟩), ?_⟩, rfl⟩
        rintro earlier less ⟨before, _, _, -, -, place⟩
        omega
      · have later : ∀ place, IsAccess (first :: rest) place ↔
            ∃ later, place = later + 1 ∧ IsAccess rest later := by
          intro place
          rw [isAccess_cons]
          exact or_iff_right fun access => here access.2
        rw [if_neg here]
        rcases ih with ⟨place, ⟨access, least⟩, inserted⟩ | ⟨without, same⟩
        · refine Or.inl ⟨place + 1, ⟨(later _).mpr ⟨place, rfl, access⟩, ?_⟩, ?_⟩
          · intro earlier less found
            obtain ⟨inside, rfl, access⟩ := (later _).mp found
            exact least inside (by omega) access
          · rw [inserted, List.insertIdx_succ_cons]
        · refine Or.inr ⟨?_, by rw [same]⟩
          intro place found
          obtain ⟨inside, -, access⟩ := (later _).mp found
          exact without inside access

theorem insertIdx_length_append (before after : Line) (char : Char) :
    (before ++ after).insertIdx before.length char = before ++ char :: after := by
  induction before with
  | nil => rfl
  | cons first rest ih =>
    rw [List.cons_append, List.length_cons, List.insertIdx_succ_cons, ih, List.cons_append]

/-- A line either has no member access, or one question mark is put before a point that a word
character precedes. -/
theorem chainOptionally_cases (line : Line) :
    chainOptionally line = line ∨
      ∃ before last after, isWord last = true ∧ line = before ++ last :: '.' :: after ∧
        chainOptionally line = before ++ last :: '?' :: '.' :: after := by
  rcases chainOptionally_by_place line
    with ⟨_, ⟨⟨before, last, after, whole, word, rfl⟩, -⟩, inserted⟩ | ⟨-, same⟩
  · refine Or.inr ⟨before, last, after, isWord_iff.mpr word, whole, ?_⟩
    have put := insertIdx_length_append (before ++ [last]) ('.' :: after) '?'
    rw [List.length_append, List.length_singleton, List.append_assoc, List.append_assoc] at put
    rw [inserted, whole]
    exact put
  · exact Or.inl same

end LineReview.Line
