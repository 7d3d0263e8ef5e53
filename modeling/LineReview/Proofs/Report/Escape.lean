import LineReview.Report.Panel
import Mathlib.Data.List.TakeWhile

set_option autoImplicit false

/-! Escape sequences in text. Stripping removes, in one pass from left to right, every sequence that
changes how a terminal shows what follows, and it can be done part by part wherever no sequence runs
across the border of the parts. -/

namespace LineReview.Escape

/-- The character that opens a sequence. -/
def mark : Char := '\x1b'

/-- The characters that select a style in a sequence: digits, and semicolons between the numbers. -/
def isParameter (char : Char) : Bool :=
  char.isDigit || char == ';'

/-- What follows the sequence at the start of a text, if there is one: the mark, a bracket,
parameters and the letter m. -/
def after? : List Char → Option (List Char)
  | first :: '[' :: rest =>
    match first == mark, rest.dropWhile isParameter with
    | true, 'm' :: after => some after
    | _, _ => none
  | _ => none

def IsSequence (text : List Char) : Prop :=
  ∃ parameters, (∀ char ∈ parameters, isParameter char = true) ∧
    text = mark :: '[' :: (parameters ++ ['m'])

theorem after?_eq_some_iff {text after : List Char} :
    after? text = some after ↔
      ∃ sequence, IsSequence sequence ∧ text = sequence ++ after := by
  constructor
  · intro found
    unfold after? at found
    split at found
    · rename_i first rest
      split at found
      · rename_i opened ended
        cases found
        refine ⟨mark :: '[' :: (rest.takeWhile isParameter ++ ['m']), ⟨_, ?_, rfl⟩, ?_⟩
        · intro char member
          exact List.mem_takeWhile_imp member
        · rw [beq_iff_eq.mp opened]
          have whole := List.takeWhile_append_dropWhile (p := isParameter) (l := rest)
          rw [ended] at whole
          simp [whole]
      · cases found
    · cases found
  · rintro ⟨_, ⟨parameters, listed, rfl⟩, rfl⟩
    have ended : (parameters ++ 'm' :: after).dropWhile isParameter = 'm' :: after := by
      rw [List.dropWhile_append_of_pos listed]
      rfl
    simp [after?, ended]

/-- What follows a sequence is shorter than the text. -/
theorem length_lt_of_after? {text after : List Char} (found : after? text = some after) :
    after.length < text.length := by
  obtain ⟨_, ⟨parameters, -, rfl⟩, rfl⟩ := after?_eq_some_iff.mp found
  simp
  omega

/-- Removes every sequence in one pass from left to right. -/
def strip : List Char → List Char
  | [] => []
  | first :: rest =>
    match _ : after? (first :: rest) with
    | some after => strip after
    | none => first :: strip rest
termination_by text => text.length
decreasing_by
  · exact length_lt_of_after? ‹_›
  · exact Nat.lt_succ_self _

@[simp] theorem strip_nil : strip [] = [] := by
  rw [strip]

theorem strip_of_after? {text after : List Char} (found : after? text = some after) :
    strip text = strip after := by
  cases text with
  | nil => cases found
  | cons first rest =>
      rw [strip]
      split
      · rename_i other same
        rw [found] at same
        cases same
        rfl
      · rename_i none
        rw [found] at none
        cases none

theorem strip_cons_of_none {first : Char} {rest : List Char} (none : after?
    (first :: rest) = none) :
    strip (first :: rest) = first :: strip rest := by
  rw [strip]
  split
  · rename_i found
    rw [none] at found
    cases found
  · rfl

theorem strip_cons_of_ne {first : Char} (other : first ≠ mark) (rest : List Char) :
    strip (first :: rest) = first :: strip rest := by
  apply strip_cons_of_none
  rw [Option.eq_none_iff_forall_ne_some]
  intro after found
  obtain ⟨_, ⟨_, -, rfl⟩, same⟩ := after?_eq_some_iff.mp found
  exact other (List.cons.inj same).1

theorem strip_sequence_append {sequence : List Char} (whole : IsSequence sequence)
    (rest : List Char) : strip (sequence ++ rest) = strip rest :=
  strip_of_after? (after?_eq_some_iff.mpr ⟨sequence, whole, rfl⟩)

/-- A text without the mark has nothing to be removed. -/
theorem strip_append_of_bare {before : List Char} (bare : mark ∉ before) (rest : List Char) :
    strip (before ++ rest) = before ++ strip rest := by
  induction before with
  | nil => rfl
  | cons first tail ih =>
      rw [List.mem_cons, not_or] at bare
      rw [List.cons_append, strip_cons_of_ne (Ne.symm bare.1), ih bare.2, List.cons_append]

theorem strip_of_bare {text : List Char} (bare : mark ∉ text) : strip text = text := by
  simpa using strip_append_of_bare bare []

/-- The characters of a sequence after its mark. -/
def continues (char : Char) : Bool :=
  char == '[' || char == 'm' || isParameter char

/-- The text does not go on with a sequence that has been opened before it. -/
def Stops (text : List Char) : Prop :=
  ∀ first ∈ text.head?, continues first = false

theorem exists_cut (text : List Char) :
    ∃ body after, text = body ++ after ∧ mark ∉ body ∧ Stops after := by
  induction text with
  | nil => exact ⟨[], [], rfl, List.not_mem_nil, nofun⟩
  | cons first rest ih =>
      by_cases opens : first = mark
      · refine ⟨[], first :: rest, rfl, List.not_mem_nil, ?_⟩
        rintro _ ⟨⟩
        rw [opens]
        rfl
      · obtain ⟨body, after, rfl, bare, stops⟩ := ih
        refine ⟨first :: body, after, rfl, ?_, stops⟩
        rw [List.mem_cons, not_or]
        exact ⟨Ne.symm opens, bare⟩

theorem IsSequence.continues_of_mem {sequence rest : List Char} {first char : Char}
    (whole : IsSequence sequence) (cut : sequence = first :: rest) (member : char ∈ rest) :
    continues char = true := by
  obtain ⟨parameters, listed, rfl⟩ := whole
  obtain ⟨-, rfl⟩ := List.cons.inj cut
  rcases List.mem_cons.mp member with rfl | member
  · rfl
  · rcases List.mem_append.mp member with parameter | last
    · simp [continues, listed char parameter]
    · rw [List.mem_singleton.mp last]
      rfl

/-- A sequence that starts in one part ends in it if the next part does not go on with it. -/
theorem after?_append {before : List Char} (some : before ≠ []) {rest : List Char}
    (stops : Stops rest) :
    after? (before ++ rest) = (after? before).map (· ++ rest) := by
  ext after
  rw [after?_eq_some_iff, Option.map_eq_some_iff]
  constructor
  · rintro ⟨sequence, whole, same⟩
    rcases List.append_eq_append_iff.mp same with ⟨missing, ended, rfl⟩ | ⟨kept, rfl, rfl⟩
    · cases missing with
      | nil =>
          rw [List.append_nil] at ended
          subst ended
          exact ⟨[], after?_eq_some_iff.mpr ⟨sequence, whole, by simp⟩, rfl⟩
      | cons next tail =>
          obtain ⟨first, body, rfl⟩ := List.exists_cons_of_ne_nil some
          have runs := whole.continues_of_mem ended (List.mem_append_right body List.mem_cons_self)
          rw [stops next rfl] at runs
          cases runs
    · exact ⟨kept, after?_eq_some_iff.mpr ⟨sequence, whole, rfl⟩, rfl⟩
  · rintro ⟨kept, found, rfl⟩
    obtain ⟨sequence, whole, rfl⟩ := after?_eq_some_iff.mp found
    exact ⟨sequence, whole, List.append_assoc _ _ _⟩

theorem strip_append_of_stops (before : List Char) {rest : List Char} (stops : Stops rest) :
    strip (before ++ rest) = strip before ++ strip rest := by
  induction size : before.length using Nat.strongRecOn generalizing before with
  | ind size ih =>
      cases before with
      | nil => simp
      | cons first tail =>
          have border := after?_append (List.cons_ne_nil first tail) stops
          cases found : after? (first :: tail) with
          | none =>
              rw [found, Option.map_none] at border
              rw [List.cons_append] at border
              rw [List.cons_append, strip_cons_of_none found, strip_cons_of_none border,
                ih tail.length (by simp [← size]) tail rfl, List.cons_append]
          | some after =>
              rw [found, Option.map_some] at border
              have shorter := length_lt_of_after? found
              rw [strip_of_after? found, strip_of_after? border,
                ih after.length (by omega) after rfl]

example : strip "\x1b[1;31mred\x1b[0m \x1b[3".toList = "red \x1b[3".toList := by decide +kernel

end LineReview.Escape
