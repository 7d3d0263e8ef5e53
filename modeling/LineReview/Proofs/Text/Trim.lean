import LineReview.Text.Line
import Mathlib.Data.List.TakeWhile

set_option autoImplicit false

namespace LineReview.Text

/-- A text is its trimmed part between two runs of dropped characters. -/
theorem exists_margins (dropped : Char → Bool) (text : List Char) :
    ∃ before after, (∀ char ∈ before, dropped char = true) ∧
      (∀ char ∈ after, dropped char = true) ∧
      text = before ++ trim dropped text ++ after := by
  refine ⟨text.takeWhile dropped,
    ((text.dropWhile dropped).reverse.takeWhile dropped).reverse, ?_, ?_, ?_⟩
  · intro char member
    exact List.mem_takeWhile_imp member
  · intro char member
    exact List.mem_takeWhile_imp (List.mem_reverse.mp member)
  · unfold trim trimEnd
    rw [List.append_assoc, ← List.reverse_append, List.takeWhile_append_dropWhile,
      List.reverse_reverse, List.takeWhile_append_dropWhile]

theorem mem_of_mem_trim {dropped : Char → Bool} {text : List Char} {char : Char}
    (member : char ∈ trim dropped text) : char ∈ text := by
  obtain ⟨before, after, -, -, whole⟩ := exists_margins dropped text
  rw [whole]
  exact List.mem_append_left _ (List.mem_append_right _ member)

theorem trim_append_left (dropped : Char → Bool) (before text : List Char)
    (margin : ∀ char ∈ before, dropped char = true) :
    trim dropped (before ++ text) = trim dropped text := by
  unfold trim
  rw [List.dropWhile_append_of_pos margin]

theorem trimEnd_append_right (dropped : Char → Bool) (text after : List Char)
    (margin : ∀ char ∈ after, dropped char = true) :
    trimEnd dropped (text ++ after) = trimEnd dropped text := by
  have reversed : ∀ char ∈ after.reverse, dropped char = true := by
    intro char member
    exact margin char (List.mem_reverse.mp member)
  unfold trimEnd
  rw [List.reverse_append, List.dropWhile_append_of_pos reversed]

theorem trim_append_right (dropped : Char → Bool) (text after : List Char)
    (margin : ∀ char ∈ after, dropped char = true) :
    trim dropped (text ++ after) = trim dropped text := by
  unfold trim
  rw [List.dropWhile_append]
  by_cases empty : text.dropWhile dropped = []
  · have gone : after.dropWhile dropped = [] := List.dropWhile_eq_nil_iff.mpr margin
    simp only [empty, List.isEmpty_nil, ↓reduceIte, gone]
  · have full : (text.dropWhile dropped).isEmpty = false := List.isEmpty_eq_false_iff.mpr empty
    simp only [full, Bool.false_eq_true, ↓reduceIte]
    exact trimEnd_append_right dropped _ after margin

theorem trim_of_dropped (dropped : Char → Bool) (text : List Char)
    (margin : ∀ char ∈ text, dropped char = true) : trim dropped text = [] := by
  have same := trim_append_left dropped text [] margin
  rw [List.append_nil] at same
  rw [same]
  rfl

@[simp] theorem trim_trim (dropped : Char → Bool) (text : List Char) :
    trim dropped (trim dropped text) = trim dropped text := by
  obtain ⟨before, after, left, right, whole⟩ := exists_margins dropped text
  have padded : trim dropped text = trim dropped (before ++ trim dropped text ++ after) := by
    rw [← whole]
  rw [trim_append_right dropped _ after right, trim_append_left dropped before _ left] at padded
  exact padded.symm

theorem dropWhile_eq_self_iff_head? {dropped : Char → Bool} {text : List Char} :
    text.dropWhile dropped = text ↔ ∀ char ∈ text.head?, dropped char = false := by
  cases text with
  | nil => simp
  | cons first rest => simp [List.dropWhile_eq_self_iff]

theorem trimEnd_eq_self_iff {dropped : Char → Bool} {text : List Char} :
    trimEnd dropped text = text ↔ ∀ char ∈ text.getLast?, dropped char = false := by
  rw [trimEnd, List.reverse_eq_iff, dropWhile_eq_self_iff_head?, List.head?_reverse]

/-- A text is its own trimmed part if it neither starts nor ends with a dropped character. -/
theorem trim_eq_self_iff {dropped : Char → Bool} {text : List Char} :
    trim dropped text = text ↔
      (∀ char ∈ text.head?, dropped char = false) ∧
        ∀ char ∈ text.getLast?, dropped char = false := by
  rw [← dropWhile_eq_self_iff_head?, ← trimEnd_eq_self_iff]
  constructor
  · intro same
    have kept : ((text.dropWhile dropped).reverse.dropWhile dropped).length ≤
        (text.dropWhile dropped).reverse.length := (List.dropWhile_suffix dropped).length_le
    have shorter : (trim dropped text).length ≤ (text.dropWhile dropped).length := by
      rw [List.length_reverse] at kept
      rwa [trim, trimEnd, List.length_reverse]
    rw [same] at shorter
    have whole : text.dropWhile dropped = text :=
      (List.dropWhile_suffix dropped).eq_of_length_le shorter
    rw [trim, whole] at same
    exact ⟨whole, same⟩
  · intro both
    rw [trim, both.1, both.2]

variable {mark : Char} {text rest : List Char}

theorem passes_of_not_mem (plain : mark ∉ text) : ∀ char ∈ text, (char != mark) = true := by
  intro char listed
  rw [bne_iff_ne]
  rintro rfl
  exact plain listed

theorem takeWhile_to_mark (plain : mark ∉ text) (starts : ∀ char ∈ rest.head?, char = mark) :
    (text ++ rest).takeWhile (· != mark) = text := by
  rw [List.takeWhile_append_of_pos (passes_of_not_mem plain)]
  cases rest with
  | nil => rw [List.takeWhile_nil, List.append_nil]
  | cons first rest =>
    rw [List.takeWhile_cons_of_neg (by simpa using starts first rfl), List.append_nil]

theorem dropWhile_to_mark (plain : mark ∉ text) (starts : ∀ char ∈ rest.head?, char = mark) :
    (text ++ rest).dropWhile (· != mark) = rest := by
  rw [List.dropWhile_append_of_pos (passes_of_not_mem plain)]
  cases rest with
  | nil => rfl
  | cons first rest => exact List.dropWhile_cons_of_neg (by simpa using starts first rfl)

end LineReview.Text
