import LineReview.Finding
import Mathlib.Data.List.Basic

set_option autoImplicit false

namespace LineReview

namespace Identifier

def spell (opening : String) (line : Nat) (name : String) : String :=
  opening ++ toString line ++ "-" ++ name

/-- Reads a decimal numeral and the name after the hyphen that ends it. -/
def readNumbered? (text : List Char) : Option (Nat × String) :=
  match text.takeWhile Char.isDigit, text.dropWhile Char.isDigit with
  | digits@(_ :: _), '-' :: name => some (Nat.ofDigitChars 10 digits 0, String.ofList name)
  | _, _ => none

/-- The line and the name that an identifier with this opening is made of. -/
def read? (opening id : String) : Option (Nat × String) :=
  if opening.toList.isPrefixOf id.toList then readNumbered? (id.toList.drop opening.toList.length)
  else none

/-- The identifier moved down by a number of lines; a text that is no identifier stays as it is. -/
def renumber (opening : String) (count : Nat) (id : String) : String :=
  match read? opening id with
  | some (line, name) => spell opening (line + count) name
  | none => id

theorem toList_spell (opening : String) (line : Nat) (name : String) :
    (spell opening line name).toList =
      opening.toList ++ (Nat.toDigits 10 line ++ '-' :: name.toList) := by
  have hyphen : "-".toList = ['-'] := rfl
  simp only [spell, String.toList_append, Nat.toString_eq_ofList_toDigits, String.toList_ofList,
    hyphen, List.append_assoc, List.singleton_append]

theorem digits_isDigit (line : Nat) : ∀ char ∈ Nat.toDigits 10 line, char.isDigit = true := by
  intro char member
  exact Nat.isDigit_of_mem_toDigits (by decide) (by decide) member

theorem readNumbered?_digits (line : Nat) (name : List Char) :
    readNumbered? (Nat.toDigits 10 line ++ '-' :: name) = some (line, String.ofList name) := by
  have taken : (Nat.toDigits 10 line ++ '-' :: name).takeWhile Char.isDigit =
      Nat.toDigits 10 line := by
    rw [List.takeWhile_append_of_pos (digits_isDigit line)]
    exact List.append_nil _
  have left : (Nat.toDigits 10 line ++ '-' :: name).dropWhile Char.isDigit = '-' :: name := by
    rw [List.dropWhile_append_of_pos (digits_isDigit line)]
    rfl
  have value : Nat.ofDigitChars 10 (Nat.toDigits 10 line) 0 = line := Nat.ofDigitChars_ten_toDigits
  unfold readNumbered?
  rw [taken, left]
  cases digits : Nat.toDigits 10 line with
  | nil => exact absurd digits Nat.toDigits_ne_nil
  | cons first rest =>
      rw [digits] at value
      simp only [value]

/-- No opening and no name can hide where the line begins and ends. -/
theorem read?_spell (opening : String) (line : Nat) (name : String) :
    read? opening (spell opening line name) = some (line, name) := by
  have opened : opening.toList.isPrefixOf (spell opening line name).toList = true := by
    rw [List.isPrefixOf_iff_prefix, toList_spell]
    exact List.prefix_append _ _
  unfold read?
  rw [if_pos opened, toList_spell, List.drop_left, readNumbered?_digits, String.ofList_toList]

theorem spell_inj {opening : String} {line other : Nat} {name another : String} :
    spell opening line name = spell opening other another ↔ line = other ∧ name = another := by
  constructor
  · intro same
    have read := read?_spell opening line name
    rw [same, read?_spell] at read
    cases read
    exact ⟨rfl, rfl⟩
  · rintro ⟨rfl, rfl⟩
    rfl

@[simp] theorem renumber_spell (opening : String) (count line : Nat) (name : String) :
    renumber opening count (spell opening line name) = spell opening (line + count) name := by
  simp only [renumber, read?_spell]

example : renumber "bug-" 3 "bug-7-null-check" = "bug-10-null-check" := by decide

end Identifier

namespace Finding

theorem idFor_eq_spell (line : Nat) (rule : String) :
    idFor line rule = Identifier.spell "bug-" line rule := rfl

theorem after?_append (mark : Char) (before rest : List Char) (absent : mark ∉ before) :
    after? mark (before ++ mark :: rest) = some rest := by
  have passed : ∀ char ∈ before, (char != mark) = true := by
    intro char member
    simp only [bne_iff_ne, ne_eq]
    rintro rfl
    exact absent member
  unfold after?
  rw [List.dropWhile_append_of_pos passed]
  simp

/-- The rule of a finding is read back from its identifier, also when the rule's name holds
hyphens. -/
theorem rule?_of_id {finding : Finding} {line : Nat} {rule : String}
    (id : finding.id = idFor line rule) : finding.rule? = some rule := by
  have chars := Identifier.toList_spell "bug-" line rule
  rw [← idFor_eq_spell, ← id] at chars
  have opened : "bug-".toList.isPrefixOf finding.id.toList = true := by
    rw [List.isPrefixOf_iff_prefix, chars]
    exact List.prefix_append _ _
  have noHyphen : '-' ∉ Nat.toDigits 10 line := by
    intro member
    have digit := Identifier.digits_isDigit line '-' member
    exact absurd digit (by decide)
  unfold rule?
  rw [if_pos opened, chars, List.drop_left, after?_append '-' _ _ noHyphen, Option.map_some,
    String.ofList_toList]

end Finding

theorem Note.idFor_eq_spell (line : Nat) (topic : String) :
    Note.idFor line topic = Identifier.spell "explanation-" line topic := rfl

theorem Repair.idFor_inj {first second : String} :
    Repair.idFor first = Repair.idFor second ↔ first = second := by
  simp only [Repair.idFor, String.append_right_inj]

end LineReview
