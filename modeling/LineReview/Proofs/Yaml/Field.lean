import LineReview.Proofs.Json.Decoding
import LineReview.Proofs.Json.Numeral
import LineReview.Proofs.Yaml.Document

set_option autoImplicit false

namespace LineReview.Yaml

/-- A character of a word: a letter or a digit of ASCII, or an underscore. -/
def isWordChar (char : Char) : Bool :=
  let code := char.toNat
  (48 ≤ code && code ≤ 57) || (65 ≤ code && code ≤ 90) ||
    (97 ≤ code && code ≤ 122) || code == 95

theorem toNat_of_isDigit {char : Char} (digit : char.isDigit = true) :
    48 ≤ char.toNat ∧ char.toNat ≤ 57 := by
  simpa [Char.isDigit, UInt32.le_iff_toNat_le] using digit

theorem isPrintable_of_isWordChar {char : Char} (word : isWordChar char = true) :
    IsPrintable char := by
  simp only [isWordChar, Bool.or_eq_true, Bool.and_eq_true, decide_eq_true_eq, beq_iff_eq] at word
  rw [IsPrintable]
  omega

def BareText.ofWord (chars : List Char) (filled : chars ≠ [])
    (every : chars.all isWordChar = true) : BareText :=
  have apart {others : List Char} (other : others.any isWordChar = false) : ∀ char ∈ chars,
      char ∉ others := by
    intro char listed member
    exact List.any_eq_false.mp other char member (List.all_eq_true.mp every char listed)
  have colon : ':' ∉ chars := fun listed =>
    apart (by decide : [':'].any isWordChar = false) _ listed (by simp)
  have space : ' ' ∉ chars := fun listed =>
    apart (by decide : [' '].any isWordChar = false) _ listed (by simp)
  { chars
    within := fun char listed => isPrintable_of_isWordChar (List.all_eq_true.mp every char listed)
    filled
    first := fun char first => apart (by decide) char (List.mem_of_head? first)
    second := fun char first special =>
      absurd special (apart (by decide) char (List.mem_of_head? first))
    last := fun char last => apart (by decide) char (List.mem_of_getLast? last)
    colon := fun part => colon (part.subset List.mem_cons_self)
    hash := fun part => space (part.subset List.mem_cons_self)
    mark := fun mark _ start => space (start.subset (by simp)) }

/-- A number as it is written, without a superfluous zero. -/
def Scalar.decimal (number : Nat) : Scalar :=
  .bare <| .ofWord (Nat.toDigits 10 number) Nat.toDigits_ne_nil <|
    List.all_eq_true.mpr fun char listed => by
    have digit := toNat_of_isDigit ((Json.areDigits_toDigits number).every char listed)
    simp [isWordChar, digit]

def named (entry : Yaml × Yaml) : String × Yaml :=
  (entry.1.text?.getD "", entry.2)

def given {Value : Type} (fields : List (String × Option Value)) : List (String × Value) :=
  fields.filterMap fun field => field.2.map fun value => (field.1, value)

end LineReview.Yaml
