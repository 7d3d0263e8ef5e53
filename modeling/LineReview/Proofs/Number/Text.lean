import LineReview.Number.Text
import LineReview.Proofs.Json.Document
import LineReview.Proofs.Number.Shortest

set_option autoImplicit false

namespace LineReview.Number

open Json (AreDigits areDigits_zero areDigits_toDigits)
open Json.Numeral (signText fractionText exponentText written_eq)

namespace Decimal

variable {decimal : Decimal}

theorem areDigits_text (decimal : Decimal) : AreDigits decimal.text :=
  areDigits_toDigits decimal.digits

theorem ofDigitChars_text (decimal : Decimal) :
    Nat.ofDigitChars 10 decimal.text 0 = decimal.digits :=
  Nat.ofDigitChars_ten_toDigits

theorem ofDigitChars_zeros (count value : Nat) :
    Nat.ofDigitChars 10 (List.replicate count '0') value = Nat.pow 10 count * value :=
  Nat.ofDigitChars_replicate_zero

/-- However much is taken of the text of a decimal other than zero, there is no zero in front. -/
theorem head?_ne_zero (positive : 0 < decimal.digits) {front rest : List Char}
    (filled : front ≠ []) (split : front ++ rest = decimal.text) : front.head? ≠ some '0' := by
  have head : decimal.text.head? ≠ some '0' := Json.head?_toDigits_ne_zero decimal.digits positive
  rwa [← split, List.head?_append_of_ne_nil _ filled] at head

/-- A part of the text of a decimal holds digits, if it holds anything. -/
theorem areDigits_of_subset {part : List Char} (filled : part ≠ [])
    (listed : part ⊆ decimal.text) : AreDigits part :=
  ⟨filled, fun char member => decimal.areDigits_text.every char (listed member)⟩

/-- A numeral is written as a text after a sign and has the value of a decimal, and it is not that
of a natural number. -/
structure Spells (numeral : Json.Numeral) (negative : Bool) (text : List Char) (decimal : Decimal) :
    Prop where
  formed : numeral.WellFormed
  real : numeral.fraction.isSome = true ∨ numeral.exponent.isSome = true
  written : numeral.written = signText negative ++ text
  value : numeral.significand * Nat.pow 10 numeral.scale.toNat * Nat.pow 10 (-decimal.scale).toNat =
    decimal.digits * Nat.pow 10 decimal.scale.toNat * Nat.pow 10 (-numeral.scale).toNat

theorem value_of_eq {numeral : Json.Numeral} (significand : numeral.significand = decimal.digits)
    (scale : numeral.scale = decimal.scale) :
    numeral.significand * Nat.pow 10 numeral.scale.toNat * Nat.pow 10 (-decimal.scale).toNat =
      decimal.digits * Nat.pow 10 decimal.scale.toNat * Nat.pow 10 (-numeral.scale).toNat := by
  rw [significand, scale]

/-- One digit before the point, and an exponent. -/
def scientificNumeral (negative : Bool) (decimal : Decimal) : Json.Numeral where
  negative
  whole := decimal.text.take 1
  fraction := if (decimal.text.drop 1).isEmpty then none else some (decimal.text.drop 1)
  exponent := some (['e', if 0 ≤ decimal.leading then '+' else '-'],
    Nat.toDigits 10 decimal.leading.natAbs)

theorem spells_scientific (positive : 0 < decimal.digits) (negative : Bool) :
    Spells (decimal.scientificNumeral negative) negative decimal.scientific decimal where
  formed := by
    have filled : decimal.text.take 1 ≠ [] := by simp [decimal.areDigits_text.filled]
    refine ⟨areDigits_of_subset filled (List.take_subset 1 _), ?_, ?_, ?_⟩
    · intro zero
      exact absurd zero (head?_ne_zero positive filled (List.take_append_drop 1 _))
    · intro digits found
      simp only [scientificNumeral] at found
      split at found
      · cases found
      · rename_i some
        cases found
        exact areDigits_of_subset (by simpa using some) (List.drop_subset 1 _)
    · rintro _ _ ⟨⟩
      refine ⟨?_, areDigits_toDigits _⟩
      split <;> decide
  real := Or.inr rfl
  written := by
    rw [written_eq]
    dsimp only [scientificNumeral, scientific]
    by_cases none : (decimal.text.drop 1).isEmpty = true
    · rw [if_pos none, if_pos none]
      simp [fractionText, exponentText]
    · rw [if_neg none, if_neg none]
      simp [fractionText, exponentText]
  value := by
    have decimals : (decimal.scientificNumeral negative).fraction.getD [] =
        decimal.text.drop 1 := by
      simp only [scientificNumeral]
      split
      · rename_i none
        exact (List.isEmpty_iff.mp none).symm
      · rfl
    refine value_of_eq ?_ ?_
    · rw [Json.Numeral.significand, decimals]
      change Nat.ofDigitChars 10 (decimal.text.take 1 ++ _) 0 = _
      rw [List.take_append_drop, ofDigitChars_text]
    · have size : Nat.ofDigitChars 10 (Nat.toDigits 10 decimal.leading.natAbs) 0 =
          decimal.leading.natAbs :=
        Nat.ofDigitChars_ten_toDigits
      have length : (decimal.text.drop 1).length = decimal.text.length - 1 := List.length_drop
      have filled := List.length_pos_iff.mpr decimal.areDigits_text.filled
      rw [Json.Numeral.scale, decimals]
      dsimp only [scientificNumeral]
      rw [size, length]
      by_cases up : 0 ≤ decimal.leading
      · rw [if_pos up, if_neg (by decide)]
        unfold leading at up ⊢
        omega
      · rw [if_neg up, if_pos (by decide)]
        unfold leading at up ⊢
        omega

/-- A point after all digits and the zeros they need. -/
def wholeNumeral (negative : Bool) (decimal : Decimal) : Json.Numeral where
  negative
  whole := decimal.text ++ List.replicate decimal.scale.toNat '0'
  fraction := some ['0']
  exponent := none

theorem spells_whole (positive : 0 < decimal.digits) (whole : 0 ≤ decimal.scale)
    (negative : Bool) :
    Spells (decimal.wholeNumeral negative) negative (decimal.positional ++ ['.', '0']) decimal where
  formed := by
    refine ⟨decimal.areDigits_text.withZeros 0 _, ?_, ?_, nofun⟩
    · intro zero
      change (decimal.text ++ _).head? = _ at zero
      rw [List.head?_append_of_ne_nil _ decimal.areDigits_text.filled] at zero
      exact absurd zero (head?_ne_zero positive decimal.areDigits_text.filled (List.append_nil _))
    · rintro _ ⟨⟩
      exact areDigits_zero
  real := Or.inl rfl
  written := by
    rw [written_eq, positional, if_pos whole]
    simp [wholeNumeral, fractionText, exponentText]
  value := by
    have significand : (decimal.wholeNumeral negative).significand =
        decimal.digits * Nat.pow 10 decimal.scale.toNat * 10 := by
      change Nat.ofDigitChars 10 (decimal.text ++ List.replicate decimal.scale.toNat '0' ++
        List.replicate 1 '0') 0 = _
      rw [Nat.ofDigitChars_append, Nat.ofDigitChars_append, ofDigitChars_text, ofDigitChars_zeros,
        ofDigitChars_zeros]
      change 10 * (Nat.pow 10 decimal.scale.toNat * decimal.digits) = _
      rw [Nat.mul_comm 10, Nat.mul_comm (Nat.pow 10 decimal.scale.toNat)]
    have scale : (decimal.wholeNumeral negative).scale = -1 := rfl
    have none : (-decimal.scale).toNat = 0 := by omega
    rw [significand, scale, none]
    change decimal.digits * Nat.pow 10 decimal.scale.toNat * 10 * 1 * 1 = _
    rw [Nat.mul_one, Nat.mul_one]
    rfl

/-- A point between the digits. -/
def mixedNumeral (negative : Bool) (decimal : Decimal) : Json.Numeral where
  negative
  whole := decimal.text.take (decimal.leading + 1).toNat
  fraction := some (decimal.text.drop (decimal.leading + 1).toNat)
  exponent := none

theorem spells_mixed (positive : 0 < decimal.digits) (broken : decimal.scale < 0)
    (before : 0 < decimal.leading + 1) (negative : Bool) :
    Spells (decimal.mixedNumeral negative) negative decimal.positional decimal := by
  have inside : 0 < (decimal.leading + 1).toNat ∧
      (decimal.leading + 1).toNat < decimal.text.length := by
    unfold leading at before ⊢
    omega
  have size : (decimal.text.drop (decimal.leading + 1).toNat).length = (-decimal.scale).toNat := by
    rw [List.length_drop]
    unfold leading at before ⊢
    omega
  have filled : decimal.text.take (decimal.leading + 1).toNat ≠ [] := by
    rw [ne_eq, List.take_eq_nil_iff]
    exact not_or.mpr ⟨by omega, decimal.areDigits_text.filled⟩
  refine ⟨⟨areDigits_of_subset filled (List.take_subset _ _), ?_, ?_, nofun⟩, Or.inl rfl, ?_,
    value_of_eq ?_ ?_⟩
  · intro zero
    exact absurd zero (head?_ne_zero positive filled (List.take_append_drop _ _))
  · rintro _ ⟨⟩
    refine areDigits_of_subset ?_ (List.drop_subset _ _)
    rw [← List.length_pos_iff_ne_nil, size]
    omega
  · rw [written_eq, positional, if_neg (by omega), if_pos before]
    simp [mixedNumeral, fractionText, exponentText]
  · change Nat.ofDigitChars 10 (decimal.text.take _ ++ decimal.text.drop _) 0 = _
    rw [List.take_append_drop, ofDigitChars_text]
  · change (0 : Int) - ((decimal.text.drop (decimal.leading + 1).toNat).length : Int) = _
    rw [size]
    omega

/-- A point before all digits and the zeros they need. -/
def smallNumeral (negative : Bool) (decimal : Decimal) : Json.Numeral where
  negative
  whole := ['0']
  fraction := some (List.replicate (-(decimal.leading + 1)).toNat '0' ++ decimal.text)
  exponent := none

theorem spells_small (broken : decimal.scale < 0) (before : decimal.leading + 1 ≤ 0)
    (negative : Bool) :
    Spells (decimal.smallNumeral negative) negative decimal.positional decimal := by
  have digits : AreDigits (List.replicate (-(decimal.leading + 1)).toNat '0' ++ decimal.text) := by
    have padded := decimal.areDigits_text.withZeros (-(decimal.leading + 1)).toNat 0
    rwa [List.replicate_zero, List.append_nil] at padded
  refine ⟨⟨areDigits_zero, fun _ => rfl, ?_, nofun⟩, Or.inl rfl, ?_, value_of_eq ?_ ?_⟩
  · rintro _ ⟨⟩
    exact digits
  · rw [written_eq, positional, if_neg (by omega), if_neg (by omega)]
    simp [smallNumeral, fractionText, exponentText]
  · change Nat.ofDigitChars 10 (List.replicate 1 '0' ++ (List.replicate _ '0' ++ decimal.text)) 0 =
      _
    rw [Nat.ofDigitChars_append, Nat.ofDigitChars_append, ofDigitChars_zeros, ofDigitChars_zeros]
    exact ofDigitChars_text decimal
  · change (0 : Int) - ((List.replicate (-(decimal.leading + 1)).toNat '0' ++
      decimal.text).length : Int) = _
    rw [List.length_append, List.length_replicate]
    unfold leading at before ⊢
    omega

/-- The text of a decimal other than zero in JSON is a numeral of its value. -/
theorem exists_spells (positive : 0 < decimal.digits) (negative : Bool) :
    ∃ numeral, Spells numeral negative (Single.jsonDigits decimal) decimal := by
  unfold Single.jsonDigits
  split
  · exact ⟨_, spells_scientific positive negative⟩
  · by_cases whole : 0 ≤ decimal.scale
    · rw [if_pos whole]
      exact ⟨_, spells_whole positive whole negative⟩
    · rw [if_neg whole, List.append_nil]
      by_cases before : 0 < decimal.leading + 1
      · exact ⟨_, spells_mixed positive (by omega) before negative⟩
      · exact ⟨_, spells_small (by omega) (by omega) negative⟩

/-- A numeral of a value far from the bound denotes itself. -/
theorem Spells.denoted {numeral : Json.Numeral} {negative : Bool} {text : List Char}
    (spells : Spells numeral negative text decimal)
    (small : decimal.digits * Nat.pow 10 decimal.scale.toNat <
      Json.Numeral.bound * Nat.pow 10 (-decimal.scale).toNat) :
    numeral.toJson = .number (String.ofList numeral.written) := by
  refine Json.Numeral.toJson_eq_number (Json.Numeral.isBeyond_eq_false ?_) spells.real
  have positive : 0 < Nat.pow 10 (-numeral.scale).toNat := Nat.pow_pos (by decide)
  have scaled := Nat.mul_lt_mul_of_pos_right small positive
  rw [← spells.value, Nat.mul_right_comm Json.Numeral.bound] at scaled
  exact Nat.lt_of_mul_lt_mul_right scaled

end Decimal

namespace Single

variable {single : Single}

def zeroNumeral (negative : Bool) : Json.Numeral where
  negative
  whole := ['0']
  fraction := some ['0']
  exponent := none

theorem wellFormed_zeroNumeral (negative : Bool) : (zeroNumeral negative).WellFormed where
  whole := areDigits_zero
  leading := fun _ => rfl
  fraction := by
    rintro _ ⟨⟩
    exact areDigits_zero
  exponent := nofun

theorem denoted_zeroNumeral (negative : Bool) :
    (zeroNumeral negative).toJson = .number (String.ofList (zeroNumeral negative).written) :=
  Json.Numeral.toJson_eq_number rfl (Or.inl rfl)

/-- A finite number is a numeral in JSON that denotes itself. -/
theorem exists_numeral (finite : single.isFinite = true) :
    ∃ numeral : Json.Numeral, numeral.WellFormed ∧
      numeral.toJson = .number (String.ofList numeral.written) ∧
      single.toJson = .number (String.ofList numeral.written) := by
  rw [toJson, if_pos finite]
  by_cases zero : single.mantissa = 0
  · refine ⟨zeroNumeral single.negative, wellFormed_zeroNumeral _, denoted_zeroNumeral _, ?_⟩
    rw [if_pos zero, written_eq]
    rfl
  · have rounds := holds_shortest zero .toEven
    have positive := Neighbourhood.pos_of_holds zero rounds
    obtain ⟨numeral, spells⟩ := Decimal.exists_spells positive single.negative
    refine ⟨numeral, spells.formed,
      spells.denoted (Neighbourhood.lt_bound_of_holds finite rounds), ?_⟩
    rw [if_neg zero, spells.written]
    rfl

theorem plain_toJson (finite : single.isFinite = true) : single.toJson.Plain := by
  obtain ⟨numeral, formed, denoted, same⟩ := exists_numeral finite
  rw [same]
  exact .number formed denoted

end Single

end LineReview.Number
