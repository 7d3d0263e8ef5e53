import LineReview.Json.Reader
import Mathlib.Data.List.Basic

set_option autoImplicit false

namespace LineReview.Json

/-- What is left of a document cannot continue a numeral. -/
def EndsNumeral (rest : List Char) : Prop :=
  ∀ first ∈ rest.head?, first.isDigit = false ∧ first ≠ '.' ∧
    first ≠ 'e' ∧ first ≠ 'E'

/-- What is left of a document cannot continue digits. -/
def EndsDigits (rest : List Char) : Prop :=
  ∀ first ∈ rest.head?, first.isDigit = false

structure AreDigits (text : List Char) : Prop where
  filled : text ≠ []
  every : ∀ char ∈ text, char.isDigit = true

theorem EndsNumeral.digits {rest : List Char} (ends : EndsNumeral rest) : EndsDigits rest :=
  fun first member => (ends first member).1

theorem AreDigits.exists_first {text : List Char} (digits : AreDigits text) :
    ∃ first others, text = first :: others ∧ first.isDigit = true := by
  cases text with
  | nil => exact absurd rfl digits.filled
  | cons first others => exact ⟨first, others, rfl, digits.every first List.mem_cons_self⟩

theorem areDigits_zero : AreDigits ['0'] where
  filled := List.cons_ne_nil '0' []
  every := by
    intro char member
    rw [List.mem_singleton.mp member]
    rfl

/-- Digits stay digits with zeros before or after them. -/
theorem AreDigits.withZeros {text : List Char} (digits : AreDigits text) (before after : Nat) :
    AreDigits (List.replicate before '0' ++ text ++ List.replicate after '0') where
  filled := by simp [digits.filled]
  every := by
    intro char member
    have zero : ∀ count, char ∈ List.replicate count '0' → char.isDigit = true := by
      intro count listed
      rw [List.eq_of_mem_replicate listed]
      rfl
    rcases List.mem_append.mp member with early | late
    · exact (List.mem_append.mp early).elim (zero before) (digits.every char)
    · exact zero after late

theorem areDigits_toDigits (value : Nat) : AreDigits (Nat.toDigits 10 value) where
  filled := Nat.toDigits_ne_nil
  every := fun _ member => Nat.isDigit_of_mem_toDigits (by decide) (by decide) member

theorem head?_toDigits_ne_zero (value : Nat) (positive : 0 < value) :
    (Nat.toDigits 10 value).head? ≠ some '0' := by
  induction value using Nat.strongRecOn with
  | ind value ih =>
      rw [Nat.toDigits_eq_if (by decide)]
      by_cases single : value < 10
      · have nonzero : ∀ digit < 10, 0 < digit →
            [Nat.digitChar digit].head? ≠ some '0' := by decide
        rw [if_pos single]
        exact nonzero value single positive
      · rw [if_neg single, List.head?_append_of_ne_nil _ Nat.toDigits_ne_nil]
        exact ih (value / 10) (by omega) (by omega)

theorem digits?_append {digits rest : List Char} (formed : AreDigits digits)
    (ends : EndsDigits rest) :
    digits? (digits ++ rest) = some (digits, rest) := by
  have taken : rest.takeWhile Char.isDigit = [] ∧ rest.dropWhile Char.isDigit = rest := by
    cases rest with
    | nil => exact ⟨rfl, rfl⟩
    | cons first rest =>
        have other : first.isDigit = false := ends first rfl
        simp [other]
  obtain ⟨first, others, whole, -⟩ := formed.exists_first
  rw [digits?, List.takeWhile_append_of_pos formed.every, List.dropWhile_append_of_pos formed.every,
    taken.1, taken.2, List.append_nil, whole]

namespace Numeral

def exponentMarks : List (List Char) :=
  [['e'], ['e', '+'], ['e', '-'], ['E'], ['E', '+'], ['E', '-']]

/-- The numeral is written as one is read: with digits in every part, and no superfluous zero in
front. -/
structure WellFormed (numeral : Numeral) : Prop where
  whole : AreDigits numeral.whole
  leading : numeral.whole.head? = some '0' → numeral.whole = ['0']
  fraction : ∀ digits, numeral.fraction = some digits → AreDigits digits
  exponent : ∀ mark digits, numeral.exponent = some (mark, digits) →
    mark ∈ exponentMarks ∧ AreDigits digits

def signText (negative : Bool) : List Char :=
  if negative then ['-'] else []

def fractionText (fraction : Option (List Char)) : List Char :=
  fraction.elim [] fun digits => '.' :: digits

def exponentText (exponent : Option (List Char × List Char)) : List Char :=
  exponent.elim [] fun (mark, digits) => mark ++ digits

theorem written_eq (numeral : Numeral) :
    numeral.written = signText numeral.negative ++
      (numeral.whole ++ (fractionText numeral.fraction ++ exponentText numeral.exponent)) := by
  simp only [written, signText, fractionText, exponentText, List.append_assoc]

/-- A numeral starts with its sign or a digit. -/
theorem WellFormed.exists_first {numeral : Numeral} (formed : numeral.WellFormed) :
    ∃ first others, numeral.written = first :: others ∧
      (first = '-' ∨ first.isDigit = true) := by
  rw [written_eq]
  cases numeral.negative with
  | true => exact ⟨'-', _, rfl, Or.inl rfl⟩
  | false =>
      obtain ⟨first, others, whole, digit⟩ := formed.whole.exists_first
      rw [whole]
      exact ⟨first, _, rfl, Or.inr digit⟩

theorem readWhole_append {whole rest : List Char} (digits : AreDigits whole)
    (leading : whole.head? = some '0' → whole = ['0']) (ends : EndsDigits rest) :
    readWhole (whole ++ rest) = some (whole, rest) := by
  rw [readWhole, digits?_append digits ends]
  split
  · rename_i second others after found
    have whole : whole = '0' :: second :: others := by
      simpa using congrArg (Option.map Prod.fst) found
    rw [whole] at leading
    cases leading rfl
  · rfl

theorem readFraction_append {fraction : Option (List Char)} {rest : List Char}
    (digits : ∀ digits, fraction = some digits → AreDigits digits) (ends : EndsDigits rest)
    (noPoint : rest.head? ≠ some '.') :
    readFraction (fractionText fraction ++ rest) = some (fraction, rest) := by
  cases fraction with
  | none =>
      change readFraction rest = _
      unfold readFraction
      split
      · exact absurd rfl noPoint
      · rfl
  | some found =>
      change (digits? (found ++ rest)).map _ = _
      rw [digits?_append (digits found rfl) ends]
      rfl

theorem exponentMark_append {mark digits : List Char} (listed : mark ∈ exponentMarks)
    (formed : AreDigits digits) (rest : List Char) :
    exponentMark (mark ++ (digits ++ rest)) = mark := by
  obtain ⟨first, others, rfl, digit⟩ := formed.exists_first
  have unsigned : first ≠ '+' ∧ first ≠ '-' := by
    constructor <;> rintro rfl <;> cases digit
  simp only [exponentMarks, List.mem_cons, List.not_mem_nil, or_false] at listed
  rcases listed with rfl | rfl | rfl | rfl | rfl | rfl <;> simp [exponentMark, unsigned]

theorem readExponent_append {exponent : Option (List Char × List Char)} {rest : List Char}
    (formed : ∀ mark digits, exponent = some (mark, digits) →
      mark ∈ exponentMarks ∧ AreDigits digits)
    (ends : EndsNumeral rest) :
    readExponent (exponentText exponent ++ rest) = some (exponent, rest) := by
  cases exponent with
  | none =>
      have unmarked : exponentMark rest = [] := by
        unfold exponentMark
        split
        · rename_i letter sign after
          obtain ⟨-, -, small, capital⟩ := ends letter rfl
          simp [small, capital]
        · rename_i letter
          obtain ⟨-, -, small, capital⟩ := ends letter rfl
          simp [small, capital]
        · rfl
      change readExponent rest = _
      rw [readExponent, unmarked]
  | some found =>
      obtain ⟨mark, digits⟩ := found
      obtain ⟨listed, formed⟩ := formed mark digits rfl
      have marked : mark ≠ [] := by
        rintro rfl
        exact absurd listed (by decide)
      change readExponent (mark ++ digits ++ rest) = _
      rw [List.append_assoc, readExponent, exponentMark_append listed formed]
      split
      · contradiction
      · rw [List.drop_left, digits?_append formed ends.digits]
        rfl

/-- An exponent continues neither digits nor a fraction. -/
theorem endsDigits_exponentText {exponent : Option (List Char × List Char)} {rest : List Char}
    (formed : ∀ mark digits, exponent = some (mark, digits) →
      mark ∈ exponentMarks ∧ AreDigits digits)
    (ends : EndsNumeral rest) :
    EndsDigits (exponentText exponent ++ rest) ∧
      (exponentText exponent ++ rest).head? ≠ some '.' := by
  cases exponent with
  | none => exact ⟨ends.digits, fun point => (ends '.' point).2.1 rfl⟩
  | some found =>
      obtain ⟨mark, digits⟩ := found
      have listed := (formed mark digits rfl).1
      simp only [exponentMarks, List.mem_cons, List.not_mem_nil, or_false] at listed
      rcases listed with rfl | rfl | rfl | rfl | rfl | rfl <;> simp [exponentText, EndsDigits]

theorem endsDigits_fractionText {fraction : Option (List Char)} {rest : List Char}
    (ends : EndsDigits rest) :
    EndsDigits (fractionText fraction ++ rest) := by
  cases fraction with
  | none => exact ends
  | some found => simp [fractionText, EndsDigits]

/-- A numeral is read back from its written form. -/
theorem read?_written {numeral : Numeral} (formed : numeral.WellFormed) {rest : List Char}
    (ends : EndsNumeral rest) :
    read? (numeral.written ++ rest) = some (numeral, rest) := by
  obtain ⟨endsFraction, noPoint⟩ := endsDigits_exponentText formed.exponent ends
  have endsWhole : EndsDigits (fractionText numeral.fraction ++
      (exponentText numeral.exponent ++ rest)) :=
    endsDigits_fractionText endsFraction
  have whole := readWhole_append formed.whole formed.leading endsWhole
  have fraction := readFraction_append formed.fraction endsFraction noPoint
  have exponent := readExponent_append formed.exponent ends
  obtain ⟨first, others, digits, digit⟩ := formed.whole.exists_first
  have unsigned : (numeral.whole ++ (fractionText numeral.fraction ++
      (exponentText numeral.exponent ++ rest))).head? ≠ some '-' := by
    rw [digits, List.cons_append, List.head?_cons, ne_eq, Option.some.injEq]
    rintro rfl
    cases digit
  rw [written_eq]
  simp only [List.append_assoc]
  cases numeral with
  | mk negative _ _ _ =>
      cases negative with
      | true =>
          simp only [read?, signText, if_true, List.singleton_append, List.head?_cons,
            beq_self_eq_true, List.drop_one, List.tail_cons, whole, fraction, exponent,
            Option.bind_eq_bind, Option.bind_some]
          rfl
      | false =>
          have noSign := beq_eq_false_iff_ne.mpr unsigned
          simp only [read?, signText, Bool.false_eq_true, if_false, List.nil_append, noSign, whole,
            fraction, exponent, Option.bind_eq_bind, Option.bind_some]
          rfl

def ofNatural (value : Nat) : Numeral where
  negative := false
  whole := Nat.toDigits 10 value
  fraction := none
  exponent := none

theorem wellFormed_ofNatural (value : Nat) : (ofNatural value).WellFormed where
  whole := areDigits_toDigits value
  leading := by
    intro zero
    by_cases none : value = 0
    · rw [none]
      rfl
    · exact absurd zero (head?_toDigits_ne_zero value (by omega))
  fraction := nofun
  exponent := nofun

theorem written_ofNatural (value : Nat) : (ofNatural value).written = Nat.toDigits 10 value := by
  simp [written, ofNatural]

/-- A natural number below the bound of double precision denotes itself. -/
theorem toJson_ofNatural {value : Nat} (bounded : value < bound) :
    (ofNatural value).toJson = .natural value := by
  have digits : Nat.ofDigitChars 10 (Nat.toDigits 10 value) 0 = value :=
    Nat.ofDigitChars_ten_toDigits
  have significand : (ofNatural value).significand = value := by
    simp [Numeral.significand, ofNatural, digits]
  have scale : (ofNatural value).scale = 0 := rfl
  have within : (ofNatural value).isBeyond = false := by
    simp [isBeyond, significand, scale, bounded]
  unfold toJson
  rw [within, if_neg Bool.false_ne_true]
  change Json.natural (Nat.ofDigitChars 10 (Nat.toDigits 10 value) 0) = _
  rw [digits]

/-- A power of ten that is large enough lies beyond the bound. -/
theorem bound_lt_pow {exponent : Nat} (large : 310 ≤ exponent) : bound < Nat.pow 10 exponent := by
  have add : ∀ first second, Nat.pow 10 (first + second) = Nat.pow 10 first * Nat.pow 10 second :=
    Nat.pow_add 10
  have wide : bound < Nat.pow 10 155 * Nat.pow 10 155 := by decide +kernel
  obtain ⟨more, sum⟩ : ∃ more, exponent = 155 + (155 + more) := ⟨exponent - 310, by omega⟩
  rw [sum, add, add, ← Nat.mul_assoc]
  exact Nat.lt_of_lt_of_le wide (Nat.le_mul_of_pos_right _ (Nat.pow_pos (by decide)))

/-- A numeral whose value is less than the bound is not beyond it. -/
theorem isBeyond_eq_false {numeral : Numeral}
    (small : numeral.significand * Nat.pow 10 numeral.scale.toNat <
      bound * Nat.pow 10 (-numeral.scale).toNat) :
    numeral.isBeyond = false := by
  have unscaled : ∀ value, value * Nat.pow 10 0 = value := Nat.mul_one
  have wide : ∀ exponent, 310 ≤ exponent → bound < Nat.pow 10 exponent :=
    fun _ => bound_lt_pow
  unfold isBeyond
  dsimp only
  -- The bound has three hundred digits: it is kept from being computed.
  generalize bound = limit at small wide ⊢
  split
  · rfl
  · rename_i nonzero
    rw [beq_iff_eq] at nonzero
    by_cases whole : 0 ≤ numeral.scale
    · have none : (-numeral.scale).toNat = 0 := by omega
      rw [none, unscaled] at small
      have modest : ¬ 310 < numeral.scale := by
        intro large
        have power := wide numeral.scale.toNat (by omega)
        have product :=
          Nat.le_mul_of_pos_left (Nat.pow 10 numeral.scale.toNat) (Nat.pos_of_ne_zero nonzero)
        exact Nat.lt_irrefl limit
          (Nat.lt_of_lt_of_le power (Nat.le_trans product (Nat.le_of_lt small)))
      rw [if_neg modest, if_pos whole]
      exact decide_eq_false (Nat.not_le_of_lt small)
    · have none : numeral.scale.toNat = 0 := by omega
      have modest : ¬ 310 < numeral.scale := by omega
      rw [none, unscaled] at small
      rw [if_neg modest, if_neg whole]
      split
      · rfl
      · exact decide_eq_false (Nat.not_le_of_lt small)

/-- A numeral with a point or an exponent that is not beyond the bound denotes itself. -/
theorem toJson_eq_number {numeral : Numeral} (within : numeral.isBeyond = false)
    (real : numeral.fraction.isSome = true ∨ numeral.exponent.isSome = true) :
    numeral.toJson = .number (String.ofList numeral.written) := by
  unfold toJson
  rw [within, if_neg Bool.false_ne_true]
  split
  · exact real.elim nofun nofun
  · rfl

end Numeral

/-- What a numeral denotes is read back from its written form. -/
theorem readScalar_written {numeral : Numeral} (formed : numeral.WellFormed) {rest : List Char}
    (ends : EndsNumeral rest) :
    readScalar (numeral.written ++ rest) = some (numeral.toJson, rest) := by
  have noWord : ∀ letter word, letter ≠ '-' → letter.isDigit = false →
      after? (letter :: word) (numeral.written ++ rest) = none := by
    intro letter word unsigned noDigit
    obtain ⟨first, others, written, start⟩ := formed.exists_first
    have different : (letter == first) = false := by
      rw [beq_eq_false_iff_ne]
      rintro rfl
      rw [noDigit] at start
      exact start.elim unsigned nofun
    rw [after?, written, List.cons_append, List.isPrefixOf_cons_cons, different, Bool.false_and,
      if_neg Bool.false_ne_true]
  have noNull : after? "null".toList (numeral.written ++ rest) = none :=
    noWord 'n' _ (by decide) rfl
  have noTrue : after? "true".toList (numeral.written ++ rest) = none :=
    noWord 't' _ (by decide) rfl
  have noFalse : after? "false".toList (numeral.written ++ rest) = none :=
    noWord 'f' _ (by decide) rfl
  rw [readScalar, noNull, noTrue, noFalse, Numeral.read?_written formed ends]
  rfl

end LineReview.Json
