import LineReview.Text.LetterCase
import Mathlib

set_option autoImplicit false

/-! Lower case beyond ASCII. The mapping of a character depends on its neighbours for the capital
sigma alone; no mapping depends on the case of ASCII letters; and the Kelvin sign is the only
character from outside ASCII whose lower case lies in it. -/

namespace LineReview.Text

/-- The texts differ at most in the case of ASCII letters. -/
def SameLetters (first second : List Char) : Prop :=
  lowerAscii first = lowerAscii second

namespace LetterCase

/-- The Kelvin sign, whose lower case is the letter `k`. -/
def kelvin : Char := '\u212A'

def IsLetter (char : Char) : Prop :=
  0x41 ≤ char.toNat ∧ char.toNat ≤ 0x5A ∨ 0x61 ≤ char.toNat ∧ char.toNat ≤ 0x7A

theorem IsLetter.ascii {char : Char} (letter : IsLetter char) : char.toNat < 0x80 := by
  unfold IsLetter at letter
  omega

/-- A character is lowered only if it is a capital of ASCII, and then within the letters. -/
theorem toLower_cases (char : Char) :
    char.toLower = char ∨ IsLetter char ∧ IsLetter char.toLower := by
  by_cases capital : char.isUpper = true
  · right
    have bounds : 0x41 ≤ char.toNat ∧ char.toNat ≤ 0x5A := of_decide_eq_true capital
    have small : 0x61 ≤ char.toLower.toNat ∧ char.toLower.toNat ≤ 0x7A := by
      have checked : ∀ offset < 26, 0x61 ≤ (Char.ofNat (0x41 + offset)).toLower.toNat ∧
          (Char.ofNat (0x41 + offset)).toLower.toNat ≤ 0x7A := by decide
      have found := checked (char.toNat - 0x41) (by omega)
      rwa [Nat.add_sub_cancel' bounds.1, Char.ofNat_toNat] at found
    exact ⟨Or.inl bounds, Or.inr small⟩
  · exact Or.inl (Char.toLower_eq_of_not_isUpper capital)

theorem toLower_ascii {char : Char} (ascii : char.toNat < 0x80) : char.toLower.toNat < 0x80 := by
  rcases toLower_cases char with same | ⟨-, small⟩
  · rwa [same]
  · exact small.ascii

theorem toLower_beyond {char : Char} (beyond : 0x80 ≤ char.toNat) : char.toLower = char := by
  rcases toLower_cases char with same | ⟨capital, -⟩
  · exact same
  · exact absurd capital.ascii (by omega)

theorem ascii_of_toLower {char : Char} (ascii : char.toLower.toNat < 0x80) : char.toNat < 0x80 := by
  rcases toLower_cases char with same | ⟨capital, -⟩
  · rwa [same] at ascii
  · exact capital.ascii

/-- No letter of ASCII is ignored for case: no run of such characters reaches into the letters. -/
theorem not_ignorable {char : Char} (letter : IsLetter char) :
    inRuns caseIgnorable char = false := by
  have apart : ∀ run ∈ caseIgnorable,
      run.2 < 0x41 ∨ 0x5A < run.1 ∧ run.2 < 0x61 ∨ 0x7A < run.1 := by
    decide +kernel
  rw [inRuns, List.any_eq_false]
  intro run listed inside
  have outside := apart run listed
  simp only [Bool.and_eq_true, decide_eq_true_eq] at inside
  unfold IsLetter at letter
  omega

/-- Every letter of ASCII has case. -/
theorem letter_cased {char : Char} (letter : IsLetter char) : inRuns cased char = true := by
  rw [inRuns, List.any_eq_true]
  rcases letter with ⟨low, high⟩ | ⟨low, high⟩
  · exact ⟨(0x41, 0x5A), by decide, by simp [low, high]⟩
  · exact ⟨(0x61, 0x7A), by decide, by simp [low, high]⟩

/-- The properties that decide the form of a sigma do not depend on the case of an ASCII letter. -/
theorem inRuns_toLower (char : Char) :
    inRuns caseIgnorable char.toLower = inRuns caseIgnorable char ∧
      inRuns cased char.toLower = inRuns cased char := by
  rcases toLower_cases char with same | ⟨capital, small⟩
  · rw [same]
    exact ⟨rfl, rfl⟩
  · rw [not_ignorable capital, not_ignorable small, letter_cased capital, letter_cased small]
    exact ⟨rfl, rfl⟩

theorem lowerAscii_cons (first : Char) (rest : List Char) :
    lowerAscii (first :: rest) = first.toLower :: lowerAscii rest := rfl

theorem meetsCased_lowerAscii (text : List Char) :
    meetsCased (lowerAscii text) = meetsCased text := by
  induction text with
  | nil => rfl
  | cons first rest ih =>
      obtain ⟨ignorable, letter⟩ := inRuns_toLower first
      unfold meetsCased at ih ⊢
      by_cases ignored : inRuns caseIgnorable first = true
      · rw [lowerAscii_cons, List.dropWhile_cons_of_pos (ignorable.trans ignored),
          List.dropWhile_cons_of_pos ignored, ih]
      · have counted : ¬inRuns caseIgnorable first.toLower = true := by rwa [ignorable]
        rw [lowerAscii_cons, List.dropWhile_cons_of_neg counted, List.dropWhile_cons_of_neg ignored]
        exact letter

theorem toLower_eq_sigma_iff (char : Char) : char.toLower = sigma ↔ char = sigma := by
  constructor
  · intro lowered
    have beyond : ¬char.toNat < 0x80 := by
      intro ascii
      have small := toLower_ascii ascii
      rw [lowered] at small
      exact absurd small (by decide)
    rwa [toLower_beyond (by omega)] at lowered
  · intro same
    rw [same]
    rfl

theorem lowerChar_ascii {char : Char} (ascii : char.toNat < 0x80) :
    lowerChar char = [char.toLower] :=
  if_pos ascii

theorem lowerChar_toLower (char : Char) : lowerChar char.toLower = lowerChar char := by
  by_cases ascii : char.toNat < 0x80
  · rw [lowerChar_ascii ascii, lowerChar_ascii (toLower_ascii ascii),
      Char.toLower_toLower_eq_toLower]
  · rw [toLower_beyond (by omega)]

theorem lowerFrom_lowerAscii (before text : List Char) :
    lowerFrom (lowerAscii before) (lowerAscii text) = lowerFrom before text := by
  induction text generalizing before with
  | nil => rfl
  | cons first rest ih =>
      have later := ih (first :: before)
      -- A sigma sees its neighbours only as letters with case or without, which lowering ASCII
      -- letters does not change.
      have words : endsWord (lowerAscii before) (lowerAscii rest) = endsWord before rest := by
        rw [endsWord, endsWord, meetsCased_lowerAscii, meetsCased_lowerAscii]
      rw [lowerAscii_cons] at later
      rw [lowerAscii_cons, lowerFrom, lowerFrom, later, words]
      by_cases capital : first = sigma
      · rw [if_pos ((toLower_eq_sigma_iff first).mpr capital), if_pos capital]
      · rw [if_neg (mt (toLower_eq_sigma_iff first).mp capital), if_neg capital, lowerChar_toLower]

/-- Without a capital sigma every character has its own lower case, whatever stands around it. -/
theorem lowerFrom_of_plain {text : List Char} (plain : sigma ∉ text) (before : List Char) :
    lowerFrom before text = text.flatMap lowerChar := by
  induction text generalizing before with
  | nil => rfl
  | cons first rest ih =>
      rw [List.mem_cons, not_or] at plain
      rw [lowerFrom, if_neg (Ne.symm plain.1), ih plain.2, List.flatMap_cons]

/-- A character leaves its lower case in that of the text; a capital sigma leaves a small one. -/
theorem mem_lowerFrom {char : Char} {text : List Char} (listed : char ∈ text)
    (before : List Char) :
    if char = sigma then 'ς' ∈ lowerFrom before text ∨ 'σ' ∈ lowerFrom before text
    else ∀ other ∈ lowerChar char, other ∈ lowerFrom before text := by
  induction text generalizing before with
  | nil => cases listed
  | cons first rest ih =>
      rw [lowerFrom]
      rcases List.mem_cons.mp listed with rfl | later
      · split
        · split <;> simp
        · intro other member
          exact List.mem_append_left _ member
      · have inside := ih later (first :: before)
        split at inside
        · rw [if_pos ‹_›]
          exact inside.imp (List.mem_append_right _) (List.mem_append_right _)
        · rw [if_neg ‹_›]
          intro other member
          exact List.mem_append_right _ (inside other member)

/-- The small letters of a run of capitals are characters from outside ASCII, unless the run is the
Kelvin sign. -/
theorem runs_beyond : ∀ run ∈ runs, (run.first = kelvin.toNat ∧ run.last = kelvin.toNat) ∨
    (0x80 : Int) ≤ run.first + run.shift ∧ (run.last + run.shift < 0xD800 ∨
      0xE000 ≤ run.first + run.shift ∧ run.last + run.shift < 0x110000) := by
  decide +kernel

/-- The lower case of a character from outside ASCII does not lie in ASCII, unless it is the Kelvin
sign. -/
theorem exists_lowerChar_beyond {char : Char} (beyond : 0x80 ≤ char.toNat) :
    char = kelvin ∨ ∃ other ∈ lowerChar char, 0x80 ≤ other.toNat := by
  rw [lowerChar, if_neg (by omega)]
  by_cases dotted : char = 'İ'
  · rw [if_pos dotted]
    exact Or.inr ⟨'\u0307', by simp, by decide⟩
  · rw [if_neg dotted]
    cases found : runs.find? (·.holds char.toNat) with
    | none => exact Or.inr ⟨char, List.mem_singleton_self char, beyond⟩
    | some run =>
        have holds := List.find?_some found
        simp only [Run.holds, Bool.and_eq_true, decide_eq_true_eq] at holds
        rcases runs_beyond run (List.mem_of_find?_eq_some found)
          with ⟨first, last⟩ | ⟨low, high⟩
        · left
          apply Char.toNat_inj.mp
          omega
        · right
          refine ⟨_, List.mem_singleton_self _, ?_⟩
          have valid : (char.toNat + run.shift).toNat.isValidChar := by
            unfold Nat.isValidChar
            omega
          rw [Char.toNat_ofNat, if_pos valid]
          omega

end LetterCase

open LetterCase

@[simp] theorem lower_lowerAscii (text : List Char) : lower (lowerAscii text) = lower text :=
  lowerFrom_lowerAscii [] text

theorem SameLetters.lower_eq {first second : List Char} (same : SameLetters first second) :
    lower first = lower second := by
  rw [← lower_lowerAscii first, same, lower_lowerAscii]

/-- A text that differs from ASCII characters in case only consists of such characters. -/
theorem SameLetters.ascii {first second : List Char} (same : SameLetters first second)
    (ascii : ∀ char ∈ second, char.toNat < 0x80) : ∀ char ∈ first, char.toNat < 0x80 := by
  intro char listed
  have lowered : char.toLower ∈ lowerAscii second := same ▸ List.mem_map_of_mem listed
  obtain ⟨other, member, alike⟩ := List.mem_map.mp lowered
  exact ascii_of_toLower (alike ▸ toLower_ascii (ascii other member))

/-- What has a lower case without sigma is put in lower case piece by piece. -/
theorem lower_append_of_plain {first second : List Char} (plain : sigma ∉ first ++ second) :
    lower (first ++ second) = lower first ++ lower second := by
  have parts := plain
  rw [List.mem_append, not_or] at parts
  rw [lower, lower, lower, lowerFrom_of_plain plain, lowerFrom_of_plain parts.1,
    lowerFrom_of_plain parts.2, List.flatMap_append]

/-- On ASCII characters the full lower case is the ASCII form. -/
theorem lower_of_ascii {text : List Char} (ascii : ∀ char ∈ text, char.toNat < 0x80) :
    lower text = lowerAscii text := by
  have plain : sigma ∉ text := by
    intro listed
    exact absurd (ascii sigma listed) (by decide)
  rw [lower, lowerFrom_of_plain plain, lowerAscii, List.map_eq_flatMap]
  exact List.flatMap_congr fun char listed => lowerChar_ascii (ascii char listed)

section Ascii

variable {text : List Char} (ascii : ∀ char ∈ lower text, char.toNat < 0x80)

include ascii

theorem sigma_not_mem_of_lower : sigma ∉ text := by
  intro listed
  have left := mem_lowerFrom listed []
  rw [if_pos rfl] at left
  rcases left with final | inner
  · exact absurd (ascii _ final) (by decide)
  · exact absurd (ascii _ inner) (by decide)

/-- A text whose lower case lies in ASCII lies in ASCII itself, Kelvin signs apart. -/
theorem ascii_or_kelvin_of_lower : ∀ char ∈ text, char.toNat < 0x80 ∨ char = kelvin := by
  intro char listed
  by_contra outside
  rw [not_or, Nat.not_lt] at outside
  obtain ⟨other, member, beyond⟩ := (exists_lowerChar_beyond outside.1).resolve_left outside.2
  have left := mem_lowerFrom listed []
  have unlike : char ≠ sigma := by
    rintro rfl
    exact sigma_not_mem_of_lower ascii listed
  rw [if_neg unlike] at left
  have small := ascii other (left other member)
  omega

end Ascii

theorem k_mem_lower {text : List Char} (listed : kelvin ∈ text) : 'k' ∈ lower text := by
  have left := mem_lowerFrom listed []
  rw [if_neg (by decide)] at left
  exact left 'k' (by decide)

/-- The word is in lower case and consists of ASCII characters other than `k`. -/
def isFirm (word : List Char) : Bool :=
  word.all fun char => char.toNat < 0x80 && char != 'k' && char.toLower == char

theorem isFirm_iff {word : List Char} :
    isFirm word = true ↔ ∀ char ∈ word, (char.toNat < 0x80 ∧ char ≠ 'k') ∧
      char.toLower = char := by
  simp [isFirm, List.all_eq_true]

/-- A firm word is the lower case of its own ASCII spellings and of no other text. -/
theorem lower_eq_iff_of_isFirm {word : List Char} (firm : isFirm word = true) (text : List Char) :
    lower text = word ↔ SameLetters text word := by
  have firmly := isFirm_iff.mp firm
  have lowered : lowerAscii word = word := by
    rw [lowerAscii, List.map_congr_left fun char listed => (firmly char listed).2, List.map_id']
  rw [SameLetters, lowered]
  constructor
  · rintro rfl
    have inside : ∀ char ∈ text, char.toNat < 0x80 := by
      intro char listed
      refine (ascii_or_kelvin_of_lower (fun other member => (firmly other member).1.1) char
        listed).resolve_right ?_
      rintro rfl
      exact (firmly 'k' (k_mem_lower listed)).1.2 rfl
    exact (lower_of_ascii inside).symm
  · rintro rfl
    refine lower_of_ascii fun char listed => ascii_of_toLower (firmly char.toLower ?_).1.1
    exact List.mem_map_of_mem listed

end LineReview.Text
