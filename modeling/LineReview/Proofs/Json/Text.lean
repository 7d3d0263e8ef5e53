import LineReview.Json.Basic
import LineReview.Json.Reader

set_option autoImplicit false

namespace LineReview.Json

theorem hexValue?_hexDigit {value : Nat} (small : value < 16) :
    hexValue? (hexDigit value) = some value := by
  have every : ∀ value < 16, hexValue? (hexDigit value) = some value := by decide
  exact every value small

theorem hexUnit?_control {code : Nat} (control : code < 0x20) :
    hexUnit? '0' '0' (hexDigit (code / 16)) (hexDigit (code % 16)) = some code := by
  have zero : hexValue? '0' = some 0 := by decide
  have high : hexValue? (hexDigit (code / 16)) = some (code / 16) := hexValue?_hexDigit (by omega)
  have low : hexValue? (hexDigit (code % 16)) = some (code % 16) := hexValue?_hexDigit (by omega)
  have value : ((0 * 16 + 0) * 16 + code / 16) * 16 + code % 16 = code := by omega
  simp only [hexUnit?, zero, high, low, Option.bind_eq_bind, Option.bind_some, value]
  rfl

/-- A code unit below the surrogates stands for itself, whatever follows it. -/
theorem pairUnits?_code {code : Nat} (low : code < 0xD800) (rest : List TextUnit) :
    pairUnits? (.code code :: rest) = (pairUnits? rest).map (Char.ofNat code :: ·) := by
  have noHigh : ¬ (0xD800 ≤ code) := by omega
  cases rest with
  | nil => simp [pairUnits?, noHigh]
  | cons unit rest => cases unit <;> simp [pairUnits?, noHigh]

/-- The written form of the character is read as the unit, and the unit spells the character. -/
structure Spells (char : Char) (unit : TextUnit) : Prop where
  read : ∀ rest, readUnits (escape char ++ rest) =
    (readUnits rest).map fun (units, after) => (unit :: units, after)
  pair : ∀ units, pairUnits? (unit :: units) = (pairUnits? units).map (char :: ·)

theorem spells_letter {char letter : Char} (written : escape char = ['\\', letter])
    (back : escaped? letter = some char) (notUnit : letter ≠ 'u') : Spells char (.char char) where
  read := by
    intro rest
    rw [written, List.cons_append, List.singleton_append,
      readUnits.eq_4 _ _ fun _ _ _ _ _ same _ => notUnit same, back]
    cases readUnits rest <;> rfl
  pair := fun _ => rfl

theorem spells_control {char : Char} (control : char.toNat < 0x20)
    (written : escape char =
      ['\\', 'u', '0', '0', hexDigit (char.toNat / 16), hexDigit (char.toNat % 16)]) :
    Spells char (.code char.toNat) where
  read := by
    intro rest
    rw [written]
    simp only [List.cons_append, List.nil_append, readUnits, hexUnit?_control control]
    cases readUnits rest <;> rfl
  pair := by
    intro units
    rw [pairUnits?_code (by omega), Char.ofNat_toNat]

theorem spells_self {char : Char} (visible : ¬ (char.toNat < 0x20)) (noQuote : char ≠ '"')
    (noBackslash : char ≠ '\\') (written : escape char = [char]) : Spells char (.char char) where
  read := by
    intro rest
    rw [written, List.singleton_append, readUnits.eq_5 _ _ noQuote
      (fun _ _ _ _ _ same _ => noBackslash same) (fun _ _ same _ => noBackslash same),
        if_neg visible]
    cases readUnits rest <;> rfl
  pair := fun _ => rfl

theorem exists_spelling (char : Char) : ∃ unit, Spells char unit := by
  by_cases short : char ∈ ['"', '\\', '\x08', '\t', '\n', '\x0c', '\r']
  · refine ⟨.char char, ?_⟩
    simp only [List.mem_cons, List.not_mem_nil, or_false] at short
    rcases short with rfl | rfl | rfl | rfl | rfl | rfl | rfl
    all_goals exact spells_letter rfl rfl (by decide)
  · simp only [List.mem_cons, List.not_mem_nil, or_false, not_or] at short
    obtain ⟨noQuote, noBackslash, noBackspace, noTab, noFeed, noForm, noReturn⟩ := short
    have long : escape char = if char.toNat < 0x20 then
        ['\\', 'u', '0', '0', hexDigit (char.toNat / 16), hexDigit (char.toNat % 16)]
          else [char] := by
      simp only [escape, noQuote, noBackslash, noBackspace, noTab, noFeed, noForm,
        noReturn, ↓reduceIte]
    by_cases control : char.toNat < 0x20
    · exact ⟨_, spells_control control (long.trans (if_pos control))⟩
    · exact ⟨_, spells_self control noQuote noBackslash (long.trans (if_neg control))⟩

/-- The characters between the quotes are read as units that spell them. -/
theorem readUnits_escape (text rest : List Char) :
    ∃ units, readUnits (text.flatMap escape ++ '"' :: rest) = some (units, rest) ∧
      pairUnits? units = some text := by
  induction text with
  | nil => exact ⟨[], rfl, rfl⟩
  | cons char text ih =>
      obtain ⟨units, read, pair⟩ := ih
      obtain ⟨unit, spelling⟩ := exists_spelling char
      refine ⟨unit :: units, ?_, ?_⟩
      · rw [List.flatMap_cons, List.append_assoc, spelling.read, read]
        rfl
      · rw [spelling.pair, pair]
        rfl

/-- A quoted text is read back after its opening quote. -/
theorem readText_quoted (text : String) (rest : List Char) :
    readText (text.toList.flatMap escape ++ '"' :: rest) = some (some text, rest) := by
  obtain ⟨units, read, pair⟩ := readUnits_escape text.toList rest
  simp [readText, read, pair]

end LineReview.Json
