import LineReview.Proofs.Text.Search
import Mathlib.Logic.Function.Iterate

set_option autoImplicit false

/-! Places of a pattern in a text. A pattern that cannot overlap itself, and that no replacement can
bring back, is used up one place at a time: replacing the leftmost occurrence takes its place away
and moves the others on. -/

namespace LineReview.Text

def places (pattern text : List Char) : List Nat :=
  (List.range text.length).filter fun place => pattern.isPrefixOf (text.drop place)

/-- No occurrence of the pattern begins inside another one. -/
def isSolitary (pattern : List Char) : Bool :=
  pattern.tail.tails.all fun rest => rest.isEmpty || clash pattern rest

section Places

variable {pattern replacement : List Char}

theorem isSolitary_iff :
    isSolitary pattern = true ↔ ∀ rest, rest <:+ pattern.tail → rest ≠ [] →
      clash pattern rest = true := by
  simp [isSolitary, or_iff_not_imp_left]

@[simp] theorem places_nil (pattern : List Char) : places pattern [] = [] := rfl

theorem places_cons (pattern rest : List Char) (first : Char) :
    places pattern (first :: rest) =
      (if pattern.isPrefixOf (first :: rest) then [0] else []) ++
        (places pattern rest).map (· + 1) := by
  have later : (fun place => pattern.isPrefixOf ((first :: rest).drop place)) ∘ (· + 1) =
      fun place => pattern.isPrefixOf (rest.drop place) := rfl
  rw [places, List.length_cons, List.range_succ_eq_map, List.filter_cons, List.drop_zero,
    List.filter_map]
  rw [show Nat.succ = (· + 1) from rfl, later]
  by_cases here : pattern.isPrefixOf (first :: rest) = true
  · rw [if_pos here, if_pos here]
    rfl
  · rw [if_neg here, if_neg here]
    rfl

/-- A pattern has a place just where it is found. -/
theorem places_eq_nil_iff (filled : pattern ≠ []) (text : List Char) :
    places pattern text = [] ↔ contains pattern text = false := by
  induction text with
  | nil => simpa [contains] using filled
  | cons first rest ih =>
      rw [places_cons, List.append_eq_nil_iff, List.map_eq_nil_iff, ih, contains,
        Bool.or_eq_false_iff]
      cases pattern.isPrefixOf (first :: rest) <;> simp

/-- Before a text in which the pattern cannot even begin, it stands nowhere. -/
theorem places_append {before : List Char}
    (apart : ∀ rest, rest <:+ before → rest ≠ [] → clash pattern rest = true)
    (after : List Char) :
    places pattern (before ++ after) = (places pattern after).map (· + before.length) := by
  induction before with
  | nil => simp
  | cons first rest ih =>
      have here : pattern.isPrefixOf (first :: rest ++ after) = false :=
        isPrefixOf_append_of_clash (apart _ List.suffix_rfl (List.cons_ne_nil _ _)) after
      have later := ih fun tail inside => apart tail (inside.trans (List.suffix_cons first rest))
      rw [List.cons_append] at here ⊢
      rw [places_cons, here, later, List.map_map]
      simp only [Bool.false_eq_true, ↓reduceIte, List.nil_append]
      apply List.map_congr_left
      intro place _
      simp only [Function.comp_apply, List.length_cons]
      omega

theorem replaceFirst_eq_self {text : List Char} (absent : contains pattern text = false) :
    replaceFirst pattern replacement text = text := by
  induction text with
  | nil => rfl
  | cons first rest ih =>
      rw [contains, Bool.or_eq_false_iff] at absent
      rw [replaceFirst, absent.1, ih absent.2]
      rfl

theorem mem_of_mem_replaceFirst {text : List Char} {char : Char}
    (member : char ∈ replaceFirst pattern replacement text) :
    char ∈ replacement ∨ char ∈ text := by
  induction text with
  | nil => exact Or.inr member
  | cons first rest ih =>
      rw [replaceFirst] at member
      split at member
      · exact (List.mem_append.mp member).imp_right List.mem_of_mem_drop
      · rcases List.mem_cons.mp member with rfl | later
        · exact Or.inr List.mem_cons_self
        · exact (ih later).imp_right (List.mem_cons_of_mem first)

/-- Where the pattern does not stand, a replacement behind does not put it. -/
theorem isPrefixOf_cons_replaceFirst (apart : isApart pattern replacement = true)
    (filled : pattern ≠ []) {first : Char} {rest : List Char}
    (absent : pattern.isPrefixOf (first :: rest) = false) :
    pattern.isPrefixOf (first :: replaceFirst pattern replacement rest) = false := by
  by_cases found : contains pattern rest = true
  · obtain ⟨before, after, whole, replaced⟩ := exists_replaceFirst replacement filled found
    have ends := isPrefixOf_append_middle apart (first :: before) after
    rw [Bool.eq_false_iff, ne_eq, List.isPrefixOf_iff_prefix] at absent ⊢
    rw [replaced, ← List.cons_append, ← List.isPrefixOf_iff_prefix, ends,
      List.isPrefixOf_iff_prefix]
    intro inside
    apply absent
    rw [whole, ← List.cons_append]
    exact inside.trans (List.prefix_append _ _)
  · rwa [replaceFirst_eq_self (Bool.eq_false_iff.mpr found)]

/-- Replacing the leftmost occurrence takes one place away and moves the others on by what the text
grows. -/
theorem places_replaceFirst (solitary : isSolitary pattern = true)
    (apart : isApart pattern replacement = true) (filled : pattern ≠ []) {growth : Nat}
    (longer : replacement.length = pattern.length + growth) (text : List Char) :
    places pattern (replaceFirst pattern replacement text) =
      (places pattern text).tail.map (· + growth) := by
  induction text with
  | nil => rfl
  | cons first rest ih =>
      by_cases here : pattern.isPrefixOf (first :: rest) = true
      · obtain ⟨after, whole⟩ := List.isPrefixOf_iff_prefix.mp here
        obtain ⟨char, others, rfl⟩ := List.exists_cons_of_ne_nil filled
        have tail : rest = others ++ after := (List.cons.inj whole).2.symm
        have old : places (char :: others) rest =
            (places (char :: others) after).map (· + others.length) := by
          rw [tail]
          exact places_append (isSolitary_iff.mp solitary) after
        have new := places_append (isApart_iff.mp apart).1 after
        rw [places_cons, replaceFirst, if_pos here, if_pos here, ← whole,
          List.drop_left, new, old]
        simp only [List.singleton_append, List.tail_cons, List.map_map]
        apply List.map_congr_left
        intro place _
        simp only [Function.comp_apply, longer, List.length_cons]
        omega
      · have absent := Bool.eq_false_iff.mpr here
        have still := isPrefixOf_cons_replaceFirst apart filled absent
        rw [places_cons, replaceFirst, if_neg here, if_neg here, places_cons, still, ih]
        simp only [Bool.false_eq_true, ↓reduceIte, List.nil_append, List.map_map,
          ← List.map_tail]
        apply List.map_congr_left
        intro place _
        simp only [Function.comp_apply]
        omega

/-- Replacements one after another use up the places from the left. -/
theorem places_iterate_replaceFirst (solitary : isSolitary pattern = true)
    (apart : isApart pattern replacement = true) (filled : pattern ≠ []) {growth : Nat}
    (longer : replacement.length = pattern.length + growth) (text : List Char) (count : Nat) :
    places pattern ((replaceFirst pattern replacement)^[count] text) =
      ((places pattern text).drop count).map (· + count * growth) := by
  induction count with
  | zero => simp
  | succ count ih =>
      rw [Function.iterate_succ_apply', places_replaceFirst solitary apart filled longer, ih,
        ← List.map_tail, List.tail_drop, List.map_map]
      apply List.map_congr_left
      intro place _
      simp only [Function.comp_apply, Nat.add_mul, Nat.one_mul, Nat.add_assoc]

end Places

/-- Where the pattern is found, the replacement is found once everything is replaced. -/
theorem contains_replaceAll {pattern text : List Char} (replacement : List Char)
    (filled : pattern ≠ []) (found : contains pattern text = true) :
    contains replacement (replaceAll pattern replacement text) = true := by
  induction text with
  | nil =>
      have empty : pattern = [] := by simpa [contains] using found
      exact absurd empty filled
  | cons first rest ih =>
      rw [replaceAll_cons]
      by_cases here : pattern.isPrefixOf (first :: rest) = true
      · rw [if_pos here]
        exact contains_append_of_left ((contains_iff _ _).mpr List.infix_rfl) _
      · rw [contains, Bool.or_eq_true] at found
        rw [if_neg here, contains, Bool.or_eq_true]
        exact Or.inr (ih (found.resolve_left here))

end LineReview.Text
