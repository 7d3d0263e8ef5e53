import LineReview.Text.Line
import Mathlib.Data.List.Infix

set_option autoImplicit false

/-! Occurrences in edited text. Where something is put into a text that no occurrence of a pattern
can reach into, the pattern stands before it or behind it; so what stands in the middle of a text
can be exchanged without the pattern noticing. -/

namespace LineReview.Text

/-- The two texts differ at some place that both of them have. -/
def clash : List Char → List Char → Bool
  | first :: rest, other :: others => first != other || clash rest others
  | _, _ => false

theorem append_ne_of_clash {first second : List Char} (differ : clash first second = true)
    (after behind : List Char) : first ++ after ≠ second ++ behind := by
  induction first generalizing second with
  | nil => simp [clash] at differ
  | cons char rest ih =>
      cases second with
      | nil => simp [clash] at differ
      | cons other others =>
          intro same
          simp only [List.cons_append, List.cons.injEq] at same
          simp only [clash, Bool.or_eq_true, bne_iff_ne] at differ
          have later : clash rest others = true := differ.resolve_left (by simp [same.1])
          exact ih later same.2

/-- No occurrence of the pattern reaches into the middle part, whatever stands around it. -/
def isApart (pattern middle : List Char) : Bool :=
  (middle.tails.all fun rest => rest.isEmpty || clash pattern rest) &&
    pattern.tails.all fun rest => rest.isEmpty || clash rest middle

theorem isApart_iff {pattern middle : List Char} :
    isApart pattern middle = true ↔
      (∀ rest, rest <:+ middle → rest ≠ [] → clash pattern rest = true) ∧
        ∀ rest, rest <:+ pattern → rest ≠ [] → clash rest middle = true := by
  simp [isApart, or_iff_not_imp_left]

section Middle

variable {pattern middle : List Char}

theorem isPrefixOf_append_of_clash {text : List Char} (differ : clash pattern text = true)
    (after : List Char) :
    pattern.isPrefixOf (text ++ after) = false := by
  rw [Bool.eq_false_iff, ne_eq, List.isPrefixOf_iff_prefix]
  intro found
  obtain ⟨behind, whole⟩ := found
  exact append_ne_of_clash differ behind after whole

/-- Nothing is found where only the middle part has begun. -/
theorem contains_append_middle (apart : isApart pattern middle = true) (after : List Char) :
    contains pattern (middle ++ after) = contains pattern after := by
  have behind := (isApart_iff.mp apart).1
  clear apart
  induction middle with
  | nil => rfl
  | cons char rest ih =>
      have here : pattern.isPrefixOf (char :: rest ++ after) = false :=
        isPrefixOf_append_of_clash (behind _ List.suffix_rfl (List.cons_ne_nil _ _)) after
      have later : contains pattern (rest ++ after) = contains pattern after := by
        apply ih
        intro tail inside
        exact behind tail (inside.trans (List.suffix_cons char rest))
      rw [List.cons_append] at here ⊢
      rw [contains, here, later, Bool.false_or]

/-- What is found at the start of a text ends before the middle part begins. -/
theorem isPrefixOf_append_middle (apart : isApart pattern middle = true)
    (before after : List Char) :
    pattern.isPrefixOf (before ++ (middle ++ after)) = pattern.isPrefixOf before := by
  have ahead := (isApart_iff.mp apart).2
  rw [Bool.eq_iff_iff, List.isPrefixOf_iff_prefix, List.isPrefixOf_iff_prefix]
  constructor
  · intro found
    have start : before <+: before ++ (middle ++ after) := List.prefix_append before _
    rcases List.prefix_or_prefix_of_prefix found start with inside | ⟨rest, whole⟩
    · exact inside
    · by_cases empty : rest = []
      · subst empty
        rw [List.append_nil] at whole
        rw [whole]
      · have differ := ahead rest ⟨before, whole⟩ empty
        subst whole
        have reaching : rest <+: middle ++ after := (List.prefix_append_right_inj before).mp found
        obtain ⟨behind, same⟩ := reaching
        exact absurd same (append_ne_of_clash differ behind after)
  · intro found
    exact found.trans (List.prefix_append before _)

/-- The pattern stands before the middle part or behind it. -/
theorem contains_around (apart : isApart pattern middle = true) (before after : List Char) :
    contains pattern (before ++ (middle ++ after)) =
      (contains pattern before || contains pattern after) := by
  by_cases empty : pattern = []
  · simp [empty]
  · induction before with
    | nil =>
        have none : contains pattern [] = false := by simpa [contains] using empty
        rw [List.nil_append, contains_append_middle apart, none, Bool.false_or]
    | cons char rest ih =>
        have here := isPrefixOf_append_middle apart (char :: rest) after
        rw [List.cons_append] at here ⊢
        rw [contains, contains, here, ih, Bool.or_assoc]

/-- A middle part can be exchanged for another one without the pattern noticing. -/
theorem contains_exchange {other : List Char} (apart : isApart pattern middle = true)
    (otherApart : isApart pattern other = true) (before after : List Char) :
    contains pattern (before ++ (other ++ after)) =
      contains pattern (before ++ (middle ++ after)) := by
  rw [contains_around apart, contains_around otherApart]

theorem contains_append_of_left {before : List Char} (found : contains pattern before = true)
    (after : List Char) :
    contains pattern (before ++ after) = true := by
  rw [contains_iff] at found ⊢
  exact found.trans (List.prefix_append before after).isInfix

theorem contains_append_of_right {after : List Char} (found : contains pattern after = true)
    (before : List Char) :
    contains pattern (before ++ after) = true := by
  rw [contains_iff] at found ⊢
  exact found.trans (List.suffix_append before after).isInfix

/-- What is found with a middle part put in is found without it. -/
theorem contains_of_insertion (apart : isApart pattern middle = true) {before after : List Char}
    (found : contains pattern (before ++ (middle ++ after)) = true) :
    contains pattern (before ++ after) = true := by
  rw [contains_around apart, Bool.or_eq_true] at found
  rcases found with inside | behind
  · exact contains_append_of_left inside after
  · exact contains_append_of_right behind before

/-- A pattern that shares no character with the middle part stays apart from it. -/
theorem isApart_of_disjoint (disjoint : ∀ char ∈ pattern, char ∉ middle)
    (filled : middle ≠ []) :
    pattern = [] ∨ isApart pattern middle = true := by
  have differ : ∀ first second : List Char, first ≠ [] → second ≠ [] →
      (∀ char ∈ first, char ∉ second) →
        clash first second = true := by
    intro first second some others apart
    obtain ⟨char, rest, rfl⟩ := List.exists_cons_of_ne_nil some
    obtain ⟨other, behind, rfl⟩ := List.exists_cons_of_ne_nil others
    have unlike : char ≠ other := by
      intro same
      exact apart char List.mem_cons_self (by rw [same]; exact List.mem_cons_self)
    simp [clash, unlike]
  by_cases empty : pattern = []
  · exact Or.inl empty
  · refine Or.inr (isApart_iff.mpr ⟨?_, ?_⟩)
    · intro rest inside solid
      exact differ pattern rest empty solid fun char member listed =>
        disjoint char member (inside.subset listed)
    · intro rest inside solid
      exact differ rest middle solid filled fun char member => disjoint char (inside.subset member)

end Middle

theorem contains_singleton (char : Char) (text : List Char) :
    contains [char] text = text.contains char := by
  induction text with
  | nil => rfl
  | cons first rest ih => rw [contains, ih, List.contains_cons]; simp [List.isPrefixOf]

theorem isSuffixOf_singleton (char : Char) (text : List Char) :
    [char].isSuffixOf text = (text.getLast? == some char) := by
  rw [Bool.eq_iff_iff, List.isSuffixOf_iff_suffix, beq_iff_eq,
    List.singleton_suffix_iff_getLast?_eq_some]

/-- The leftmost occurrence of a pattern is replaced, and what stands around it is kept. -/
theorem exists_replaceFirst {pattern text : List Char} (replacement : List Char)
    (filled : pattern ≠ []) (found : contains pattern text = true) :
    ∃ before after, text = before ++ (pattern ++ after) ∧
      replaceFirst pattern replacement text = before ++ (replacement ++ after) := by
  induction text with
  | nil =>
      have empty : pattern = [] := by simpa [contains] using found
      exact absurd empty filled
  | cons first rest ih =>
      by_cases here : pattern.isPrefixOf (first :: rest) = true
      · obtain ⟨after, whole⟩ := List.isPrefixOf_iff_prefix.mp here
        refine ⟨[], after, whole.symm, ?_⟩
        rw [replaceFirst, if_pos here, ← whole, List.drop_left, List.nil_append]
      · have later : contains pattern rest = true := by
          rw [contains, Bool.or_eq_true] at found
          exact found.resolve_left here
        obtain ⟨before, after, split, replaced⟩ := ih later
        refine ⟨first :: before, after, ?_, ?_⟩
        · rw [split, List.cons_append]
        · rw [replaceFirst, if_neg here, replaced, List.cons_append]

/-- The second text is the first one with some occurrences of a pattern replaced. -/
inductive Replaced (pattern replacement : List Char) : List Char → List Char → Prop where
  | nil : Replaced pattern replacement [] []
  | keep (char : Char) {rest replaced : List Char}
      (others : Replaced pattern replacement rest replaced) :
      Replaced pattern replacement (char :: rest) (char :: replaced)
  | exchange {rest replaced : List Char} (others : Replaced pattern replacement rest replaced) :
      Replaced pattern replacement (pattern ++ rest) (replacement ++ replaced)

theorem replaced_replaceAll {pattern : List Char} (filled : pattern ≠ [])
    (replacement text : List Char) :
    Replaced pattern replacement text (replaceAll pattern replacement text) := by
  -- An occurrence takes several characters at once, so the recursion is on the length.
  match text with
  | [] => exact .nil
  | first :: rest =>
      rw [replaceAll_cons]
      by_cases here : pattern.isPrefixOf (first :: rest) = true
      · obtain ⟨after, whole⟩ := List.isPrefixOf_iff_prefix.mp here
        have positive := List.length_pos_of_ne_nil filled
        have shorter : after.length < (first :: rest).length := by
          rw [← whole, List.length_append]
          omega
        have left : rest.drop (pattern.length - 1) = after := by
          have dropped := congrArg (List.drop pattern.length) whole
          rw [List.drop_left] at dropped
          rw [dropped, show pattern.length = pattern.length - 1 + 1 by omega, List.drop_succ_cons,
            Nat.add_sub_cancel]
        rw [if_pos here, left, ← whole]
        exact .exchange (replaced_replaceAll filled replacement after)
      · rw [if_neg here]
        exact .keep first (replaced_replaceAll filled replacement rest)
termination_by text.length

namespace Replaced

variable {pattern replacement text replaced : List Char}

theorem head?_eq (some : Replaced pattern replacement text replaced)
    (same : replacement.head? = pattern.head?) (filled : pattern ≠ []) :
    replaced.head? = text.head? := by
  cases some with
  | nil => rfl
  | keep char others => rfl
  | exchange others =>
      obtain ⟨first, rest, rfl⟩ := List.exists_cons_of_ne_nil filled
      rw [List.head?_append, List.head?_append, same]
      rfl

theorem getLast?_eq (some : Replaced pattern replacement text replaced)
    (same : replacement.getLast? = pattern.getLast?) : replaced.getLast? = text.getLast? := by
  induction some with
  | nil => rfl
  | keep char others ih => rw [List.getLast?_cons, List.getLast?_cons, ih]
  | exchange others ih => rw [List.getLast?_append, List.getLast?_append, ih, same]

/-- A word without any character of the pattern or its replacement. -/
def Foreign (pattern replacement word : List Char) : Prop :=
  ∀ char ∈ word, char ∉ pattern ∧ char ∉ replacement

instance (pattern replacement word : List Char) : Decidable (Foreign pattern replacement word) :=
  List.decidableBAll _ word

theorem isPrefixOf_eq {word : List Char} (some : Replaced pattern replacement text replaced)
    (foreign : Foreign pattern replacement word) (filled : pattern ≠ [])
    (replacementFilled : replacement ≠ []) :
    word.isPrefixOf replaced = word.isPrefixOf text := by
  induction some generalizing word with
  | nil => rfl
  | keep char others ih =>
      cases word with
      | nil => rfl
      | cons first rest =>
          rw [List.isPrefixOf_cons_cons, List.isPrefixOf_cons_cons,
            ih fun char member => foreign char (List.mem_cons_of_mem _ member)]
  | exchange others ih =>
      cases word with
      | nil => rfl
      | cons first rest =>
          obtain ⟨old, olds, rfl⟩ := List.exists_cons_of_ne_nil filled
          obtain ⟨new, news, rfl⟩ := List.exists_cons_of_ne_nil replacementFilled
          have unlike := foreign first List.mem_cons_self
          simp only [List.mem_cons, not_or] at unlike
          have notOld : (first == old) = false := by simp [unlike.1.1]
          have notNew : (first == new) = false := by simp [unlike.2.1]
          rw [List.cons_append, List.cons_append, List.isPrefixOf_cons_cons,
            List.isPrefixOf_cons_cons, notOld, notNew, Bool.false_and, Bool.false_and]

/-- A replacement does not change where a foreign word is found. -/
theorem contains_eq {word : List Char} (some : Replaced pattern replacement text replaced)
    (foreign : Foreign pattern replacement word) (filled : pattern ≠ [])
    (replacementFilled : replacement ≠ []) :
    contains word replaced = contains word text := by
  induction some with
  | nil => rfl
  | keep char others ih =>
      have here := (keep char others).isPrefixOf_eq foreign filled replacementFilled
      rw [contains, contains, here, ih]
  | exchange others ih =>
      have old := isApart_of_disjoint (fun char member => (foreign char member).1) filled
      have new := isApart_of_disjoint (fun char member => (foreign char member).2) replacementFilled
      by_cases empty : word = []
      · simp [empty]
      · rw [contains_append_middle (old.resolve_left empty),
          contains_append_middle (new.resolve_left empty), ih]

end Replaced

/-- A replacement passes over what does not hold the first character of the pattern. -/
theorem replaceAll_append_of_not_mem {first : Char} {before : List Char} (absent : first ∉ before)
    (pattern replacement rest : List Char) :
    replaceAll (first :: pattern) replacement (before ++ rest) =
      before ++ replaceAll (first :: pattern) replacement rest := by
  induction before with
  | nil => rfl
  | cons char tail ih =>
      rw [List.mem_cons, not_or] at absent
      have different : (first :: pattern).isPrefixOf (char :: (tail ++ rest)) = false := by
        simp [List.isPrefixOf, absent.1]
      rw [List.cons_append, replaceAll_cons, different, ih absent.2]
      rfl

end LineReview.Text
