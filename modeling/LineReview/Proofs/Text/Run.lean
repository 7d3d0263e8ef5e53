import LineReview.Proofs.Text.Search

set_option autoImplicit false

namespace LineReview.Text

/-- A text with its runs of one character told apart: each run with the other character that ends
it, and a last run. -/
inductive Runs (mark : Char) where
  | last (length : Nat)
  | next (length : Nat) (char : Char) (other : char ≠ mark) (rest : Runs mark)

/-- A maximal run of the character in a text: the character stands neither right before it nor right
after it. -/
def HasRun (mark : Char) (text : List Char) (length : Nat) : Prop :=
  ∃ before after, text = before ++ (List.replicate length mark ++ after) ∧
    before.getLast? ≠ some mark ∧ after.head? ≠ some mark

namespace Runs

variable {mark : Char}

def toList : Runs mark → List Char
  | last length => List.replicate length mark
  | next length char _ rest => List.replicate length mark ++ char :: rest.toList

def lengths : Runs mark → List Nat
  | last length => [length]
  | next length _ _ rest => length :: rest.lengths

/-- The runs at other lengths, with the same characters between them. -/
def resize (size : Nat → Nat) : Runs mark → Runs mark
  | last length => last (size length)
  | next length char other rest => next (size length) char other (rest.resize size)

/-- One more of the character at the start. -/
def grow : Runs mark → Runs mark
  | last length => last (length + 1)
  | next length char other rest => next (length + 1) char other rest

def ofList (mark : Char) : List Char → Runs mark
  | [] => last 0
  | char :: rest =>
    if same : char = mark then (ofList mark rest).grow else next 0 char same (ofList mark rest)

theorem toList_grow (runs : Runs mark) : runs.grow.toList = mark :: runs.toList := by
  cases runs <;> rfl

@[simp] theorem toList_ofList (mark : Char) (text : List Char) :
    (ofList mark text).toList = text := by
  induction text with
  | nil => rfl
  | cons char rest ih =>
      rw [ofList]
      by_cases same : char = mark
      · rw [dif_pos same, toList_grow, ih, same]
      · rw [dif_neg same, toList, ih]
        rfl

theorem resize_congr {size other : Nat → Nat} {runs : Runs mark}
    (same : ∀ length ∈ runs.lengths, size length = other length) :
    runs.resize size = runs.resize other := by
  induction runs with
  | last length => rw [resize, resize, same length (by simp [lengths])]
  | next length char _ rest ih =>
      rw [lengths, List.forall_mem_cons] at same
      rw [resize, resize, same.1, ih same.2]

end Runs

section Marks

variable {mark : Char}

theorem head?_cons_ne {char : Char} (other : char ≠ mark) (rest : List Char) :
    (char :: rest).head? ≠ some mark := by
  simpa using other

/-- A run that ends on both sides of an equation has the same length on both. -/
theorem length_eq_of_replicate_append {length size : Nat} {after behind : List Char}
    (same : List.replicate length mark ++ after = List.replicate size mark ++ behind)
    (left : after.head? ≠ some mark) (right : behind.head? ≠ some mark) : length = size := by
  induction length generalizing size with
  | zero =>
      cases size with
      | zero => rfl
      | succ size =>
          rw [List.replicate_zero, List.nil_append] at same
          rw [same] at left
          exact absurd rfl left
  | succ length ih =>
      cases size with
      | zero =>
          rw [List.replicate_zero, List.nil_append] at same
          rw [← same] at right
          exact absurd rfl right
      | succ size =>
          simp only [List.replicate_succ, List.cons_append, List.cons.injEq, true_and] at same
          rw [ih same]

/-- Nothing of a run comes before where it begins. -/
theorem eq_nil_of_append_eq_replicate {before rest : List Char} {size : Nat}
    (same : List.replicate size mark = before ++ rest) (ends : before.getLast? ≠ some mark) :
    before = [] := by
  by_contra filled
  obtain ⟨front, last, rfl⟩ : ∃ front last, before = front ++ [last] :=
    ⟨_, _, (List.dropLast_concat_getLast filled).symm⟩
  have marked : last = mark := List.eq_of_mem_replicate (by rw [same]; simp)
  rw [List.getLast?_concat, marked] at ends
  exact ends rfl

end Marks

namespace Runs

variable {mark : Char}

/-- The runs are the maximal runs of the text, the empty ones between two other characters
included. -/
theorem mem_lengths_iff {runs : Runs mark} {length : Nat} :
    length ∈ runs.lengths ↔ HasRun mark runs.toList length := by
  induction runs with
  | last size =>
      rw [lengths, List.mem_singleton, toList]
      constructor
      · rintro rfl
        exact ⟨[], [], by simp⟩
      · rintro ⟨before, after, whole, left, right⟩
        obtain rfl := eq_nil_of_append_eq_replicate whole left
        rw [List.nil_append, ← List.append_nil (List.replicate size mark)] at whole
        exact (length_eq_of_replicate_append whole (by simp) right).symm
  | next size char other rest ih =>
      rw [lengths, List.mem_cons, ih, toList]
      constructor
      · rintro (rfl | ⟨before, after, whole, left, right⟩)
        · exact ⟨[], char :: rest.toList, rfl, by simp, head?_cons_ne other _⟩
        · refine ⟨List.replicate size mark ++ char :: before,
            after, by simp [whole], ?_, right⟩
          rw [List.getLast?_append, List.getLast?_cons]
          cases ends : before.getLast? with
          | none => simpa using other
          | some last => simpa [ends] using left
      · rintro ⟨before, after, whole, left, right⟩
        rcases List.append_eq_append_iff.mp whole
          with ⟨inside, split, behind⟩ | ⟨inside, split, behind⟩
        · cases inside with
          | nil =>
              have nothing : before = [] := by
                rw [List.append_nil] at split
                have same : List.replicate size mark = before ++ [] := by
                  rw [split, List.append_nil]
                exact eq_nil_of_append_eq_replicate same left
              subst nothing
              exact Or.inl (length_eq_of_replicate_append whole.symm right (head?_cons_ne other _))
          | cons first inside =>
              obtain ⟨rfl, rest⟩ := List.cons.inj behind
              refine Or.inr ⟨inside, after, rest, ?_, right⟩
              intro ends
              rw [split, List.getLast?_append, List.getLast?_cons, ends] at left
              exact left rfl
        · obtain rfl := eq_nil_of_append_eq_replicate split left
          rw [List.nil_append] at split
          subst split
          exact Or.inl (length_eq_of_replicate_append behind right (head?_cons_ne other _))

/-- A run of some length is found in the text if one of its maximal runs is as long. -/
theorem contains_replicate_iff {size : Nat} (positive : 0 < size) (runs : Runs mark) :
    contains (List.replicate size mark) runs.toList = true ↔
      ∃ length ∈ runs.lengths, size ≤ length := by
  have alone : ∀ length, contains (List.replicate size mark) (List.replicate length mark) =
      true ↔ size ≤ length := by
    intro length
    rw [contains_iff]
    constructor
    · intro inside
      simpa using inside.length_le
    · intro fits
      obtain ⟨more, rfl⟩ := Nat.exists_eq_add_of_le fits
      rw [List.replicate_add]
      exact (List.prefix_append _ _).isInfix
  induction runs with
  | last length => simp [lengths, toList, alone]
  | next length char other rest ih =>
      have apart : isApart (List.replicate size mark) [char] = true := by
        refine (isApart_of_disjoint ?_ (List.cons_ne_nil _ _)).resolve_left ?_
        · intro some member listed
          rw [List.eq_of_mem_replicate member, List.mem_singleton] at listed
          exact other listed.symm
        · simpa using positive.ne'
      rw [toList, ← List.singleton_append, contains_around apart, Bool.or_eq_true, alone, lengths]
      simp only [List.mem_cons, exists_eq_or_imp]
      exact or_congr_right ih

end Runs

/-- Two of a character become three, a run at a time: an odd one at its end is left over. -/
theorem replaceAll_replicate_append (mark : Char) (length : Nat) {rest : List Char}
    (ends : rest.head? ≠ some mark) :
    replaceAll [mark, mark] [mark, mark, mark] (List.replicate length mark ++ rest) =
      List.replicate (3 * (length / 2) + length % 2) mark ++
        replaceAll [mark, mark] [mark, mark, mark] rest := by
  induction length using Nat.twoStepInduction with
  | zero => rfl
  | one =>
      have odd : [mark, mark].isPrefixOf (mark :: rest) = false := by
        cases rest with
        | nil => simp [List.isPrefixOf]
        | cons first rest =>
            have unlike : mark ≠ first := fun same => ends (by rw [same]; rfl)
            simp [List.isPrefixOf, unlike]
      rw [List.replicate_one, List.singleton_append, replaceAll_cons, odd]
      rfl
  | more length ih _ =>
      have pair : [mark, mark].isPrefixOf
          (mark :: mark :: (List.replicate length mark ++ rest)) = true := by
        simp [List.isPrefixOf]
      have longer : 3 * ((length + 2) / 2) + (length + 2) % 2 =
          3 * (length / 2) + length % 2 + 3 := by omega
      rw [List.replicate_succ, List.replicate_succ, List.cons_append, List.cons_append,
        replaceAll_cons, if_pos pair, longer]
      have left : (mark :: (List.replicate length mark ++ rest)).drop ([mark, mark].length - 1) =
          List.replicate length mark ++ rest := rfl
      rw [left, ih, Nat.add_comm _ 3, List.replicate_add 3, List.append_assoc]
      rfl

namespace Runs

variable {mark : Char}

theorem replaceAll_toList (runs : Runs mark) :
    replaceAll [mark, mark] [mark, mark, mark] runs.toList =
      (runs.resize fun length => 3 * (length / 2) + length % 2).toList := by
  induction runs with
  | last length =>
      have ends : ([] : List Char).head? ≠ some mark := by simp
      have whole := replaceAll_replicate_append mark length ends
      rwa [List.append_nil, replaceAll_nil, List.append_nil] at whole
  | next length char other rest ih =>
      have single : [mark, mark].isPrefixOf (char :: rest.toList) = false := by
        simp [List.isPrefixOf, other.symm]
      rw [toList, replaceAll_replicate_append mark length (head?_cons_ne other _), replaceAll_cons,
        single, ih, resize, toList]
      rfl

end Runs

end LineReview.Text
