import LineReview.Proofs.Text.Line

set_option autoImplicit false

namespace LineReview.Line

/-- The text with a carriage return put before every line feed. -/
def withReturns (text : String) : String :=
  String.ofList (Text.replaceAll ['\n'] ['\r', '\n'] text.toList)

/-- The text with the carriage return dropped from every pair of a carriage return and a line
feed. -/
def withoutReturns (text : String) : String :=
  String.ofList (Text.replaceAll ['\r', '\n'] ['\n'] text.toList)

/-- The second line is the first one with or without a carriage return after it. -/
def Returned (line returned : Line) : Prop :=
  returned = line ∨ returned = line ++ ['\r']

theorem Returned.cons {line returned : Line} (same : Returned line returned) (char : Char) :
    Returned (char :: line) (char :: returned) := by
  rcases same with rfl | rfl
  · exact Or.inl rfl
  · exact Or.inr rfl

theorem Returned.padded {line returned : Line} (same : Returned line returned) :
    Padded line returned := by
  rcases same with rfl | rfl
  · exact Padded.refl returned
  · exact ⟨[], ['\r'], isPadding_nil, by decide, rfl⟩

theorem returned_splitOn_other {char : Char} {rest longer : List Char} (other : char ≠ '\n')
    (same : List.Forall₂ Returned (rest.splitOn '\n') (longer.splitOn '\n')) :
    List.Forall₂ Returned ((char :: rest).splitOn '\n') ((char :: longer).splitOn '\n') := by
  obtain ⟨first, lines, split⟩ := List.exists_cons_of_ne_nil (List.splitOn_ne_nil '\n' rest)
  obtain ⟨firstLonger, linesLonger, splitLonger⟩ :=
    List.exists_cons_of_ne_nil (List.splitOn_ne_nil '\n' longer)
  rw [split, splitLonger, List.forall₂_cons] at same
  rw [splitOn_other other, splitOn_other other, split, splitLonger, List.modifyHead_cons,
    List.modifyHead_cons]
  exact List.Forall₂.cons (same.1.cons char) same.2

theorem returned_splitOn_feed {rest longer : List Char}
    (same : List.Forall₂ Returned (rest.splitOn '\n') (longer.splitOn '\n')) :
    List.Forall₂ Returned (('\n' :: rest).splitOn '\n')
      (('\r' :: '\n' :: longer).splitOn '\n') := by
  have other : '\r' ≠ '\n' := by decide
  rw [splitOn_feed, splitOn_other other, splitOn_feed, List.modifyHead_cons]
  exact List.Forall₂.cons (Or.inr rfl) same

theorem returned_splitOn_replaceFeeds (chars : List Char) :
    List.Forall₂ Returned (chars.splitOn '\n')
      ((Text.replaceAll ['\n'] ['\r', '\n'] chars).splitOn '\n') := by
  induction chars with
  | nil => exact List.Forall₂.cons (Or.inl rfl) List.Forall₂.nil
  | cons char rest ih =>
      rw [Text.replaceAll_cons]
      by_cases feed : char = '\n'
      · subst feed
        rw [if_pos (by simp)]
        exact returned_splitOn_feed ih
      · have absent : ¬['\n'].isPrefixOf (char :: rest) = true := by
          rw [List.isPrefixOf_iff_prefix, List.cons_prefix_cons]
          exact fun same => feed same.1.symm
        rw [if_neg absent]
        exact returned_splitOn_other feed ih

theorem returned_splitOn_replacePairs (chars : List Char) :
    List.Forall₂ Returned ((Text.replaceAll ['\r', '\n'] ['\n'] chars).splitOn '\n')
      (chars.splitOn '\n') := by
  -- A replaced pair takes two characters at once, so the recursion is on the length.
  match chars with
  | [] => exact List.Forall₂.cons (Or.inl rfl) List.Forall₂.nil
  | char :: rest =>
      rw [Text.replaceAll_cons]
      by_cases pair : ['\r', '\n'].isPrefixOf (char :: rest) = true
      · obtain ⟨tail, whole⟩ := List.isPrefixOf_iff_prefix.mp pair
        cases whole
        rw [if_pos pair]
        exact returned_splitOn_feed (returned_splitOn_replacePairs tail)
      · rw [if_neg pair]
        by_cases feed : char = '\n'
        · subst feed
          rw [splitOn_feed, splitOn_feed]
          exact List.Forall₂.cons (Or.inl rfl) (returned_splitOn_replacePairs rest)
        · exact returned_splitOn_other feed (returned_splitOn_replacePairs rest)
termination_by chars.length

theorem padded_withReturns (text : String) :
    List.Forall₂ Padded (ofText text) (ofText (withReturns text)) := by
  simp only [ofText, withReturns, String.toList_ofList]
  exact (returned_splitOn_replaceFeeds text.toList).imp fun _ _ same => same.padded

theorem padded_withoutReturns (text : String) :
    List.Forall₂ Padded (ofText (withoutReturns text)) (ofText text) := by
  simp only [ofText, withoutReturns, String.toList_ofList]
  exact (returned_splitOn_replacePairs text.toList).imp fun _ _ same => same.padded

end LineReview.Line
