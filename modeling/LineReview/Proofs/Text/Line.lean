import LineReview.Proofs.Text.Trim
import LineReview.Text.Line
import Mathlib.Data.List.Forall2

set_option autoImplicit false

namespace LineReview.Line

/-- The text whose lines these are. -/
def join (lines : List Line) : String :=
  String.ofList (['\n'].intercalate lines)

theorem ofText_join {lines : List Line} (some : lines ≠ [])
    (single : ∀ line ∈ lines, '\n' ∉ line) : ofText (join lines) = lines := by
  simp only [join, ofText, String.toList_ofList]
  exact List.splitOn_intercalate '\n' single some

theorem splitOn_feed (rest : List Char) :
    ('\n' :: rest).splitOn '\n' = [] :: rest.splitOn '\n' := by
  rw [List.splitOn_cons_eq_if_modifyHead]
  rfl

theorem splitOn_other {char : Char} (other : char ≠ '\n') (rest : List Char) :
    (char :: rest).splitOn '\n' = (rest.splitOn '\n').modifyHead (List.cons char) := by
  rw [List.splitOn_cons_eq_if_modifyHead, if_neg (by simpa using other)]

theorem ofText_ne_nil (text : String) : ofText text ≠ [] :=
  List.splitOn_ne_nil _ _

theorem length_splitOn (chars : List Char) :
    (chars.splitOn '\n').length = chars.count '\n' + 1 := by
  induction chars with
  | nil => rfl
  | cons char rest ih =>
      by_cases feed : char = '\n'
      · subst feed
        rw [splitOn_feed, List.length_cons, ih, List.count_cons_self]
      · rw [splitOn_other feed, List.length_modifyHead, ih, List.count_cons_of_ne feed]

/-- A text has one line more than it has line feeds. -/
theorem length_ofText (text : String) : (ofText text).length = text.toList.count '\n' + 1 :=
  length_splitOn text.toList

theorem feed_not_mem_splitOn (chars : List Char) :
    ∀ line ∈ chars.splitOn '\n', '\n' ∉ line := by
  induction chars with
  | nil => simp
  | cons char rest ih =>
      intro line member
      by_cases feed : char = '\n'
      · subst feed
        rw [splitOn_feed, List.mem_cons] at member
        rcases member with rfl | member
        · exact List.not_mem_nil
        · exact ih line member
      · obtain ⟨first, lines, split⟩ :=
          List.exists_cons_of_ne_nil (List.splitOn_ne_nil '\n' rest)
        rw [splitOn_other feed, split, List.modifyHead_cons, List.mem_cons] at member
        rw [split] at ih
        rcases member with rfl | member
        · rw [List.mem_cons, not_or]
          exact ⟨Ne.symm feed, ih first List.mem_cons_self⟩
        · exact ih line (List.mem_cons_of_mem _ member)

theorem feed_not_mem {text : String} {line : Line} (member : line ∈ ofText text) :
    '\n' ∉ line :=
  feed_not_mem_splitOn text.toList line member

/-- Lines put after a text follow its own lines. -/
theorem ofText_append_lines (text : String) (lines : List Line)
    (single : ∀ line ∈ lines, '\n' ∉ line) :
    ofText (text ++ String.ofList (lines.flatMap (List.cons '\n'))) = ofText text ++ lines := by
  induction lines generalizing text with
  | nil =>
      simp only [List.flatMap_nil, List.append_nil]
      rw [show String.ofList [] = "" from rfl, String.append_empty]
  | cons line rest ih =>
      have cut : ofText (String.ofList line) = [line] := by
        simp only [ofText, String.toList_ofList]
        exact List.splitOn_eq_singleton (single line List.mem_cons_self)
      have step : text ++ String.ofList ((line :: rest).flatMap (List.cons '\n')) =
          text ++ "\n" ++ String.ofList line ++ String.ofList (rest.flatMap (List.cons '\n')) := by
        rw [← String.toList_inj]
        simp [List.flatMap_cons]
      rw [step, ih _ (fun other member => single other (List.mem_cons_of_mem _ member)),
        ofText_append, cut, List.append_assoc, List.singleton_append]

/-- Characters that may be put around a line without adding a line. -/
def IsPadding (text : List Char) : Prop :=
  ∀ char ∈ text, isMargin char = true ∧ char ≠ '\n'

instance (text : List Char) : Decidable (IsPadding text) :=
  List.decidableBAll _ text

/-- The second line is the first one with padding before and after it. -/
def Padded (line padded : Line) : Prop :=
  ∃ before after, IsPadding before ∧ IsPadding after ∧ padded = before ++ line ++ after

theorem IsPadding.margin {text : List Char} (padding : IsPadding text) :
    ∀ char ∈ text, isMargin char = true :=
  fun char member => (padding char member).1

theorem IsPadding.feed_not_mem {text : List Char} (padding : IsPadding text) : '\n' ∉ text :=
  fun member => (padding '\n' member).2 rfl

theorem isPadding_nil : IsPadding [] :=
  fun _ member => absurd member List.not_mem_nil

theorem Padded.refl (line : Line) : Padded line line :=
  ⟨[], [], isPadding_nil, isPadding_nil, by simp⟩

theorem Padded.trimmed_eq {line padded : Line} (around : Padded line padded) :
    padded.trimmed = line.trimmed := by
  obtain ⟨before, after, left, right, rfl⟩ := around
  unfold trimmed
  rw [Text.trim_append_right _ _ after right.margin, Text.trim_append_left _ before _ left.margin]

theorem Padded.feed_not_mem {line padded : Line} (around : Padded line padded)
    (single : '\n' ∉ line) : '\n' ∉ padded := by
  obtain ⟨before, after, left, right, rfl⟩ := around
  rw [List.mem_append, List.mem_append, not_or, not_or]
  exact ⟨⟨left.feed_not_mem, single⟩, right.feed_not_mem⟩

theorem map_trimmed_of_padded {lines padded : List Line}
    (around : List.Forall₂ Padded lines padded) : padded.map trimmed = lines.map trimmed := by
  induction around with
  | nil => rfl
  | cons first _ ih => rw [List.map_cons, List.map_cons, first.trimmed_eq, ih]

theorem feed_not_mem_padded {lines padded : List Line} (around : List.Forall₂ Padded lines padded)
    (single : ∀ line ∈ lines, '\n' ∉ line) : ∀ line ∈ padded, '\n' ∉ line := by
  induction around with
  | nil => exact single
  | cons first _ ih =>
      rw [List.forall_mem_cons] at single ⊢
      exact ⟨first.feed_not_mem single.1, ih single.2⟩

theorem ofText_join_of_padded {text : String} {padded : List Line}
    (around : List.Forall₂ Padded (ofText text) padded) : ofText (join padded) = padded := by
  apply ofText_join
  · intro empty
    subst empty
    exact ofText_ne_nil text (List.forall₂_nil_right_iff.mp around)
  · exact feed_not_mem_padded around fun line member => feed_not_mem member

@[simp] theorem trimmed_trimmed (line : Line) : line.trimmed.trimmed = line.trimmed :=
  Text.trim_trim isMargin line

theorem ofText_join_trimmed (text : String) :
    ofText (join ((ofText text).map trimmed)) = (ofText text).map trimmed := by
  apply ofText_join
  · rw [ne_eq, List.map_eq_nil_iff]
    exact ofText_ne_nil text
  · intro line member
    obtain ⟨whole, listed, rfl⟩ := List.mem_map.mp member
    intro feed
    exact feed_not_mem listed (Text.mem_of_mem_trim feed)

end LineReview.Line
