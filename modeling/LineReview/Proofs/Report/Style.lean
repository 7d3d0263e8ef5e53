import LineReview.Proofs.Report.Escape
import LineReview.Proofs.Text.Search

set_option autoImplicit false

namespace LineReview

open Escape

namespace Style

theorem isParameter_codes (style : Style) :
    ∀ char ∈ style.codes.toList, isParameter char = true := by
  apply List.all_eq_true.mp
  cases style with
  | bold => rfl
  | dimmed => rfl
  | colour foreground => cases foreground <;> rfl
  | boldColour foreground => cases foreground <;> rfl

theorem isSequence_escape {codes : String}
    (listed : ∀ char ∈ codes.toList, isParameter char = true) : IsSequence (escape codes) :=
  ⟨codes.toList, listed, rfl⟩

theorem isSequence_reset : IsSequence reset :=
  isSequence_escape (List.all_eq_true.mp rfl)

theorem stops_escape_append (codes : String) (rest : List Char) : Stops (escape codes ++ rest) := by
  rintro _ ⟨⟩
  rfl

/-- The text of a styled piece, with the codes of the style again after every reset. -/
def resumed (style : Style) (text : List Char) : List Char :=
  Text.replaceAll reset (reset ++ escape style.codes) text

theorem stops_resumed (style : Style) {text : List Char} (stops : Stops text) :
    Stops (style.resumed text) := by
  cases text with
  | nil => exact stops
  | cons first rest =>
      rw [resumed, Text.replaceAll_cons]
      split
      · rw [List.append_assoc]
        exact stops_escape_append "0" _
      · exact stops

/-- Going on with a style after a reset adds nothing but sequences. -/
theorem strip_resumed (style : Style) (text : List Char) :
    strip (style.resumed text) = strip text := by
  induction length : text.length using Nat.strongRecOn generalizing text with
  | ind size ih =>
      cases text with
      | nil => rfl
      | cons first rest =>
          by_cases resets : reset.isPrefixOf (first :: rest) = true
          · obtain ⟨after, whole⟩ := List.isPrefixOf_iff_prefix.mp resets
            have kept : rest.drop (reset.length - 1) = after := by
              have dropped := congrArg (List.drop reset.length) whole
              rw [List.drop_left] at dropped
              exact dropped.symm
            have shorter : after.length < size := by
              have nonempty : 0 < reset.length := by decide
              rw [← length, ← whole, List.length_append]
              omega
            rw [resumed, Text.replaceAll_cons, if_pos resets, kept, ← whole, List.append_assoc,
              strip_sequence_append isSequence_reset, strip_sequence_append isSequence_reset,
              strip_sequence_append (isSequence_escape style.isParameter_codes)]
            exact ih after.length shorter after rfl
          · -- Up to the next mark the text stays as it is, and no sequence runs across that mark.
            obtain ⟨body, after, rfl, bare, stops⟩ := exists_cut rest
            have shorter : after.length < size := by
              rw [← length, List.length_cons, List.length_append]
              omega
            have passed : style.resumed (first :: (body ++ after)) = first :: body ++
                style.resumed after := by
              rw [resumed, Text.replaceAll_cons, if_neg resets]
              exact congrArg (List.cons first) (Text.replaceAll_append_of_not_mem bare _ _ _)
            rw [passed, ← List.cons_append, strip_append_of_stops _ stops,
              strip_append_of_stops _ (style.stops_resumed stops),
                ih after.length shorter after rfl]

end Style

namespace Piece

/-- The text leaves no sequence open that what follows it could end. -/
def Closed (text : String) : Prop :=
  ∀ rest, strip (text.toList ++ rest) = strip text.toList ++ strip rest

/-- The text starts with a character that goes on with no sequence. -/
def Starts (text : String) : Prop :=
  text.toList.head?.any (fun first => !continues first) = true

/-- The text starts with a character that goes on with no sequence, and opens none itself. -/
def IsBreak (text : String) : Prop :=
  Starts text ∧ mark ∉ text.toList

instance (text : String) : Decidable (Starts text) :=
  inferInstanceAs (Decidable (_ = true))

instance (text : String) : Decidable (IsBreak text) :=
  inferInstanceAs (Decidable (_ ∧ _))

/-- Pieces can be stripped one by one, with or without colours and whatever follows them. -/
def StripApart (pieces : List Piece) : Prop :=
  ∀ coloured rest, strip (pieces.flatMap (render coloured) ++ rest) =
    pieces.flatMap (fun piece => strip piece.text.toList) ++ strip rest

theorem closed_of_bare {text : String} (bare : mark ∉ text.toList) : Closed text := by
  intro rest
  rw [strip_append_of_bare bare, strip_of_bare bare]

theorem Starts.append {before : String} (starts : Starts before) (after : String) :
    Starts (before ++ after) := by
  unfold Starts at starts ⊢
  rw [String.toList_append, List.head?_append]
  cases head : before.toList.head? with
  | none =>
      rw [head] at starts
      cases starts
  | some first => rwa [head] at starts

theorem Starts.stops_append {text : String} (starts : Starts text) (rest : List Char) :
    Stops (text.toList ++ rest) := by
  intro next found
  unfold Starts at starts
  cases head : text.toList.head? with
  | none =>
      rw [head] at starts
      cases starts
  | some first =>
      rw [head, Option.any_some, Bool.not_eq_true'] at starts
      rw [List.head?_append, head, Option.some_or] at found
      cases found
      exact starts

/-- A break closes whatever text it is put after. -/
theorem closed_append_break (before : String) {after : String} (ends : IsBreak after) :
    Closed (before ++ after) := by
  intro rest
  have stops := ends.1.stops_append []
  rw [List.append_nil] at stops
  rw [String.toList_append, List.append_assoc, strip_append_of_stops _ (ends.1.stops_append rest),
    closed_of_bare ends.2 rest, strip_append_of_stops _ stops, List.append_assoc]

theorem strip_render_append (piece : Piece) (coloured : Bool) {rest : List Char}
    (border : Closed piece.text ∨ Stops rest) :
    strip (piece.render coloured ++ rest) = strip piece.text.toList ++ strip rest := by
  have uncoloured : strip (piece.text.toList ++ rest) = strip piece.text.toList ++ strip rest := by
    rcases border with closed | stops
    · exact closed rest
    · exact strip_append_of_stops _ stops
  unfold render
  cases piece.style with
  | none => exact uncoloured
  | some style =>
      cases coloured with
      | false => exact uncoloured
      | true =>
          change strip (Style.escape style.codes ++ style.resumed piece.text.toList ++
            Style.reset ++ rest) = _
          have stops : Stops (Style.reset ++ rest) := Style.stops_escape_append "0" rest
          rw [List.append_assoc, List.append_assoc,
            strip_sequence_append (Style.isSequence_escape style.isParameter_codes),
              strip_append_of_stops _ stops,
            style.strip_resumed, strip_sequence_append Style.isSequence_reset]

theorem stops_render_append {piece : Piece} (starts : Starts piece.text) (coloured : Bool)
    (rest : List Char) : Stops (piece.render coloured ++ rest) := by
  unfold render
  cases piece.style with
  | none => exact starts.stops_append rest
  | some style =>
      cases coloured with
      | false => exact starts.stops_append rest
      | true =>
          simp only [↓reduceIte, List.append_assoc]
          exact Style.stops_escape_append _ _

theorem stripApart_nil : StripApart [] :=
  fun _ _ => rfl

theorem StripApart.append {first second : List Piece} (left : StripApart first)
    (right : StripApart second) : StripApart (first ++ second) := by
  intro coloured rest
  rw [List.flatMap_append, List.append_assoc, left, right, List.flatMap_append, List.append_assoc]

theorem stripApart_flatMap {Entry : Type} {pieces : Entry → List Piece}
    (apart : ∀ entry, StripApart (pieces entry)) (entries : List Entry) :
    StripApart (entries.flatMap pieces) := by
  induction entries with
  | nil => exact stripApart_nil
  | cons entry others ih => exact (apart entry).append ih

/-- A piece whose text is closed can be stripped apart from whatever follows. -/
theorem StripApart.cons {piece : Piece} {pieces : List Piece} (closed : Closed piece.text)
    (apart : StripApart pieces) : StripApart (piece :: pieces) := by
  intro coloured rest
  rw [List.flatMap_cons, List.append_assoc, piece.strip_render_append coloured (.inl closed), apart,
    List.flatMap_cons, List.append_assoc]

/-- A piece of any text can be stripped apart from a piece that goes on with no sequence. -/
theorem StripApart.cons_cons (piece : Piece) {next : Piece} {pieces : List Piece}
    (starts : Starts next.text) (apart : StripApart (next :: pieces)) :
    StripApart (piece :: next :: pieces) := by
  intro coloured rest
  have stops : Stops ((next :: pieces).flatMap (render coloured) ++ rest) := by
    rw [List.flatMap_cons, List.append_assoc]
    exact stops_render_append starts coloured _
  rw [List.flatMap_cons, List.append_assoc, piece.strip_render_append coloured (.inr stops), apart]
  exact (List.append_assoc _ _ _).symm

theorem StripApart.cons_bare {piece : Piece} {pieces : List Piece}
    (bare : mark ∉ piece.text.toList) (apart : StripApart pieces) :
    StripApart (piece :: pieces) :=
  .cons (closed_of_bare bare) apart

/-- No piece holds the mark. -/
def Bare (pieces : List Piece) : Prop :=
  ∀ piece ∈ pieces, mark ∉ piece.text.toList

@[simp] theorem bare_nil : Bare [] :=
  nofun

@[simp] theorem bare_cons {piece : Piece} {pieces : List Piece} :
    Bare (piece :: pieces) ↔ mark ∉ piece.text.toList ∧ Bare pieces :=
  List.forall_mem_cons

@[simp] theorem bare_append {first second : List Piece} :
    Bare (first ++ second) ↔ Bare first ∧ Bare second :=
  List.forall_mem_append

@[simp] theorem bare_flatMap {Entry : Type} {entries : List Entry} {pieces : Entry → List Piece} :
    Bare (entries.flatMap pieces) ↔ ∀ entry ∈ entries, Bare (pieces entry) := by
  simp only [Bare, List.mem_flatMap, forall_exists_index, and_imp]
  exact ⟨fun bare entry member piece listed => bare piece entry member listed,
    fun bare piece entry member listed => bare entry member piece listed⟩

theorem strip_render_of_bare {pieces : List Piece} (bare : Bare pieces) :
    strip (pieces.flatMap (render false)) = pieces.flatMap (render false) := by
  apply strip_of_bare
  intro member
  obtain ⟨piece, listed, inside⟩ := List.mem_flatMap.mp member
  apply bare piece listed
  unfold render at inside
  split at inside
  · exact inside
  · exact inside

end Piece

end LineReview
