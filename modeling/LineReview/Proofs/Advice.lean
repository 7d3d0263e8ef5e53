import LineReview.Review
import Mathlib.Data.List.Nodup

set_option autoImplicit false

namespace LineReview

theorem Remark.texts_nodup : (Remark.all.map Remark.text).Nodup := by
  decide

namespace Evidence

theorem mem_advice_iff (evidence : Evidence) (text : String) :
    text ∈ evidence.advice ↔
      ∃ remark ∈ Remark.all, remark.applies evidence = true ∧ remark.text = text := by
  simp only [advice, List.mem_map, List.mem_filter, and_assoc]

theorem text_mem_advice_iff (evidence : Evidence) {remark : Remark}
    (listed : remark ∈ Remark.all) :
    remark.text ∈ evidence.advice ↔ remark.applies evidence = true := by
  rw [mem_advice_iff]
  constructor
  · rintro ⟨other, otherListed, applies, same⟩
    rw [← List.inj_on_of_nodup_map Remark.texts_nodup otherListed listed same]
    exact applies
  · intro applies
    exact ⟨remark, listed, applies, rfl⟩

/-- Remarks keep the order of the table. -/
theorem advice_sublist (evidence : Evidence) :
    evidence.advice.Sublist (Remark.all.map Remark.text) :=
  List.filter_sublist.map _

theorem advice_nodup (evidence : Evidence) : evidence.advice.Nodup :=
  Remark.texts_nodup.sublist evidence.advice_sublist

/-- Evidence that is made up of two parts, as far as remarks look at it. -/
structure Joined (first second whole : Evidence) : Prop where
  language_first : first.language = whole.language
  language_second : second.language = whole.language
  messages : whole.findings.map Finding.message =
    first.findings.map Finding.message ++ second.findings.map Finding.message
  notes : whole.notes.isEmpty = (first.notes.isEmpty && second.notes.isEmpty)

variable {first second whole : Evidence}

theorem mentions_eq_any (evidence : Evidence) (word : String) :
    evidence.mentions word =
      (evidence.findings.map Finding.message).any fun message =>
        Text.contains word.toList message.toList := by
  rw [mentions, List.any_map]
  rfl

theorem Joined.mentions (joined : Joined first second whole) (word : String) :
    whole.mentions word = (first.mentions word || second.mentions word) := by
  simp only [mentions_eq_any, joined.messages, List.any_append]

theorem Joined.findings_isEmpty (joined : Joined first second whole) :
    whole.findings.isEmpty = (first.findings.isEmpty && second.findings.isEmpty) := by
  have sizes := congrArg List.length joined.messages
  simp only [List.length_append, List.length_map] at sizes
  rw [Bool.eq_iff_iff, Bool.and_eq_true]
  simp only [List.isEmpty_iff_length_eq_zero]
  omega

theorem Joined.applies (joined : Joined first second whole) {remark : Remark}
    (listed : remark ∈ Remark.all) (other : remark.text ≠ Remark.noIssues.text) :
    remark.applies whole = (remark.applies first || remark.applies second) := by
  simp only [Remark.all, List.mem_cons, List.not_mem_nil, or_false] at listed
  rcases listed with rfl | rfl | rfl | rfl | rfl | rfl | rfl | rfl | rfl
  · exact joined.mentions "var"
  · exact joined.mentions "console"
  · exact joined.mentions "equality"
  · exact joined.mentions "semicolon"
  · exact joined.mentions "null"
  · simp only [Remark.goodStructure, joined.notes, Bool.not_and]
  · exact absurd rfl other
  · simp only [Remark.directIteration, joined.mentions, joined.language_first,
      joined.language_second, Bool.and_or_distrib_left]
  · exact joined.mentions "TODO"

/-- A remark other than the praise for no findings is made when it is made on either part. -/
theorem Joined.mem_advice (joined : Joined first second whole) {text : String}
    (other : text ≠ Remark.noIssues.text) :
    text ∈ whole.advice ↔ text ∈ first.advice ∨ text ∈ second.advice := by
  simp only [mem_advice_iff, ← exists_or, ← and_or_left, ← or_and_right]
  constructor
  · rintro ⟨remark, listed, applies, rfl⟩
    rw [joined.applies listed other, Bool.or_eq_true] at applies
    exact ⟨remark, listed, applies, rfl⟩
  · rintro ⟨remark, listed, applies, rfl⟩
    rw [← Bool.or_eq_true, ← joined.applies listed other] at applies
    exact ⟨remark, listed, applies, rfl⟩

theorem Joined.noIssues_mem_advice (joined : Joined first second whole) :
    Remark.noIssues.text ∈ whole.advice ↔
      Remark.noIssues.text ∈ first.advice ∧ Remark.noIssues.text ∈ second.advice := by
  have listed : Remark.noIssues ∈ Remark.all := by simp [Remark.all]
  simp only [text_mem_advice_iff _ listed]
  change whole.findings.isEmpty = true ↔
    first.findings.isEmpty = true ∧ second.findings.isEmpty = true
  rw [joined.findings_isEmpty, Bool.and_eq_true]

end Evidence

end LineReview
