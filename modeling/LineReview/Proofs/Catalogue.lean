import LineReview.Catalogue
import LineReview.Proofs.Text.LetterCase

set_option autoImplicit false

/-! Searching the catalogue. Lower case does not go through a text piece by piece, as the form of a
sigma depends on what stands around it; but the catalogue is written in ASCII, so that a term with a
sigma in it finds nothing, and what a longer term finds is found by each part of it. -/

namespace LineReview.Catalogue

def isAscii (text : String) : Bool :=
  text.toList.all fun char => char.toNat < 0x80

/-- A text is checked on its characters, without being decoded. -/
theorem isAscii_ofList (chars : List Char) :
    isAscii (String.ofList chars) = chars.all fun char => char.toNat < 0x80 := by
  rw [isAscii, String.toList_ofList]

-- The texts are long enough for their characters, one inside another, to pass the usual depth.
set_option maxRecDepth 4000 in
theorem rules_isAscii :
    ∀ rule ∈ Rule.all, isAscii rule.title = true ∧ isAscii rule.description = true := by
  intro rule listed
  simp only [Rule.all, List.mem_cons, List.not_mem_nil, or_false] at listed
  rcases listed with rfl | rfl | rfl | rfl | rfl | rfl | rfl | rfl | rfl | rfl <;>
    exact ⟨(isAscii_ofList _).trans rfl, (isAscii_ofList _).trans rfl⟩

set_option maxRecDepth 4000 in
theorem topics_isAscii :
    ∀ topic ∈ Topic.all, isAscii topic.title = true ∧ isAscii topic.explanation = true := by
  intro topic listed
  simp only [Topic.all, List.mem_cons, List.not_mem_nil, or_false] at listed
  rcases listed with rfl | rfl | rfl | rfl | rfl | rfl <;>
    exact ⟨(isAscii_ofList _).trans rfl, (isAscii_ofList _).trans rfl⟩

theorem entries_isAscii :
    ∀ entry ∈ entries, isAscii entry.title = true ∧ isAscii entry.description = true := by
  intro entry listed
  rcases List.mem_append.mp listed with ofRule | ofTopic
  · obtain ⟨rule, known, rfl⟩ := List.mem_map.mp ofRule
    exact rules_isAscii rule known
  · obtain ⟨topic, known, rfl⟩ := List.mem_map.mp ofTopic
    exact topics_isAscii topic known

theorem mentions_iff {term : List Char} {text : String} :
    mentions term text = true ↔ Text.lower term <:+: Text.lower text.toList :=
  Text.contains_iff _ _

/-- What is mentioned in an ASCII text has no sigma, as the lower case of one is beyond ASCII in
every form. -/
theorem sigma_not_mem_of_mentions {term : List Char} {text : String} (ascii : isAscii text = true)
    (found : mentions term text = true) : Text.LetterCase.sigma ∉ term := by
  have inside : ∀ char ∈ text.toList, char.toNat < 0x80 := by
    simpa [isAscii, List.all_eq_true] using ascii
  apply Text.sigma_not_mem_of_lower
  intro char listed
  have member := (mentions_iff.mp found).subset listed
  rw [Text.lower_of_ascii inside] at member
  obtain ⟨other, known, rfl⟩ := List.mem_map.mp member
  exact Text.LetterCase.toLower_ascii (inside other known)

/-- An ASCII text that mentions a term mentions every part of it. -/
theorem mentions_of_part {before term after : List Char} {text : String}
    (ascii : isAscii text = true) (found : mentions (before ++ term ++ after) text = true) :
    mentions term text = true := by
  have plain := sigma_not_mem_of_mentions ascii found
  have front : Text.LetterCase.sigma ∉ before ++ term :=
    fun listed => plain (List.mem_append_left after listed)
  rw [mentions_iff, Text.lower_append_of_plain plain, Text.lower_append_of_plain front] at found
  rw [mentions_iff]
  exact List.IsInfix.trans ⟨Text.lower before, Text.lower after, rfl⟩ found

theorem mentions_congr {term other : List Char} (same : Text.SameLetters term other)
    (text : String) :
    mentions term text = mentions other text := by
  rw [mentions, mentions, same.lower_eq]

/-- The entry has the term in its title or its description. -/
def isFoundBy (term : List Char) (entry : CatalogueEntry) : Bool :=
  mentions term entry.title || mentions term entry.description

theorem search_eq (term : String) : search term = entries.filter (isFoundBy term.toList) := rfl

theorem isFoundBy_of_part {before term after : List Char} {entry : CatalogueEntry}
    (listed : entry ∈ entries) (found : isFoundBy (before ++ term ++ after) entry = true) :
    isFoundBy term entry = true := by
  obtain ⟨title, description⟩ := entries_isAscii entry listed
  rw [isFoundBy, Bool.or_eq_true] at found ⊢
  exact found.imp (mentions_of_part title) (mentions_of_part description)

/-- A longer term finds a part of what the term finds, in the order of the catalogue; the empty term
finds the whole catalogue; and what a term finds does not depend on the case of its ASCII
letters. -/
theorem search_narrows :
    (∀ before term after : String, (search (before ++ term ++ after)).Sublist (search term)) ∧
    search "" = entries ∧
    ∀ term other : String, Text.SameLetters term.toList other.toList →
      search term = search other := by
  refine ⟨?_, ?_, ?_⟩
  · intro before term after
    rw [search_eq, search_eq, String.toList_append, String.toList_append]
    have both : entries.filter (isFoundBy (before.toList ++ term.toList ++ after.toList)) =
        (entries.filter (isFoundBy term.toList)).filter
          (isFoundBy (before.toList ++ term.toList ++ after.toList)) := by
      rw [List.filter_filter]
      refine List.filter_congr fun entry listed => ?_
      rw [Bool.eq_iff_iff, Bool.and_eq_true]
      exact ⟨fun found => ⟨found, isFoundBy_of_part listed found⟩, And.left⟩
    rw [both]
    exact List.filter_sublist
  · rw [search_eq, List.filter_eq_self]
    intro entry listed
    rw [isFoundBy, mentions, String.toList_empty, Text.lower_nil, Text.contains_nil, Bool.true_or]
  · intro term other same
    simp only [search, mentions_congr same]

/-- The case of ASCII letters does not count beside a Kelvin sign either. -/
theorem search_narrows_of_kelvin :
    Text.SameLetters "BLOC\u212A Of code".toList "bloc\u212A oF CODE".toList ∧
    search "BLOC\u212A Of code" = search "bloc\u212A oF CODE" := by
  have same : Text.SameLetters "BLOC\u212A Of code".toList "bloc\u212A oF CODE".toList := by
    unfold Text.SameLetters
    decide
  exact ⟨same, search_narrows.2.2 _ _ same⟩

end LineReview.Catalogue
