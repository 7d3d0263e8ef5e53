import LineReview.Command.Review
import LineReview.Proofs.Text.LetterCase
import LineReview.Proofs.Text.Trim

set_option autoImplicit false

/-! Names of languages and ratings. A name is read whatever the case of its ASCII letters, and that
is all the freedom there is: the full lower case of Unicode lets in no further text, as none of the
names has a `k`. -/

namespace LineReview

namespace Language

/-- A language has the text among its names. -/
def owns (names : Language → List String) (text : List Char) (language : Language) : Bool :=
  (names language).any fun name => name.toList == text

theorem owns_iff {names : Language → List String} {text : List Char} {language : Language} :
    owns names text language = true ↔ ∃ name ∈ names language, name.toList = text := by
  simp only [owns, List.any_eq_true, beq_iff_eq]

/-- Where no two languages share a name, a language is found by its own names. -/
theorem find?_eq_some_iff {names : Language → List String}
    (apart : ∀ language other, ∀ name ∈ names language, name ∈ names other →
      language = other)
    {text : List Char} {language : Language} :
    all.find? (owns names text) = some language ↔
      ∃ name ∈ names language, name.toList = text := by
  constructor
  · intro found
    exact owns_iff.mp (List.find?_some found)
  · rintro ⟨name, listed, same⟩
    have listedAll : language ∈ all := by cases language <;> decide
    cases found : all.find? (owns names text) with
    | none =>
        have nobody := List.find?_eq_none.mp found language listedAll
        exact absurd (owns_iff.mpr ⟨name, listed, same⟩) nobody
    | some other =>
        obtain ⟨otherName, otherListed, otherSame⟩ := owns_iff.mp (List.find?_some found)
        have one : otherName = name := String.toList_inj.mp (otherSame.trans same.symm)
        rw [apart other language otherName otherListed (one ▸ listed)]

theorem names_apart :
    ∀ language other, ∀ name ∈ names language, name ∈ names other → language = other := by
  intro language other
  cases language <;> cases other <;> decide

theorem names_isFirm (language : Language) :
    ∀ name ∈ names language, Text.isFirm name.toList = true := by
  cases language <;> decide

/-- A text is read as a language exactly if it is, between its blanks, one of the names up to ASCII
case. -/
theorem parse?_eq_some_iff {text : String} {language : Language} :
    parse? text = some language ↔
      ∃ name ∈ language.names, Text.SameLetters (Text.trim Text.isBlank text.toList)
        name.toList := by
  change all.find? (owns names _) = some language ↔ _
  rw [find?_eq_some_iff names_apart]
  refine exists_congr fun name => and_congr_right fun listed => ?_
  rw [eq_comm, Text.lower_eq_iff_of_isFirm (names_isFirm language name listed)]

end Language

namespace Rating

theorem tag_isFirm (rating : Rating) : Text.isFirm rating.tag.toList = true := by
  cases rating <;> decide

/-- A text is read as a rating exactly if it is the name of the rating up to ASCII case. -/
theorem parse?_eq_some_iff {text : String} {rating : Rating} :
    parse? text = some rating ↔ Text.SameLetters text.toList rating.tag.toList := by
  rw [← Text.lower_eq_iff_of_isFirm rating.tag_isFirm]
  constructor
  · intro found
    have same := List.find?_some found
    exact (beq_iff_eq.mp same).symm
  · intro same
    rw [parse?, same]
    cases rating <;> rfl

end Rating

/-- A text that has a character from outside ASCII between its blanks is not the name of
anything. -/
theorem parse?_of_beyond {text : String}
    (beyond : ∃ char ∈ Text.trim Text.isBlank text.toList, 0x80 ≤ char.toNat) :
    Language.parse? text = none ∧ Rating.parse? text = none := by
  obtain ⟨char, listed, outside⟩ := beyond
  have unlike {part word : List Char} (inside : char ∈ part) (firm : Text.isFirm word = true) :
      ¬Text.SameLetters part word := by
    intro same
    have ascii := same.ascii (fun other member =>
      (Text.isFirm_iff.mp firm other member).1.1) char inside
    omega
  constructor
  · cases found : Language.parse? text with
    | none => rfl
    | some language =>
        obtain ⟨name, known, same⟩ := Language.parse?_eq_some_iff.mp found
        exact absurd same (unlike listed (language.names_isFirm name known))
  · cases found : Rating.parse? text with
    | none => rfl
    | some rating =>
        have same := Rating.parse?_eq_some_iff.mp found
        exact absurd same (unlike (Text.mem_of_mem_trim listed) rating.tag_isFirm)

/-- A text names a language exactly if it is a tag or an alias of it between its blanks, and a
rating exactly if it is the tag of it, in both cases up to the case of ASCII letters, so that a
character from outside ASCII is in no name. A text that names nothing is refused as it was given, on
the command line and in the settings. -/
theorem names_up_to_case :
    (∀ (text : String) (language : Language), Language.parse? text = some language ↔
      ∃ name ∈ language.tag :: language.aliases,
        Text.SameLetters (Text.trim Text.isBlank text.toList) name.toList) ∧
    (∀ (text : String) (rating : Rating),
      Rating.parse? text = some rating ↔ Text.SameLetters text.toList rating.tag.toList) ∧
    (∀ text : String, (∃ char ∈ Text.trim Text.isBlank text.toList, 0x80 ≤ char.toNat) →
      Language.parse? text = none ∧ Rating.parse? text = none) ∧
    ∀ (text : String) (config : Config) (path : String),
      (Language.parse? text = none →
        config.languageFor (some text) path = .error text ∧
        { config with language := some text }.defaultLanguage = .error text ∧
        (Complaint.unknownLanguage text).text = "unknown language: " ++ text) ∧
      (Rating.parse? text = none →
        ReviewJob.thresholdFor config (some text) = .error (.unknownRating text) ∧
        { config with failOn := some text }.threshold = .error text ∧
        (Complaint.unknownRating text).text = "unknown quality: " ++ text) := by
  refine ⟨fun _ _ => Language.parse?_eq_some_iff, fun _ _ => Rating.parse?_eq_some_iff,
    fun _ => parse?_of_beyond, ?_⟩
  intro text config path
  refine ⟨fun unknown => ⟨?_, ?_, rfl⟩, fun unknown => ⟨?_, ?_, rfl⟩⟩
  · rw [Config.languageFor, unknown]
  · simp only [Config.defaultLanguage, unknown]
  · rw [ReviewJob.thresholdFor, unknown]
  · simp only [Config.threshold, unknown]

/-- With a long s, whose capital is the ordinary one, no language is named. -/
theorem names_up_to_case_of_long_s :
    (∃ char ∈ Text.trim Text.isBlank " JavaſCRIPT".toList, 0x80 ≤ char.toNat) ∧
    Language.parse? " JavaſCRIPT" = none ∧
    Config.default.languageFor (some " JavaſCRIPT") "a.js" = .error " JavaſCRIPT" ∧
    Language.parse? " JavaSCRIPT" = some .javascript := by
  have beyond : ∃ char ∈ Text.trim Text.isBlank " JavaſCRIPT".toList, 0x80 ≤ char.toNat :=
    ⟨'ſ', by decide, by decide⟩
  have unknown := (names_up_to_case.2.2.1 " JavaſCRIPT" beyond).1
  refine ⟨beyond, unknown,
    ((names_up_to_case.2.2.2 " JavaſCRIPT" Config.default "a.js").1 unknown).1, ?_⟩
  exact (names_up_to_case.1 " JavaSCRIPT" .javascript).mpr
    ⟨"javascript", by decide, by unfold Text.SameLetters; decide⟩

end LineReview
