import LineReview.Proofs.Command.Review
import LineReview.Proofs.Review.Concatenation
import LineReview.Proofs.Review.Margin

set_option autoImplicit false

namespace LineReview

/-- The second text is the first one with further lines before or after it, where lines can also be
put after a text that a line feed ends. -/
inductive Line.Extends : String → String → Prop where
  | before (text added : String) : Extends text (added ++ "\n" ++ text)
  | after (text added : String) : Extends text (text ++ "\n" ++ added)
  | afterFeed (text added : String) : Extends (text ++ "\n") (text ++ "\n" ++ added)

namespace Review

/-- A line feed at the end of a text makes no difference. -/
theorem ofText_append_feed (text : String) (language : Language) :
    ofText (text ++ "\n") language = ofText text language := by
  apply ofText_append_blank text language [[]]
  intro line member
  rw [List.mem_singleton.mp member]
  exact Line.isPadding_nil

theorem tally_atMost_of_extends {text longer : String} (extended : Line.Extends text longer)
    (language : Language) :
    (Rating.Tally.ofFindings (ofText text language).findings).AtMost
      (Rating.Tally.ofFindings (ofText longer language).findings) := by
  cases extended with
  | before text added =>
      rw [tally_append]
      exact Rating.Tally.atMost_add_right _ _
  | after text added =>
      rw [tally_append]
      exact Rating.Tally.atMost_add_left _ _
  | afterFeed text added =>
      rw [ofText_append_feed, tally_append]
      exact Rating.Tally.atMost_add_left _ _

/-- Further lines never better a rating. -/
theorem place_rating_le_of_extends {text longer : String} (extended : Line.Extends text longer)
    (language : Language) :
    (ofText text language).rating.place ≤ (ofText longer language).rating.place := by
  rw [rating_ofText, rating_ofText]
  exact Rating.place_ofTally_le (tally_atMost_of_extends extended language)

theorem isWorseThan_of_extends {text longer : String} (extended : Line.Extends text longer)
    {language : Language} {threshold : Rating}
    (worse : (ofText text language).rating.isWorseThan threshold = true) :
    (ofText longer language).rating.isWorseThan threshold = true := by
  have order := place_rating_le_of_extends extended language
  rw [Rating.isWorseThan_iff] at worse ⊢
  omega

end Review

namespace Rating

theorem isWorseThan_of_looser {rating strict loose : Rating}
    (looser : strict.isWorseThan loose = false) (passes : rating.isWorseThan strict = false) :
    rating.isWorseThan loose = false := by
  rw [isWorseThan_eq_false_iff] at *
  omega

end Rating

namespace ReviewOptions

variable {environment environment' : Environment} {tree tree' : FileTree}
  {options options' : ReviewOptions} {config config' : Config} {format format' : ReportFormat}
  {language : Language} {text longer : String}

theorem run_fails_of_extends (finds : Finds environment tree options config format language text)
    (finds' : Finds environment' tree' options' config' format' language longer)
    (extended : Line.Extends text longer)
    (same : options'.threshold? config' = options.threshold? config)
    (fails : (options.run environment tree).exitCode.number = 1) :
    (options'.run environment' tree').exitCode.number = 1 := by
  obtain ⟨threshold, bound, worse⟩ := (reports_run finds).fails.mp fails
  rw [← same] at bound
  exact (reports_run finds').fails.mpr ⟨threshold, bound,
    Review.isWorseThan_of_extends extended worse⟩

theorem run_passes_of_looser (finds : Finds environment tree options config format language text)
    (finds' : Finds environment' tree' options' config' format' language text)
    {strict loose : Rating} (bound : options.threshold? config = some strict)
    (bound' : options'.threshold? config' = some loose) (looser : strict.isWorseThan loose = false)
    (passes : (options.run environment tree).exitCode.number = 0) :
    (options'.run environment' tree').exitCode.number = 0 := by
  have accepted : (Review.ofText text language).rating.isWorseThan strict = false := by
    rw [← Bool.not_eq_true]
    intro worse
    have fails := (reports_run finds).fails.mpr ⟨strict, bound, worse⟩
    omega
  rcases (reports_run finds').exitCode with zero | one
  · exact zero
  · obtain ⟨threshold, found, worse⟩ := (reports_run finds').fails.mp one
    rw [bound'] at found
    cases found
    rw [Rating.isWorseThan_of_looser looser accepted] at worse
    cases worse

/-- More findings never better a rating, in whatever order they come, and the gate follows: a review
that fails it fails it again with further lines in the text, and one that passes it passes every
looser one. -/
theorem gate_monotone :
    (∀ first second : List Finding,
      (∀ kind, first.countP (fun finding => finding.kind == kind) ≤
        second.countP (fun finding => finding.kind == kind)) →
      (Rating.ofFindings first).isWorseThan (Rating.ofFindings second) = false) ∧
    (∀ first second : List Finding, first.Perm second →
      Rating.ofFindings first = Rating.ofFindings second) ∧
    (∀ text longer language threshold, Line.Extends text longer →
      (Review.ofText text language).rating.isWorseThan threshold = true →
      (Review.ofText longer language).rating.isWorseThan threshold = true) ∧
    (∀ rating strict loose : Rating, strict.isWorseThan loose = false →
      rating.isWorseThan strict = false →
      rating.isWorseThan loose = false) ∧
    (∀ environment environment' tree tree' options options' config config' format format'
      language text longer,
      Finds environment tree options config format language text →
      Finds environment' tree' options' config' format' language longer →
      Line.Extends text longer → options'.threshold? config' = options.threshold? config →
      (options.run environment tree).exitCode.number = 1 →
      (options'.run environment' tree').exitCode.number = 1) ∧
    (∀ environment environment' tree tree' options options' config config' format format' language
      text strict loose,
      Finds environment tree options config format language text →
      Finds environment' tree' options' config' format' language text →
      options.threshold? config = some strict → options'.threshold? config' = some loose →
      strict.isWorseThan loose = false →
      (options.run environment tree).exitCode.number = 0 →
      (options'.run environment' tree').exitCode.number = 0) := by
  refine ⟨?_, ?_, ?_, ?_, ?_, ?_⟩
  · intro first second each
    rw [Rating.isWorseThan_eq_false_iff]
    exact Rating.place_ofTally_le (Rating.Tally.ofFindings_atMost each)
  · intro first second perm
    rw [Rating.ofFindings, Rating.ofFindings, Rating.Tally.ofFindings_perm perm]
  · intro text longer language threshold extended worse
    exact Review.isWorseThan_of_extends extended worse
  · intro rating strict loose looser passes
    exact Rating.isWorseThan_of_looser looser passes
  · intro _ _ _ _ _ _ _ _ _ _ _ _ _ finds finds' extended same fails
    exact run_fails_of_extends finds finds' extended same fails
  · intro _ _ _ _ _ _ _ _ _ _ _ _ _ _ finds finds' bound bound' looser passes
    exact run_passes_of_looser finds finds' bound bound' looser passes

/-- The surroundings of `reading` with one more line to be read. -/
def readingMore : Environment :=
  { reading with input := "x\ny\nvar z".toUTF8 }

/-- Two lines that fail a gate fail it with a third one too, and the three lines pass a looser gate
and the loosest. -/
theorem gate_monotone_with_declaration :
    (run reading (workplaceWith "fail_on: excellent\n") {}).exitCode.number = 1 ∧
    (run readingMore (workplaceWith "fail_on: excellent\n") {}).exitCode.number = 1 ∧
    (run readingMore (workplaceWith "fail_on: excellent\n")
      { failOn := some "good" }).exitCode.number = 0 ∧
    (run readingMore (workplaceWith "fail_on: excellent\n")
      { failOn := some "poor" }).exitCode.number = 0 := by
  have loaded : Config.load reading (workplaceWith "fail_on: excellent\n") none =
      .ok ({ failOn := some "excellent" }, some "./decode.yaml") := by
    rw [← toOption_eq_some_iff]
    decide +kernel
  have two : Finds reading (workplaceWith "fail_on: excellent\n") {}
      { failOn := some "excellent" } .panel
      .javascript "x\ny" :=
    ⟨⟨_, loaded⟩, rfl, nofun, rfl, by decide +kernel⟩
  have three : Finds readingMore (workplaceWith "fail_on: excellent\n") {}
      { failOn := some "excellent" } .panel
      .javascript "x\ny\nvar z" :=
    ⟨⟨_, loaded⟩, rfl, nofun, rfl, by decide +kernel⟩
  have good : Rating.parse? "good" = some .good := by decide +kernel
  have poor : Rating.parse? "poor" = some .poor := by decide +kernel
  have underGood : Finds readingMore (workplaceWith "fail_on: excellent\n")
      { failOn := some "good" }
      { failOn := some "excellent" } .panel .javascript "x\ny\nvar z" := by
    refine ⟨⟨_, loaded⟩, rfl, ?_, rfl, three.text⟩
    rintro name ⟨⟩
    rw [good, Option.isSome_some]
  have underPoor : Finds readingMore (workplaceWith "fail_on: excellent\n")
      { failOn := some "poor" }
      { failOn := some "excellent" } .panel .javascript "x\ny\nvar z" := by
    refine ⟨⟨_, loaded⟩, rfl, ?_, rfl, three.text⟩
    rintro name ⟨⟩
    rw [poor, Option.isSome_some]
  obtain ⟨-, -, -, -, extending, loosening⟩ := gate_monotone
  have fails : (run reading (workplaceWith "fail_on: excellent\n") {}).exitCode.number = 1 := by
    decide +kernel
  have passes :
      (run readingMore (workplaceWith "fail_on: excellent\n")
        { failOn := some "good" }).exitCode.number = 0 := by
    decide +kernel
  have extended : Line.Extends "x\ny" "x\ny\nvar z" := .after "x\ny" "var z"
  exact ⟨fails, extending _ _ _ _ _ _ _ _ _ _ _ _ _ two three extended rfl fails, passes,
    loosening _ _ _ _ _ _ _ _ _ _ _ _ .good .poor underGood underPoor good poor rfl passes⟩

end ReviewOptions

end LineReview
