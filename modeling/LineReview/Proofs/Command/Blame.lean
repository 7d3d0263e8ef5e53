import LineReview.Proofs.Command.Review
import LineReview.Proofs.Config.Loading

set_option autoImplicit false

namespace LineReview

namespace Config

/-- Valid settings are not at fault when no language can be told. -/
theorem languageFor_eq_error {config : Config} (valid : config.Valid) {asked : Option String}
    {path name : String} (failed : config.languageFor asked path = .error name) :
    asked = some name ∧ Language.parse? name = none := by
  cases asked with
  | none =>
      have told : ∃ language, config.languageFor none path = .ok language :=
        (exists_languageFor_iff valid).mpr nofun
      obtain ⟨language, told⟩ := told
      rw [failed] at told
      cases told
  | some given =>
      unfold languageFor at failed
      cases known : Language.parse? given with
      | some language =>
          simp only [known] at failed
          cases failed
      | none =>
          simp only [known] at failed
          cases failed
          exact ⟨rfl, known⟩

end Config

namespace ReviewJob

/-- Valid settings are not at fault when there is no such format. -/
theorem formatFor_eq_error {config : Config} (valid : config.Valid) {asked : Option String}
    {complaint : Complaint} (failed : formatFor config asked = .error complaint) :
    ∃ name, asked = some name ∧ name ∉ ["pretty", "json", "sarif"] ∧
      complaint = .unknownFormat name := by
  unfold formatFor at failed
  cases known : ReportFormat.ofName? (asked.getD config.formatName) with
  | some format =>
      simp only [known] at failed
      cases failed
  | none =>
      simp only [known] at failed
      cases failed
      cases asked with
      | none =>
          have format := valid.format
          rw [Option.getD_none] at known
          rw [known] at format
          cases format
      | some name => exact ⟨name, rfl, ReportFormat.ofName?_eq_none_iff.mp known, rfl⟩

/-- Valid settings are not at fault when there is no such rating. -/
theorem thresholdFor_eq_error {config : Config} (valid : config.Valid) {asked : Option String}
    {complaint : Complaint} (failed : thresholdFor config asked = .error complaint) :
    ∃ name, asked = some name ∧ Rating.parse? name = none ∧
      complaint = .unknownRating name := by
  cases asked with
  | none =>
      have passed : thresholdFor config none = .ok _ :=
        (thresholdFor_eq_ok_iff valid).mpr ⟨nofun, rfl⟩
      rw [failed] at passed
      cases passed
  | some name =>
      unfold thresholdFor at failed
      cases known : Rating.parse? name with
      | some rating =>
          simp only [known] at failed
          cases failed
      | none =>
          simp only [known] at failed
          cases failed
          exact ⟨name, rfl, known, rfl⟩

/-- A review that cannot be prepared has been stopped by one of the four steps. -/
theorem prepare_eq_error_cases {environment : Environment} {tree : FileTree} {config : Config}
    {options : ReviewOptions} {complaint : Complaint}
    (failed : prepare environment tree config options = .error complaint) :
    formatFor config options.format = .error complaint ∨
      thresholdFor config options.failOn = .error complaint ∨
      (∃ name, config.languageFor options.source.language options.source.path = .error name ∧
        complaint = .unknownLanguage name) ∨
      Source.read environment tree options.source.path = .error complaint := by
  unfold prepare at failed
  cases format : formatFor config options.format with
  | error other =>
      rw [format] at failed
      cases failed
      exact Or.inl rfl
  | ok chosen =>
      rw [format] at failed
      cases threshold : thresholdFor config options.failOn with
      | error other =>
          rw [threshold] at failed
          cases failed
          exact Or.inr (Or.inl rfl)
      | ok bound =>
          rw [threshold] at failed
          cases language : config.languageFor options.source.language options.source.path with
          | error name =>
              rw [language] at failed
              cases failed
              exact Or.inr (Or.inr (Or.inl ⟨name, rfl, rfl⟩))
          | ok spoken =>
              rw [language] at failed
              cases source : Source.read environment tree options.source.path with
              | error other =>
                  rw [source] at failed
                  cases failed
                  exact Or.inr (Or.inr (Or.inr rfl))
              | ok text =>
                  rw [source] at failed
                  cases failed

end ReviewJob

namespace ReviewOptions

/-- The complaint is about the command line or about the text to be read, and names what is wrong
there. -/
inductive Blames (environment : Environment) (tree : FileTree) (options : ReviewOptions) :
    Complaint → Prop where
  | format (name : String) (asked : options.format = some name)
      (unknown : name ∉ ["pretty", "json", "sarif"]) :
      Blames environment tree options (.unknownFormat name)
  | threshold (name : String) (asked : options.failOn = some name)
      (unknown : Rating.parse? name = none) :
      Blames environment tree options (.unknownRating name)
  | language (name : String) (asked : options.source.language = some name)
      (unknown : Language.parse? name = none) :
      Blames environment tree options (.unknownLanguage name)
  | input (error : FileError)
      (unread : Source.read environment tree options.source.path =
        .error (.unreadableInput error)) :
      Blames environment tree options (.unreadableInput error)
  | file (error : FileError)
      (unread : Source.read environment tree options.source.path =
        .error (.unreadable options.source.path error)) :
      Blames environment tree options (.unreadable options.source.path error)

variable {environment : Environment} {tree : FileTree} {options : ReviewOptions} {config : Config}

theorem blames_of_prepare (valid : config.Valid) {complaint : Complaint}
    (failed : ReviewJob.prepare environment tree config options = .error complaint) :
    Blames environment tree options complaint := by
  rcases ReviewJob.prepare_eq_error_cases failed
    with format | threshold | ⟨name, language, rfl⟩ | source
  · obtain ⟨name, asked, unknown, rfl⟩ := ReviewJob.formatFor_eq_error valid format
    exact .format name asked unknown
  · obtain ⟨name, asked, unknown, rfl⟩ := ReviewJob.thresholdFor_eq_error valid threshold
    exact .threshold name asked unknown
  · obtain ⟨asked, unknown⟩ := Config.languageFor_eq_error valid language
    exact .language name asked unknown
  · obtain ⟨error, rfl | rfl⟩ := Source.read_eq_error source
    · exact .input error source
    · exact .file error source

/-- A review that fails with its settings loaded is a refusal that blames something else. -/
theorem exists_blame_of_failure {path : Option String}
    (loaded : Config.load environment tree options.source.config = .ok (config, path))
    (failed : (options.run environment tree).exitCode = .failure) :
    ∃ complaint, Blames environment tree options complaint ∧
      options.run environment tree = .refusal tree (Config.loadedEvents path) complaint := by
  unfold run at failed ⊢
  rw [loaded] at failed ⊢
  dsimp only at failed ⊢
  cases prepared : ReviewJob.prepare environment tree config options with
  | error complaint =>
    exact ⟨complaint, blames_of_prepare (Config.valid_of_load loaded) prepared, rfl⟩
  | ok job =>
      rw [prepared] at failed
      have number := ReviewJob.number_exitCode job.threshold
        (Review.ofText job.source.text job.language).rating
      have same : ReviewJob.exitCode job.threshold
          (Review.ofText job.source.text job.language).rating = .failure :=
        failed
      rw [same] at number
      exact absurd number (by decide)

end ReviewOptions

namespace Config

/-- Loaded settings can be used by whatever looks at them later, a document that is read, understood
and usable is loaded, and a review with loaded settings never fails because of them: it blames the
command line or the text. -/
theorem load_usable (environment : Environment) (tree : FileTree) (asked : Option String) :
    (∀ config path, load environment tree asked = .ok (config, path) → config.Usable) ∧
    (∀ path text config, asked.or (discover environment tree ".") = some path →
      tree.readText environment.folder path = .ok text → read? text = some config →
      config.Usable →
      load environment tree asked = .ok (config, some path)) ∧
    (∀ config path, load environment tree asked = .ok (config, path) →
      (∃ threshold, ReviewJob.thresholdFor config none = .ok threshold) ∧
      (∀ flag source name, config.languageFor flag source = .error name →
        flag = some name ∧ Language.parse? name = none) ∧
      (∀ flag complaint, ReviewJob.formatFor config flag = .error complaint →
        ∃ name, flag = some name ∧ name ∉ ["pretty", "json", "sarif"] ∧
          complaint = .unknownFormat name) ∧
      (∀ options : ReviewOptions, options.source.config = asked →
        (options.run environment tree).exitCode = .failure →
        ∃ complaint, options.Blames environment tree complaint ∧
          options.run environment tree = .refusal tree (loadedEvents path) complaint)) := by
  refine ⟨?_, ?_, ?_⟩
  · intro config path loaded
    exact valid_iff_usable.mp (valid_of_load loaded)
  · intro path text config chosen found understood usable
    exact load_eq_ok_iff.mpr
      ⟨chosen, loadAt_eq_ok_iff.mpr ⟨text, found, understood, usable⟩⟩
  · intro config path loaded
    have valid := valid_of_load loaded
    refine ⟨⟨_, (ReviewJob.thresholdFor_eq_ok_iff valid).mpr ⟨nofun, rfl⟩⟩, ?_, ?_, ?_⟩
    · intro flag source name failed
      exact languageFor_eq_error valid failed
    · intro flag complaint failed
      exact ReviewJob.formatFor_eq_error valid failed
    · rintro options rfl failed
      exact ReviewOptions.exists_blame_of_failure loaded failed

/-- The settings of a document that names a threshold and the greatest temperature. -/
def hotSettings : Config where
  failOn := some "fair"
  assistant := { temperature := Number.Single.ofFraction false 2 1 }

theorem load_usable_of_hot_settings :
    let tree := ReviewOptions.workplaceWith "fail_on: fair\nassistant:\n  temperature: 2.0\n"
    load ReviewOptions.reading tree none = .ok (hotSettings, some "./decode.yaml") ∧
    hotSettings.Usable ∧
      ∃ complaint, ReviewOptions.Blames ReviewOptions.reading tree
        { format := some "xml" } complaint ∧
        ReviewOptions.run ReviewOptions.reading tree { format := some "xml" } =
          .refusal tree (loadedEvents (some "./decode.yaml")) complaint := by
  intro tree
  have chosen : discover ReviewOptions.reading tree "." = some "./decode.yaml" := by decide +kernel
  have found : tree.readText ReviewOptions.reading.folder "./decode.yaml" =
      .ok "fail_on: fair\nassistant:\n  temperature: 2.0\n" := by
    rw [← toOption_eq_some_iff]
    decide +kernel
  have understood : read? "fail_on: fair\nassistant:\n  temperature: 2.0\n" = some hotSettings := by
    decide +kernel
  have threshold : hotSettings.threshold = .ok (some .fair) := by
    rw [← toOption_eq_some_iff]
    decide +kernel
  have endpoint : Text.isBlankText hotSettings.assistant.endpoint.toList = false := rfl
  have model : Text.isBlankText hotSettings.assistant.model.toList = false := rfl
  have usable : hotSettings.Usable :=
    ⟨by decide, ⟨_, threshold⟩, ⟨none, rfl⟩, isBlankText_eq_false_iff.mp endpoint,
      isBlankText_eq_false_iff.mp model,
      by decide, by decide +kernel, by decide +kernel⟩
  obtain ⟨-, accepts, blames⟩ := load_usable ReviewOptions.reading tree none
  have loaded := accepts _ _ _ chosen found understood usable
  have failed : (ReviewOptions.run ReviewOptions.reading tree { format := some "xml" }).exitCode =
    .failure := by
    decide +kernel
  exact ⟨loaded, usable, (blames _ _ loaded).2.2.2 _ rfl failed⟩

end Config

end LineReview
