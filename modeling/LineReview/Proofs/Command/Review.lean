import LineReview.Command.Review
import LineReview.Proofs.Command.Source
import LineReview.Proofs.Config.Validity

set_option autoImplicit false

namespace LineReview

namespace ReportFormat

/-- The report of a review, without the line feed that may follow it. -/
def document (format : ReportFormat) (coloured : Bool) (path : String) (language : Language)
    (review : Review) : String :=
  match format with
  | .panel => Panel.render coloured path language review
  | .json => (Report.ofReview path language review).render
  | .sarif => Sarif.render path review

def ending : ReportFormat → String
  | .panel => ""
  | .json | .sarif => "\n"

theorem render_eq (format : ReportFormat) (coloured : Bool) (path : String) (language : Language)
    (review : Review) :
    format.render coloured path language review =
      format.document coloured path language review ++ format.ending := by
  cases format with
  | panel => exact (String.append_empty).symm
  | json => rfl
  | sarif => rfl

end ReportFormat

namespace Message

/-- The text of a message that is a line, and nothing of the log. -/
def line? : Message → Option String
  | .line text => some text
  | .event _ => none

theorem filterMap_line?_map_event (events : List Log.Event) :
    (events.map event).filterMap line? = [] := by
  simp [List.filterMap_map, Function.comp_def, line?]

theorem filterMap_line?_map_line (texts : List String) :
    (texts.map line).filterMap line? = texts := by
  simp [List.filterMap_map, Function.comp_def, line?]

end Message

namespace Outcome

def lines (outcome : Outcome) : List String :=
  outcome.messages.filterMap Message.line?

/-- The command ends with a complaint and has no output. -/
structure Refuses (outcome : Outcome) : Prop where
  exitCode : outcome.exitCode.number = 2
  output : outcome.output = ""
  complains : ∃ text advice, outcome.lines = ("Error: " ++ text) :: advice

theorem lines_refusal (tree : FileTree) (events : List Log.Event) (complaint : Complaint) :
    (refusal tree events complaint).lines = complaint.lines := by
  rw [lines, refusal, List.filterMap_append, Message.filterMap_line?_map_event,
    Message.filterMap_line?_map_line, List.nil_append]

theorem refuses_refusal (tree : FileTree) (events : List Log.Event) (complaint : Complaint) :
    (refusal tree events complaint).Refuses where
  exitCode := rfl
  output := rfl
  complains := ⟨complaint.text, complaint.advice, lines_refusal tree events complaint⟩

end Outcome

theorem Config.exists_languageFor_iff {config : Config} (valid : config.Valid)
    {asked : Option String} {path : String} :
    (∃ language, config.languageFor asked path = .ok language) ↔
      ∀ name, asked = some name → (Language.parse? name).isSome = true := by
  unfold languageFor
  cases asked with
  | some name => cases found : Language.parse? name <;> simp [found]
  | none =>
      obtain ⟨fallback, known⟩ := valid.language
      cases (Path.extension? path).bind Language.ofExtension? with
      | some language => simp
      | none => simp [known, Except.map]

namespace ReviewJob

theorem formatFor_eq_ok_iff {config : Config} {asked : Option String} {format : ReportFormat} :
    formatFor config asked = .ok format ↔ format.name = asked.getD config.formatName := by
  rw [formatFor, ← ReportFormat.ofName?_eq_some_iff]
  cases ReportFormat.ofName? (asked.getD config.formatName) <;> simp

theorem thresholdFor_eq_ok_iff {config : Config} (valid : config.Valid) {asked : Option String}
    {threshold : Option Rating} :
    thresholdFor config asked = .ok threshold ↔
      (∀ name, asked = some name → (Rating.parse? name).isSome = true) ∧
        (asked.or config.failOn).bind Rating.parse? = threshold := by
  cases asked with
  | some name => cases found : Rating.parse? name <;> simp [thresholdFor, found]
  | none =>
      obtain ⟨rating, known⟩ := valid.threshold
      have same := (Config.threshold_eq_ok_iff.mp known).2
      have settled : thresholdFor config none = .ok rating := by
        rw [thresholdFor, known]
        rfl
      simp [settled, same]

theorem prepare_eq_ok_iff {environment : Environment} {tree : FileTree} {config : Config}
    {options : ReviewOptions} {job : ReviewJob} :
    prepare environment tree config options = .ok job ↔
      formatFor config options.format = .ok job.format ∧
      thresholdFor config options.failOn = .ok job.threshold ∧
      config.languageFor options.source.language options.source.path = .ok job.language ∧
      Source.read environment tree options.source.path = .ok job.source := by
  unfold prepare
  cases formatFor config options.format with
  | error complaint => exact ⟨nofun, by rintro ⟨⟨⟩, -⟩⟩
  | ok format =>
      cases thresholdFor config options.failOn with
      | error complaint => exact ⟨nofun, by rintro ⟨-, ⟨⟩, -⟩⟩
      | ok threshold =>
          cases config.languageFor options.source.language options.source.path with
          | error name => exact ⟨nofun, by rintro ⟨-, -, ⟨⟩, -⟩⟩
          | ok language =>
              cases Source.read environment tree options.source.path with
              | error complaint => exact ⟨nofun, by rintro ⟨-, -, -, ⟨⟩⟩⟩
              | ok source =>
                  constructor
                  · rintro ⟨⟩
                    exact ⟨rfl, rfl, rfl, rfl⟩
                  · rintro ⟨⟨⟩, ⟨⟩, ⟨⟩, ⟨⟩⟩
                    rfl

theorem number_exitCode (threshold : Option Rating) (rating : Rating) :
    (exitCode threshold rating).number = 0 ∨ (exitCode threshold rating).number = 1 := by
  unfold exitCode
  split
  · split
    · exact Or.inr rfl
    · exact Or.inl rfl
  · exact Or.inl rfl

theorem number_exitCode_eq_one_iff {threshold : Option Rating} {rating : Rating} :
    (exitCode threshold rating).number = 1 ↔
      ∃ bound, threshold = some bound ∧ rating.isWorseThan bound = true := by
  cases threshold with
  | none => simp [exitCode, ExitCode.number]
  | some bound => cases worse : rating.isWorseThan bound <;> simp [exitCode, worse, ExitCode.number]

end ReviewJob

namespace ReviewOptions

/-- The name of the format in force: the one asked for, and that of the settings otherwise. -/
def formatName (options : ReviewOptions) (config : Config) : String :=
  options.format.getD config.formatName

/-- The threshold in force, if there is one: the one asked for, and that of the settings
otherwise. -/
def threshold? (options : ReviewOptions) (config : Config) : Option Rating :=
  (options.failOn.or config.failOn).bind Rating.parse?

/-- Something that a review cannot do without is missing. -/
inductive Lacks (environment : Environment) (tree : FileTree) (options : ReviewOptions) : Prop where
  | settings (error : ConfigError)
      (failed : Config.load environment tree options.source.config = .error error) :
      Lacks environment tree options
  | format (config : Config) (path : Option String)
      (loaded : Config.load environment tree options.source.config = .ok (config, path))
      (unknown : options.formatName config ∉ ["pretty", "json", "sarif"]) :
      Lacks environment tree options
  | threshold (name : String) (asked : options.failOn = some name)
      (unknown : Rating.parse? name = none) :
      Lacks environment tree options
  | language (name : String) (asked : options.source.language = some name)
      (unknown : Language.parse? name = none) : Lacks environment tree options
  | text (unread : Source.text? environment tree options.source.path = none) :
      Lacks environment tree options

/-- All that a review cannot do without is there. -/
structure Finds (environment : Environment) (tree : FileTree) (options : ReviewOptions)
    (config : Config) (format : ReportFormat) (language : Language) (text : String) : Prop where
  settings : ∃ path, Config.load environment tree options.source.config = .ok (config, path)
  format : format.name = options.formatName config
  threshold : ∀ name, options.failOn = some name → (Rating.parse? name).isSome = true
  language : config.languageFor options.source.language options.source.path = .ok language
  text : Source.text? environment tree options.source.path = some text

/-- The command ends with the report of a review and complains of nothing. -/
structure Reports (environment : Environment) (options : ReviewOptions) (config : Config)
    (format : ReportFormat) (language : Language) (text : String) (outcome : Outcome) : Prop where
  output : outcome.output =
    format.document environment.coloured (Source.nameOf options.source.path) language
      (Review.ofText text language) ++ format.ending
  silent : outcome.lines = []
  exitCode : outcome.exitCode.number = 0 ∨ outcome.exitCode.number = 1
  fails : outcome.exitCode.number = 1 ↔
    ∃ threshold, options.threshold? config = some threshold ∧
      (Review.ofText text language).rating.isWorseThan threshold = true

variable {environment : Environment} {tree : FileTree} {options : ReviewOptions}

theorem not_lacks_of_finds {config : Config} {format : ReportFormat} {language : Language}
    {text : String} (finds : Finds environment tree options config format language text) :
    ¬ Lacks environment tree options := by
  obtain ⟨path, loaded⟩ := finds.settings
  intro lacks
  cases lacks with
  | settings error failed =>
      rw [loaded] at failed
      cases failed
  | format other path again unknown =>
      rw [loaded] at again
      cases again
      rw [← ReportFormat.ofName?_eq_none_iff, ← finds.format,
        ReportFormat.ofName?_name] at unknown
      cases unknown
  | threshold name asked unknown =>
      have known := finds.threshold name asked
      rw [unknown] at known
      cases known
  | language name asked unknown =>
      have valid := Config.valid_of_load loaded
      have known :=
        (Config.exists_languageFor_iff valid).mp ⟨language, finds.language⟩ name asked
      rw [unknown] at known
      cases known
  | text unread =>
      have read := finds.text
      rw [unread] at read
      cases read

theorem prepare_of_finds {config : Config} {format : ReportFormat} {language : Language}
    {text : String} (finds : Finds environment tree options config format language text) :
    ReviewJob.prepare environment tree config options =
      .ok ⟨format, options.threshold? config, language,
        ⟨Source.nameOf options.source.path, text⟩⟩ := by
  obtain ⟨path, loaded⟩ := finds.settings
  have valid := Config.valid_of_load loaded
  rw [ReviewJob.prepare_eq_ok_iff]
  exact ⟨ReviewJob.formatFor_eq_ok_iff.mpr finds.format,
    (ReviewJob.thresholdFor_eq_ok_iff valid).mpr ⟨finds.threshold, rfl⟩, finds.language,
    Source.read_eq_ok_iff.mpr ⟨finds.text, rfl⟩⟩

theorem finds_of_prepare {config : Config} {path : Option String} {job : ReviewJob}
    (loaded : Config.load environment tree options.source.config = .ok (config, path))
    (prepared : ReviewJob.prepare environment tree config options = .ok job) :
    Finds environment tree options config job.format job.language job.source.text := by
  obtain ⟨format, threshold, language, source⟩ := ReviewJob.prepare_eq_ok_iff.mp prepared
  exact ⟨⟨path, loaded⟩, ReviewJob.formatFor_eq_ok_iff.mp format,
    ((ReviewJob.thresholdFor_eq_ok_iff (Config.valid_of_load loaded)).mp threshold).1, language,
    (Source.read_eq_ok_iff.mp source).1⟩

/-- What is not missing is there. -/
theorem exists_finds (complete : ¬ Lacks environment tree options) :
    ∃ config format language text,
      Finds environment tree options config format language text := by
  cases loaded : Config.load environment tree options.source.config with
  | error error => exact absurd (.settings error loaded) complete
  | ok found =>
      obtain ⟨config, path⟩ := found
      have valid := Config.valid_of_load loaded
      have threshold : ∀ name, options.failOn = some name →
          (Rating.parse? name).isSome = true := by
        intro name asked
        rw [Option.isSome_iff_ne_none]
        exact fun unknown => complete (.threshold name asked unknown)
      have named : ∀ name, options.source.language = some name →
          (Language.parse? name).isSome = true := by
        intro name asked
        rw [Option.isSome_iff_ne_none]
        exact fun unknown => complete (.language name asked unknown)
      obtain ⟨language, spoken⟩ := (Config.exists_languageFor_iff valid).mpr named
      cases read : Source.text? environment tree options.source.path with
      | none => exact absurd (.text read) complete
      | some text =>
          cases known : ReportFormat.ofName? (options.formatName config) with
          | none =>
              rw [ReportFormat.ofName?_eq_none_iff] at known
              exact absurd (.format config path loaded known) complete
          | some format =>
              exact ⟨config, format, language, text, ⟨path, loaded⟩,
                ReportFormat.ofName?_eq_some_iff.mp known,
                threshold, spoken, read⟩

theorem reports_outcome (environment : Environment) (tree : FileTree) (options : ReviewOptions)
    (config : Config) (format : ReportFormat) (language : Language) (text : String)
    (events : List Log.Event) :
    Reports environment options config format language text
      (ReviewJob.outcome environment tree events
        ⟨format, options.threshold? config, language,
          ⟨Source.nameOf options.source.path, text⟩⟩) where
  output := ReportFormat.render_eq _ _ _ _ _
  silent := Message.filterMap_line?_map_event _
  exitCode := ReviewJob.number_exitCode _ _
  fails := ReviewJob.number_exitCode_eq_one_iff

/-- A review that finds all it needs reports. -/
theorem reports_run {config : Config} {format : ReportFormat} {language : Language} {text : String}
    (finds : Finds environment tree options config format language text) :
    Reports environment options config format language text (options.run environment tree) := by
  obtain ⟨path, loaded⟩ := finds.settings
  have prepared := prepare_of_finds finds
  rw [run, loaded]
  dsimp only
  rw [prepared]
  exact reports_outcome _ _ _ _ _ _ _ _

/-- A review that lacks something refuses. -/
theorem refuses_run (lacks : Lacks environment tree options) :
    (options.run environment tree).Refuses := by
  unfold run
  split
  · exact Outcome.refuses_refusal _ _ _
  · rename_i config path loaded
    dsimp only
    split
    · exact Outcome.refuses_refusal _ _ _
    · rename_i job prepared
      exact absurd lacks (not_lacks_of_finds (finds_of_prepare loaded prepared))

/-- A format and a threshold given on the command line act as if they stood in the settings. -/
theorem prepare_with (config : Config) (format : String) {threshold : String}
    {source source' : SourceOptions} {environment' : Environment} {tree' : FileTree}
    (thresholdKnown : (Rating.parse? threshold).isSome = true)
    (language : source'.language = source.language) (path : source'.path = source.path)
    (read : Source.read environment' tree' source.path = Source.read environment tree source.path) :
    ReviewJob.prepare environment' tree'
      { config with format := some format, failOn := some threshold }
        { source := source', format := none, failOn := none } =
      ReviewJob.prepare environment tree config
        { source, format := some format, failOn := some threshold } := by
  have bound :
      ReviewJob.thresholdFor { config with format := some format, failOn := some threshold } none =
        ReviewJob.thresholdFor config (some threshold) := by
    obtain ⟨rating, known⟩ := Option.isSome_iff_exists.mp thresholdKnown
    simp only [ReviewJob.thresholdFor, Config.threshold, known]
    rfl
  simp only [ReviewJob.prepare, bound, language, path, read]
  rfl

/-- What can be seen of a review command without its log does not depend on where the settings come
from, nor on whether the format and the threshold stand in them or on the command line. -/
theorem run_with {config : Config} {path path' : Option String} {format threshold : String}
    {source source' : SourceOptions} {environment' : Environment} {tree' : FileTree}
    (loaded : Config.load environment tree source.config = .ok (config, path))
    (loaded' : Config.load environment' tree' source'.config =
      .ok ({ config with format := some format, failOn := some threshold }, path'))
    (thresholdKnown : (Rating.parse? threshold).isSome = true)
    (language : source'.language = source.language) (location : source'.path = source.path)
    (read : Source.read environment' tree' source.path = Source.read environment tree source.path)
    (coloured : environment'.coloured = environment.coloured) :
    let asked := run environment tree { source, format := some format, failOn := some threshold }
    let settled := run environment' tree' { source := source', format := none, failOn := none }
    settled.exitCode = asked.exitCode ∧ settled.output = asked.output ∧
      settled.lines = asked.lines := by
  have prepared := prepare_with config format thresholdKnown language location read
  simp only [run, loaded, loaded', prepared]
  cases ReviewJob.prepare environment tree config
    { source, format := some format, failOn := some threshold } with
  | error complaint => exact ⟨rfl, rfl, by rw [Outcome.lines_refusal, Outcome.lines_refusal]⟩
  | ok job =>
      refine ⟨rfl, ?_, ?_⟩
      · simp only [ReviewJob.outcome, coloured]
      · simp only [ReviewJob.outcome, Outcome.lines, Message.filterMap_line?_map_event]

/-- What a review command answers. It refuses exactly when it lacks something, and reports what it
finds otherwise. What it reports does not depend on the threshold, and a format and a threshold
given on the command line act as if they stood in the settings, which can be loaded with them. -/
theorem run_answers (environment : Environment) (tree : FileTree) (options : ReviewOptions) :
    (Outcome.Refuses (options.run environment tree) ∨
      ∃ config format language text, Finds environment tree options config format
        language text ∧
        Reports environment options config format language text (options.run environment tree)) ∧
    ((options.run environment tree).exitCode.number = 2 ↔ Lacks environment tree options) ∧
    (∀ environment' tree' options' config config' format language text,
      Finds environment tree options config format language text →
      Finds environment' tree' options' config' format language text →
      options'.source.path = options.source.path →
      environment'.coloured = environment.coloured →
        (options'.run environment' tree').output = (options.run environment tree).output) ∧
    (∀ config path format threshold,
      Config.load environment tree options.source.config = .ok (config, path) →
      format ∈ ["pretty", "json", "sarif"] → (Rating.parse? threshold).isSome = true →
      ({ config with format := some format, failOn := some threshold } : Config).validate =
        .ok () ∧
      ∀ environment' tree' asked path',
        Config.load environment' tree' asked =
          .ok ({ config with format := some format, failOn := some threshold }, path') →
        Source.read environment' tree' options.source.path =
          Source.read environment tree options.source.path →
        environment'.coloured = environment.coloured →
          let given :=
            run environment tree { options with format := some format, failOn := some threshold }
          let settled := run environment' tree'
            { source := { options.source with config := asked }, format := none, failOn := none }
          settled.exitCode = given.exitCode ∧ settled.output = given.output ∧
            settled.lines = given.lines) := by
  have answered : Lacks environment tree options ∧
    Outcome.Refuses (options.run environment tree) ∨
      ∃ config format language text, Finds environment tree options config format
        language text ∧
        Reports environment options config format language text (options.run environment tree) := by
    by_cases lacks : Lacks environment tree options
    · exact Or.inl ⟨lacks, refuses_run lacks⟩
    · obtain ⟨config, format, language, text, finds⟩ := exists_finds lacks
      exact Or.inr ⟨config, format, language, text, finds, reports_run finds⟩
  refine ⟨answered.imp And.right id, ?_, ?_, ?_⟩
  · constructor
    · intro two
      rcases answered with ⟨lacks, -⟩ | ⟨config, format, language, text, -, reports⟩
      · exact lacks
      · have others := reports.exitCode
        omega
    · intro lacks
      exact (refuses_run lacks).exitCode
  · intro environment' tree' options' config config' format language text finds finds'
      location coloured
    rw [(reports_run finds).output, (reports_run finds').output, location, coloured]
  · intro config path format threshold loaded formatKnown thresholdKnown
    have known : (ReportFormat.ofName? format).isSome = true := by
      rw [Option.isSome_iff_ne_none, ne_eq, ReportFormat.ofName?_eq_none_iff]
      exact fun absent => absent formatKnown
    have valid := (Config.valid_of_load loaded).withReport known thresholdKnown
    refine ⟨Config.validate_eq_ok_iff.mpr valid, ?_⟩
    intro environment' tree' asked path' loaded' read coloured
    exact run_with loaded loaded' thresholdKnown rfl rfl read coloured

/-- Surroundings in which two lines are given to be read. -/
def reading : Environment where
  folder := ["work"]
  bindings := []
  accountHome := none
  input := "x\ny".toUTF8
  coloured := false

def workplaceWith (settings : String) : FileTree :=
  .ofList [(["work"], .folder), (["decode.yaml", "work"], .file settings.toUTF8)]

/-- Two lines of which each lacks a semicolon are below `excellent`, wherever that threshold is
set. -/
theorem run_answers_below_threshold :
    (run reading (workplaceWith "language: js\n")
      { format := some "json", failOn := some "excellent" }).exitCode =
      .belowThreshold ∧
    (run reading (workplaceWith "language: js\nformat: json\nfail_on: excellent\n") {}).exitCode =
      .belowThreshold ∧
    (run reading (workplaceWith "language: js\nformat: json\nfail_on: excellent\n") {}).output =
      (run reading (workplaceWith "language: js\n")
        { format := some "json", failOn := some "excellent" }).output := by
  have loaded : Config.load reading (workplaceWith "language: js\n") none =
      .ok ({ language := some "js" }, some "./decode.yaml") := by
    rw [← toOption_eq_some_iff]
    decide +kernel
  have loaded' : Config.load reading
      (workplaceWith "language: js\nformat: json\nfail_on: excellent\n") none =
        .ok ({ language := some "js", format := some "json", failOn := some "excellent" },
        some "./decode.yaml") := by
    rw [← toOption_eq_some_iff]
    decide +kernel
  have below : (run reading (workplaceWith "language: js\n")
      { format := some "json", failOn := some "excellent" }).exitCode = .belowThreshold := by
        decide +kernel
  obtain ⟨-, same⟩ :=
    (run_answers reading (workplaceWith "language: js\n") {}).2.2.2 _ _ "json" "excellent" loaded
    (by decide) (by decide +kernel)
  obtain ⟨code, output, -⟩ :=
    same reading (workplaceWith "language: js\nformat: json\nfail_on: excellent\n") none _
    loaded' rfl rfl
  exact ⟨below, code.trans below, output⟩

end ReviewOptions

end LineReview
