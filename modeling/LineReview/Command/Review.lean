import LineReview.Command.Basic
import LineReview.Config.Basic

set_option autoImplicit false

namespace LineReview

/-- A review that can be carried out. -/
structure ReviewJob where
  format : ReportFormat
  threshold : Option Rating
  language : Language
  source : Source
  deriving DecidableEq

namespace ReviewJob

/-- The format asked for, or that of the settings. -/
def formatFor (config : Config) (asked : Option String) : Except Complaint ReportFormat :=
  let name := asked.getD config.formatName
  match ReportFormat.ofName? name with
  | some format => .ok format
  | none => .error (.unknownFormat name)

/-- The threshold asked for, or that of the settings. -/
def thresholdFor (config : Config) (asked : Option String) : Except Complaint (Option Rating) :=
  match asked with
  | some name =>
    match Rating.parse? name with
    | some rating => .ok (some rating)
    | none => .error (.unknownRating name)
  | none => config.threshold.mapError .unknownRating

def prepare (environment : Environment) (tree : FileTree) (config : Config)
    (options : ReviewOptions) : Except Complaint ReviewJob := do
  let format ← formatFor config options.format
  let threshold ← thresholdFor config options.failOn
  let language ←
    (config.languageFor options.source.language options.source.path).mapError .unknownLanguage
  let source ← Source.read environment tree options.source.path
  return { format, threshold, language, source }

def events (job : ReviewJob) (review : Review) : List Log.Event := [
  { level := .debug
    source := "decode::cli"
    message := "analyzing"
    fields := [
      ("path", job.source.name), ("language", job.language.tag), ("format", job.format.name)] },
  { level := .debug
    source := "decode::analyze::engine"
    message := "analysis complete"
    fields := [
      ("language", job.language.tag),
      ("lines", toString (Line.ofText job.source.text).length),
      ("bugs", toString review.findings.length),
      ("fixes", toString review.repairs.length),
      ("explanations", toString review.notes.length),
      ("quality", review.rating.tag)] }]

def exitCode (threshold : Option Rating) (rating : Rating) : ExitCode :=
  match threshold with
  | some threshold => if rating.isWorseThan threshold then .belowThreshold else .success
  | none => .success

def outcome (environment : Environment) (tree : FileTree) (before : List Log.Event)
    (job : ReviewJob) : Outcome :=
  let review := Review.ofText job.source.text job.language
  { exitCode := exitCode job.threshold review.rating
    output := job.format.render environment.coloured job.source.name job.language review
    messages := (before ++ job.events review).map .event
    tree }

end ReviewJob

def ReviewOptions.run (environment : Environment) (tree : FileTree) (options : ReviewOptions) :
    Outcome :=
  match Config.load environment tree options.source.config with
  | .error error => .refusal tree [] (.config error)
  | .ok (config, path) =>
    let events := Config.loadedEvents path
    match ReviewJob.prepare environment tree config options with
    | .error complaint => .refusal tree events complaint
    | .ok job => job.outcome environment tree events

end LineReview
