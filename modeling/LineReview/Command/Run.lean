import LineReview.Catalogue
import LineReview.Command.Basic
import LineReview.Command.Review

set_option autoImplicit false

namespace LineReview.Config

def templateLines : List String := [
  "# decode configuration",
  "#",
  "# Every field is optional. Command-line flags take precedence.",
  "",
  "# Language used when neither --language nor the file extension decides.",
  "# One of: javascript, typescript, python, java, cpp, go, rust",
  "language: javascript",
  "",
  "# Output format: pretty, json, or sarif",
  "format: pretty",
  "",
  "# Exit non-zero when the overall quality is worse than this level.",
  "# One of: excellent, good, fair, poor",
  "# fail_on: fair",
  "",
  "# Settings for `decode explain` (OpenAI-compatible chat completions).",
  "assistant:",
  "  endpoint: https://api.together.xyz/v1",
  "  model: meta-llama/Llama-3.3-70B-Instruct-Turbo",
  "  # Name of the environment variable holding the API key.",
  "  api_key_env: DECODE_API_KEY",
  "  max_tokens: 1000",
  "  temperature: 0.7",
  "  timeout_ms: 60000"]

def template : String :=
  String.join (templateLines.map (· ++ "\n"))

/-- What is said of a starter document that has been written. -/
def nextSteps (path : String) : String :=
  "Created " ++ path ++ "\n\nNext steps:\n  1. Edit " ++ path ++
    " to set your defaults\n  2. Run: decode analyze <file> --config " ++ path ++ "\n"

/-- Makes the folder that a path lies in. The folder at hand is there already. -/
def makeFolderOf (environment : Environment) (tree : FileTree) (path : String) :
    FileTree × Except FileError Unit :=
  match Path.parent? path with
  | none => (tree, .ok ())
  | some folder =>
    if folder == "" || folder == "." then (tree, .ok ())
    else tree.makeFoldersAt environment.folder folder

/-- Writes a starter document to a path. -/
def start (environment : Environment) (tree : FileTree) (path : String) : Outcome :=
  if tree.isTaken environment.folder path then .refusal tree [] (.alreadyThere path)
  else
    match makeFolderOf environment tree path with
    | (tree, .error error) => .refusal tree [] (.folderNotMade error)
    | (tree, .ok ()) =>
      match tree.write environment.folder path template.toUTF8 with
      | .error error => .refusal tree [] (.configNotWritten error)
      | .ok written => {
          exitCode := .success
          output := nextSteps path
          messages := []
          tree := written }

end LineReview.Config

namespace LineReview

/-- The settings and the source text that the assistant is asked with, and the events on the way to
them. -/
def SourceOptions.question (environment : Environment) (tree : FileTree) (options : SourceOptions) :
    List Log.Event × Except Complaint (Config × Source) :=
  match Config.load environment tree options.config with
  | .error error => ([], .error (.config error))
  | .ok (config, path) =>
    (Config.loadedEvents path,
      match Source.read environment tree options.path with
      | .error complaint => .error complaint
      | .ok source =>
        if Text.isBlankText source.text.toList then .error .nothingToExplain
        else .ok (config, source))

def AssistantConfig.requestEvent (settings : AssistantConfig) : Log.Event where
  level := .debug
  source := "decode::assistant"
  message := "sending chat completion request"
  fields := [("url", Assistant.Address.completions settings.endpoint), ("model", settings.model)]

/-- The events of a reply that leads to a failure. Only statuses without a meaning of their own are
warned of. -/
def Assistant.Failure.replyEvents : Failure → List Log.Event
  | .refused status _ => [{
      level := .warning
      source := "decode::assistant"
      message := "assistant request failed"
      fields := [("status", toString status)] }]
  | _ => []

def Assistant.Failure.event (failure : Failure) : Log.Event where
  level := .debug
  source := "decode::cli"
  message := "assistant request failed"
  fields := [("error", failure.trace)]

def Outcome.unanswered (tree : FileTree) (events : List Log.Event) (failure : Assistant.Failure)
    (request : Option Assistant.Request) : Outcome where
  exitCode := .failure
  output := ""
  messages :=
    (events ++ [failure.event]).map .event ++ [.line ("An error occurred: " ++ failure.message)]
  tree
  request

def SourceOptions.explain (environment : Environment) (tree : FileTree)
    (endpoint : Assistant.Endpoint) (options : SourceOptions) : Outcome :=
  match options.question environment tree with
  | (events, .error complaint) => .refusal tree events complaint
  | (events, .ok (config, source)) =>
    match Assistant.key environment config.assistant with
    | .error failure => .unanswered tree events failure none
    | .ok key =>
      let events := events ++ [config.assistant.requestEvent]
      let request := Assistant.request? config.assistant key source.text
      match Assistant.exchange endpoint request with
      | .error failure => .unanswered tree (events ++ failure.replyEvents) failure request
      | .ok text => {
          exitCode := .success
          output := text ++ "\n"
          messages := events.map .event
          tree
          request }

def Outcome.report (tree : FileTree) (output : String) : Outcome where
  exitCode := .success
  output
  messages := []
  tree

/-- The two lines of an entry: a row of columns, and the description. -/
def CatalogueEntry.row (entry : CatalogueEntry) : String :=
  "  " ++ Panel.padTo 24 entry.id ++ " " ++ Panel.padTo 12 entry.category ++ " " ++
    Panel.padTo 24 entry.scope ++ " " ++ (if entry.hasRepair then "fix" else "") ++ "\n" ++
    "      " ++ entry.description ++ "\n"

def CatalogueOptions.entries (options : CatalogueOptions) : List CatalogueEntry :=
  match options.search with
  | some term => Catalogue.search term
  | none => Catalogue.entries

def CatalogueOptions.text (options : CatalogueOptions) : String :=
  if options.json then (Json.array (options.entries.map CatalogueEntry.toJson)).pretty ++ "\n"
  else if options.entries.isEmpty then "No matching rules\n"
  else String.join (options.entries.map CatalogueEntry.row)

def Language.row (language : Language) : String :=
  let name := if language = .javascript then language.tag ++ " (default)" else language.tag
  "  " ++ Panel.padTo 20 name ++ " " ++ String.intercalate ", " language.extensions ++ "\n"

def Language.listing : String :=
  "Supported languages:\n\n" ++ String.join (Language.all.map Language.row)

end LineReview

namespace LineReview.Command

def run (environment : Environment) (endpoint : Assistant.Endpoint) (tree : FileTree)
    (command : Command) : Outcome :=
  match command with
  | .review options => options.run environment tree
  | .explain options => options.explain environment tree endpoint
  | .catalogue options => .report tree options.text
  | .languages => .report tree Language.listing
  | .start output => Config.start environment tree output

/-- The tree that commands leave behind, each with surroundings of its own. -/
def runAll (endpoint : Assistant.Endpoint) (tree : FileTree)
    (commands : List (Environment × Command)) : FileTree :=
  commands.foldl (fun tree entry => (entry.2.run entry.1 endpoint tree).tree) tree

end LineReview.Command
