import LineReview.Assistant.Exchange
import LineReview.Config.Loading
import LineReview.Log

set_option autoImplicit false

namespace LineReview

structure SourceOptions where
  /-- The path of the source text, where a dash stands for the standard input. -/
  path : String := "-"
  language : Option String := none
  /-- The path of the settings. -/
  config : Option String := none
  deriving DecidableEq

structure ReviewOptions where
  source : SourceOptions := {}
  format : Option String := none
  /-- The worst rating that is not a failure. -/
  failOn : Option String := none
  deriving DecidableEq

structure CatalogueOptions where
  search : Option String := none
  json : Bool := false
  deriving DecidableEq

inductive Command where
  /-- Reviews a source text. -/
  | review (options : ReviewOptions)
  /-- Asks the assistant about a source text. -/
  | explain (source : SourceOptions)
  /-- Lists the catalogue. -/
  | catalogue (options : CatalogueOptions)
  /-- Lists the languages. -/
  | languages
  /-- Writes a starter document for settings to a path. -/
  | start (output : String)
  deriving DecidableEq

/-- The path of the starter document unless another one is given. -/
def Command.defaultOutput : String := "decode.yaml"

/-- A command, and whether the log is wanted in full. -/
structure Invocation where
  verbose : Bool
  command : Command
  deriving DecidableEq

/-- A message beside the output. -/
inductive Message where
  | event (logged : Log.Event)
  | line (text : String)
  deriving DecidableEq

/-- The text of the messages that a filter shows. Lines are always shown. -/
def Message.renderAll (filter : Log.Filter) (messages : List Message) : String :=
  String.join (messages.map fun message =>
    match message with
    | .event logged => if filter.shows logged then logged.line ++ "\n" else ""
    | .line text => text ++ "\n")

inductive ExitCode where
  | success
  /-- The rating is worse than the threshold. -/
  | belowThreshold
  | failure
  deriving DecidableEq

def ExitCode.number : ExitCode → Nat
  | .success => 0
  | .belowThreshold => 1
  | .failure => 2

structure Outcome where
  exitCode : ExitCode
  output : String
  messages : List Message
  tree : FileTree
  request : Option Assistant.Request := none

/-- Why a command does not do what it is asked for. -/
inductive Complaint where
  | config (error : ConfigError)
  | unknownFormat (name : String)
  | unknownRating (name : String)
  | unknownLanguage (name : String)
  | unreadable (path : String) (error : FileError)
  | unreadableInput (error : FileError)
  | nothingToExplain
  | alreadyThere (path : String)
  | folderNotMade (error : FileError)
  | configNotWritten (error : FileError)
  deriving DecidableEq

namespace Complaint

def text : Complaint → String
  | .config error => error.message
  | .unknownFormat name => Config.unknownFormat name
  | .unknownRating name => Rating.unknown name
  | .unknownLanguage name => Language.unknown name
  | .unreadable path error => "cannot read " ++ path ++ ": " ++ error.message
  | .unreadableInput error => error.message
  | .nothingToExplain => "nothing to explain, the input is empty"
  | .alreadyThere path => "file already exists: " ++ path
  | .folderNotMade error => "failed to create directory: " ++ error.message
  | .configNotWritten error => "failed to write config: " ++ error.message

/-- What to do about a complaint, where that can be said. -/
def advice : Complaint → List String
  | .unknownLanguage _ => ["Run 'decode languages' to see supported languages"]
  | .alreadyThere _ => ["Remove it or use --output to specify a different path"]
  | _ => []

def lines (complaint : Complaint) : List String :=
  ("Error: " ++ complaint.text) :: complaint.advice

end Complaint

/-- Ends with a complaint after some events. -/
def Outcome.refusal (tree : FileTree) (events : List Log.Event) (complaint : Complaint) :
    Outcome where
  exitCode := .failure
  output := ""
  messages := events.map .event ++ complaint.lines.map .line
  tree

def Config.loadedEvents : Option String → List Log.Event
  | none => []
  | some path => [{
      level := .debug
      source := "decode::config"
      message := "loaded config"
      fields := [("path", path)] }]

/-- A source text with the name that reports give it. -/
structure Source where
  name : String
  text : String
  deriving DecidableEq

namespace Source

/-- The path that stands for the standard input. -/
def inputPath : String := "-"

def inputName : String := "<stdin>"

def read (environment : Environment) (tree : FileTree) (path : String) : Except Complaint Source :=
  if path == inputPath then
    match textOfBytes environment.input with
    | .ok text => .ok { name := inputName, text }
    | .error error => .error (.unreadableInput error)
  else
    match tree.readText environment.folder path with
    | .ok text => .ok { name := path, text }
    | .error error => .error (.unreadable path error)

end Source

end LineReview
