import LineReview.Config.Basic
import LineReview.FileSystem
import LineReview.Number.Text
import LineReview.Text.Quoted

set_option autoImplicit false

namespace LineReview

inductive ConfigFault where
  | unknownLanguage (name : String)
  | unknownRating (name : String)
  | unknownFormat (name : String)
  | emptyEndpoint
  | emptyModel
  | noTokens
  | temperatureOutOfRange (temperature : Number.Single)
  deriving DecidableEq

def Config.unknownFormat (name : String) : String :=
  "invalid format " ++ Text.Quoted.encode name ++ ", must be one of: " ++
    String.intercalate ", " (ReportFormat.all.map ReportFormat.name)

def ConfigFault.message : ConfigFault → String
  | .unknownLanguage name => Language.unknown name
  | .unknownRating name => Rating.unknown name
  | .unknownFormat name => Config.unknownFormat name
  | .emptyEndpoint => "assistant.endpoint must not be empty"
  | .emptyModel => "assistant.model must not be empty"
  | .noTokens => "assistant.max_tokens must be greater than zero"
  | .temperatureOutOfRange temperature =>
    "assistant.temperature " ++ temperature.toText ++ " out of range, must be between 0 and 2"

/-- The temperatures that can be used: the numbers from zero to two. -/
def Number.Single.isTemperature (single : Number.Single) : Bool :=
  single.isFinite && decide (0 ≤ single.value) && decide (single.value ≤ 2)

namespace Config

/-- Accepts settings that can be used, or tells the first fault of others. -/
def validate (config : Config) : Except ConfigFault Unit := do
  match config.defaultLanguage with
  | .error name => throw (.unknownLanguage name)
  | .ok _ => pure ()
  match config.threshold with
  | .error name => throw (.unknownRating name)
  | .ok _ => pure ()
  match config.format with
  | some name => if (ReportFormat.ofName? name).isNone then throw (.unknownFormat name)
  | none => pure ()
  if Text.isBlankText config.assistant.endpoint.toList then throw .emptyEndpoint
  if Text.isBlankText config.assistant.model.toList then throw .emptyModel
  if config.assistant.maxTokens = 0 then throw .noTokens
  if !config.assistant.temperature.isTemperature then
    throw (.temperatureOutOfRange config.assistant.temperature)

end Config

inductive ConfigError where
  | unreadable (path : String) (error : FileError)
  | malformed (path : String)
  | unusable (fault : ConfigFault)
  deriving DecidableEq

/-- What is said of settings that cannot be loaded. Of a malformed document it is not said what is
wrong. -/
def ConfigError.message : ConfigError → String
  | .unreadable path error => "parsing config " ++ path ++ ": " ++ error.message
  | .malformed path => "parsing config " ++ path ++ ": <yaml error>"
  | .unusable fault => fault.message

namespace Config

/-- The names of settings documents, the first choice first. -/
def fileNames : List String := ["decode.yaml", ".decode.yaml"]

def userPath? (environment : Environment) : Option String :=
  environment.settingsFolder?.map fun folder =>
    Path.inFolder (Path.inFolder folder "decode") "decode.yaml"

def candidates (environment : Environment) (folder : String) : List String :=
  fileNames.map (Path.inFolder folder) ++ (userPath? environment).toList

/-- The path of the settings for a folder: the first candidate that is a file. -/
def discover (environment : Environment) (tree : FileTree) (folder : String) : Option String :=
  (candidates environment folder).find? (tree.isFile environment.folder)

def loadAt (environment : Environment) (tree : FileTree) (path : String) :
    Except ConfigError Config :=
  match tree.readText environment.folder path with
  | .error error => .error (.unreadable path error)
  | .ok text =>
    match read? text with
    | none => .error (.malformed path)
    | some config =>
      match config.validate with
      | .error fault => .error (.unusable fault)
      | .ok () => .ok config

/-- The settings with the path they come from: the path asked for or the one discovered, and the
defaults if there is neither. -/
def load (environment : Environment) (tree : FileTree) (asked : Option String) :
    Except ConfigError (Config × Option String) :=
  match asked.or (discover environment tree ".") with
  | none => .ok (default, none)
  | some path => (loadAt environment tree path).map fun config => (config, some path)

end Config

end LineReview
