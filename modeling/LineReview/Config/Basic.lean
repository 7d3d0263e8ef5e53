import LineReview.FileSystem
import LineReview.Language
import LineReview.Review
import LineReview.Report.Format
import LineReview.Yaml.Basic
import LineReview.Yaml.Block

set_option autoImplicit false

namespace LineReview

/-- Where and how the assistant is asked. -/
structure AssistantConfig where
  /-- The address under which the assistant answers. -/
  endpoint : String := "https://api.together.xyz/v1"
  model : String := "meta-llama/Llama-3.3-70B-Instruct-Turbo"
  /-- The environment variable that holds the key. -/
  keyVariable : String := "DECODE_API_KEY"
  maxTokens : Nat := 1000
  temperature : Number.Single := Number.Single.ofFraction false 7 10
  /-- How long an answer may take, in milliseconds. -/
  timeout : Nat := 60000
  deriving DecidableEq

structure Config where
  /-- The language of texts whose language is not given otherwise. -/
  language : Option String := none
  format : Option String := none
  /-- The worst rating that is not a failure. -/
  failOn : Option String := none
  assistant : AssistantConfig := {}
  deriving DecidableEq

namespace Config

/-- The settings of an empty document. -/
def default : Config := {}

def assistantOf? (entries : List (Yaml × Yaml)) : Option AssistantConfig := do
  let defaults : AssistantConfig := {}
  match ← Yaml.fields? ["endpoint", "model", "api_key_env", "max_tokens",
    "temperature", "timeout_ms"]
    entries with
  | [endpoint, model, keyVariable, maxTokens, temperature, timeout] =>
    return {
      endpoint := ← Yaml.fieldOr defaults.endpoint Yaml.text? endpoint
      model := ← Yaml.fieldOr defaults.model Yaml.text? model
      keyVariable := ← Yaml.fieldOr defaults.keyVariable Yaml.text? keyVariable
      maxTokens := ← Yaml.fieldOr defaults.maxTokens (Yaml.naturalBelow? 0x100000000) maxTokens
      temperature := ← Yaml.fieldOr defaults.temperature Yaml.single? temperature
      timeout := ← Yaml.fieldOr defaults.timeout
        (Yaml.naturalBelow? 0x10000000000000000) timeout }
  | _ => none

def ofEntries? (entries : List (Yaml × Yaml)) : Option Config := do
  match ← Yaml.fields? ["language", "format", "fail_on", "assistant"] entries with
  | [language, format, failOn, assistant] =>
    return {
      language := ← Yaml.fieldOr none Yaml.optionalText? language
      format := ← Yaml.fieldOr none Yaml.optionalText? format
      failOn := ← Yaml.fieldOr none Yaml.optionalText? failOn
      assistant := ← Yaml.fieldOr {} (fun value => value.entries?.bind assistantOf?) assistant }
  | _ => none

/-- The settings that a text holds. A blank text holds the defaults. -/
def read? (text : String) : Option Config :=
  if Text.isBlankText text.toList then some default
  else ((Yaml.read? text).bind Yaml.entries?).bind ofEntries?

def formatName (config : Config) : String :=
  config.format.getD ReportFormat.panel.name

/-- The language for texts whose language is not given otherwise, or the name that no language
has. -/
def defaultLanguage (config : Config) : Except String (Option Language) :=
  match config.language with
  | none => .ok none
  | some name =>
    match Language.parse? name with
    | some language => .ok (some language)
    | none => .error name

/-- The worst rating that is not a failure, or the name that no rating has. -/
def threshold (config : Config) : Except String (Option Rating) :=
  match config.failOn with
  | none => .ok none
  | some name =>
    match Rating.parse? name with
    | some rating => .ok (some rating)
    | none => .error name

end Config

end LineReview

namespace LineReview.Config

/-- The language of the text at a path, or the name that no language has. -/
def languageFor (config : Config) (asked : Option String) (path : String) :
    Except String Language :=
  match asked with
  | some name =>
    match Language.parse? name with
    | some language => .ok language
    | none => .error name
  | none =>
    match (Path.extension? path).bind Language.ofExtension? with
    | some language => .ok language
    | none => config.defaultLanguage.map fun language => language.getD .javascript

end LineReview.Config
