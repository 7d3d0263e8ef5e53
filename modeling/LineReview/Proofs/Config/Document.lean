import LineReview.Config.Basic
import LineReview.Proofs.Yaml.Field

set_option autoImplicit false

namespace LineReview.Config

open Yaml (Printable Scalar Pair Section Document Filler given)

/-- Which settings a document gives, and which values it gives them. -/
structure Choice where
  language : Option Printable
  format : Option Printable
  failOn : Option Printable
  endpoint : Option Printable
  model : Option Printable
  keyVariable : Option Printable
  maxTokens : Option (Fin 0x100000000)
  timeout : Option (Fin 0x10000000000000000)

namespace Choice

/-- The settings of a choice: the values that it gives, and the default wherever it gives none. -/
def config (choice : Choice) : Config :=
  let defaults : AssistantConfig := {}
  { language := choice.language.map Printable.text
    format := choice.format.map Printable.text
    failOn := choice.failOn.map Printable.text
    assistant := {
      endpoint := (choice.endpoint.map Printable.text).getD defaults.endpoint
      model := (choice.model.map Printable.text).getD defaults.model
      keyVariable := (choice.keyVariable.map Printable.text).getD defaults.keyVariable
      maxTokens := (choice.maxTokens.map Fin.val).getD defaults.maxTokens
      temperature := defaults.temperature
      timeout := (choice.timeout.map Fin.val).getD defaults.timeout } }

/-- The scalars that a document of a choice has at the top. -/
def scalars (choice : Choice) : List (String × Option Scalar) := [
  ("language", choice.language.map .single),
  ("format", choice.format.map .single),
  ("fail_on", choice.failOn.map .single)]

/-- The scalars at the top under all the names that have a meaning there; the settings of the
assistant are no scalar. -/
def fields (choice : Choice) : List (String × Option Scalar) :=
  choice.scalars ++ [("assistant", none)]

/-- The scalars that a document of a choice has for the assistant, under all the names that have a
meaning there. -/
def assistantFields (choice : Choice) : List (String × Option Scalar) := [
  ("endpoint", choice.endpoint.map .single),
  ("model", choice.model.map .single),
  ("api_key_env", choice.keyVariable.map .single),
  ("max_tokens", choice.maxTokens.map fun number => .decimal number.val),
  ("temperature", none),
  ("timeout_ms", choice.timeout.map fun number => .decimal number.val)]

end Choice

/-- Pairs give the fields that have a scalar, in some order, and beside them only names that are not
among the fields. -/
def Gives (pairs : List Pair) (fields : List (String × Option Scalar)) : Prop :=
  ∃ others : List (String × Option Scalar),
    (pairs.map fun pair => (pair.key.text, pair.value)).Perm
      ((given fields).map (fun field => (field.1, some field.2)) ++ others) ∧
    ∀ other ∈ others, other.1 ∉ fields.map Prod.fst

/-- A document spells a choice: it gives its fields, those of the assistant in one section at
most. -/
structure Spells (document : Document) (choice : Choice) : Prop where
  top : Gives document.pairs choice.fields
  single : document.sections.length ≤ 1
  headed : ∀ nested ∈ document.sections, nested.key.text = "assistant"
  assistant : Gives (document.sections.flatMap Section.pairs) choice.assistantFields

def values (fields : List (String × Option Scalar)) : List (String × Option Yaml) :=
  fields.map fun field => (field.1, field.2.map Scalar.value)

variable {document : Document} {choice : Choice}

section Example

open Yaml (BareText)

end Example

end LineReview.Config
