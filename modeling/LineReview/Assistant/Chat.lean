import LineReview.Config.Basic
import LineReview.Json.Basic
import LineReview.Json.Reader
import LineReview.Number.Text
import LineReview.Text.Line

set_option autoImplicit false

namespace LineReview.Assistant

structure ChatMessage where
  role : String
  content : Option String
  deriving DecidableEq

def ChatMessage.toJson (message : ChatMessage) : Json :=
  .object [("role", .string message.role), ("content", .optionalText message.content)]

def ChatMessage.ofJson? (value : Json) : Option ChatMessage := do
  match ← value.record? ["role", "content"] with
  | [role, content] =>
    return {
      role := ← Json.required? Json.text? role
      content := ← Json.optional? Json.text? content }
  | _ => none

structure ChatRequest where
  model : String
  messages : List ChatMessage
  maxTokens : Nat
  temperature : Number.Single
  deriving DecidableEq

def ChatRequest.toJson (request : ChatRequest) : Json :=
  .object [
    ("model", .string request.model),
    ("messages", .array (request.messages.map ChatMessage.toJson)),
    ("max_tokens", .natural request.maxTokens),
    ("temperature", request.temperature.toJson)]

def ChatRequest.render (request : ChatRequest) : String :=
  request.toJson.compact

/-- What the assistant answers: the message of each choice, if the choice has one. -/
structure ChatResponse where
  choices : List (Option ChatMessage)
  deriving DecidableEq

namespace ChatResponse

def choice? (value : Json) : Option (Option ChatMessage) := do
  match ← value.record? ["message"] with
  | [message] => Json.optional? ChatMessage.ofJson? message
  | _ => none

/-- The response that a JSON value records. Without choices it offers none. -/
def ofJson? (value : Json) : Option ChatResponse := do
  match ← value.record? ["choices"] with
  | [some choices] => return { choices := ← Json.list? choice? choices }
  | [none] => return { choices := [] }
  | _ => none

def read? (text : String) : Option ChatResponse :=
  (Json.read? text).bind ofJson?

/-- The text of the first choice, unless it is blank. -/
def firstText? (response : ChatResponse) : Option String := do
  let message ← ← response.choices.head?
  let content ← message.content
  if Text.isBlankText content.toList then none else some content

end ChatResponse

def preamble : String := String.join [
  "You are an AI assistant for debugging and optimizing code.\n",
  "Your tasks:\n",
  "- Check for correctness\n",
  "- Suggest actionable improvements\n",
  "- Provide an optimized version if possible\n",
  "\n",
  "Here is the code to analyze:\n"]

def prompt (code : String) : String :=
  preamble ++ code ++ "\n"

/-- A request that carries one message of the user. -/
def ChatRequest.ofUser (settings : AssistantConfig) (content : String) : ChatRequest where
  model := settings.model
  messages := [{ role := "user", content := some content }]
  maxTokens := settings.maxTokens
  temperature := settings.temperature

end LineReview.Assistant
