import LineReview.Assistant.Exchange
import LineReview.Proofs.Json.Record
import LineReview.Proofs.Number.Text

set_option autoImplicit false

namespace LineReview.Assistant

def requestBody (settings : AssistantConfig) (code : String) : String :=
  (ChatRequest.ofUser settings (prompt code)).render

theorem body_of_request? {settings : AssistantConfig} {key code : String} {request : Request}
    (prepared : request? settings key code = some request) :
    request.body = requestBody settings code := by
  unfold request? at prepared
  simp only [Option.bind_eq_bind, Option.bind_eq_some_iff] at prepared
  obtain ⟨address, -, sendable⟩ := prepared
  split at sendable
  · cases sendable
    rfl
  · cases sendable

/-- A prompt without what stands before the source text and without the line feed after it. -/
def codeOf (content : String) : String :=
  String.ofList (content.toList.drop preamble.toList.length).dropLast

/-- The source text that the only message in a body is about. -/
def codeIn? (body : String) : Option String := do
  match ← (← Json.read? body).record? ["messages"] with
  | [some messages] =>
    match ← Json.list? ChatMessage.ofJson? messages with
    | [message] => message.content.map codeOf
    | _ => none
  | _ => none

theorem codeOf_prompt (code : String) : codeOf (prompt code) = code := by
  have feed : "\n".toList = ['\n'] := rfl
  rw [codeOf, prompt, String.toList_append, String.toList_append, List.append_assoc, List.drop_left,
    feed, List.dropLast_concat, String.ofList_toList]

namespace ChatMessage

def members (message : ChatMessage) : List (String × Json) :=
  [("role", .string message.role), ("content", .optionalText message.content)]

theorem ofJson?_toJson (message : ChatMessage) : ofJson? message.toJson = some message := by
  have distinct : (message.members.map Prod.fst).Nodup := by simp [members]
  have fields : message.toJson.record? ["role", "content"] =
      some [some (.string message.role), some (.optionalText message.content)] :=
        Json.record?_object distinct
  rw [ofJson?, fields]
  cases message with
  | mk role content => cases content <;> rfl

theorem plain_toJson (message : ChatMessage) : message.toJson.Plain := by
  have content : (Json.optionalText message.content).Plain := by
    cases message.content with
    | none => exact .null
    | some text => exact .string text
  refine .object fun member listed => ?_
  simp only [List.mem_cons, List.not_mem_nil, or_false] at listed
  rcases listed with rfl | rfl
  · exact .string message.role
  · exact content

end ChatMessage

namespace ChatRequest

def members (request : ChatRequest) : List (String × Json) := [
  ("model", .string request.model),
  ("messages", .array (request.messages.map ChatMessage.toJson)),
  ("max_tokens", .natural request.maxTokens),
  ("temperature", request.temperature.toJson)]

theorem names_nodup (request : ChatRequest) : (request.members.map Prod.fst).Nodup := by
  simp [members]

theorem plain_toJson {request : ChatRequest} (finite : request.temperature.isFinite = true)
    (tokens : request.maxTokens < Json.lineBound) : request.toJson.Plain := by
  have messages : Json.Plain (.array (request.messages.map ChatMessage.toJson)) :=
    .array_map fun message _ => message.plain_toJson
  refine .object fun member listed => ?_
  simp only [List.mem_cons, List.not_mem_nil, or_false] at listed
  rcases listed with rfl | rfl | rfl | rfl
  · exact .string request.model
  · exact messages
  · exact .line tokens
  · exact Number.Single.plain_toJson finite

/-- A request to be read is the object of its members. -/
theorem read?_render {request : ChatRequest} (finite : request.temperature.isFinite = true)
    (tokens : request.maxTokens < Json.lineBound) :
    Json.read? request.render = some (.object request.members) :=
  Json.read?_compact (plain_toJson finite tokens)

theorem messages_members (request : ChatRequest) :
    (Json.object request.members).record? ["messages"] =
      some [some (.array (request.messages.map ChatMessage.toJson))] := by
  have listed : [("messages", Json.array (request.messages.map ChatMessage.toJson))] ⊆
      request.members := by
    simp [members]
  exact Json.fieldsOf?_of_subset request.names_nodup listed

end ChatRequest

/-- A body is a document with nothing but the settings and one message of the user, which is about
the source text. -/
structure Carries (settings : AssistantConfig) (code body : String) : Prop where
  document : ∃ literal, settings.temperature.toJson = .number literal ∧
    Json.read? body = some (.object [
    ("model", .string settings.model),
    ("messages",
      .array [.object [("role", .string "user"), ("content", .string (preamble ++ code ++ "\n"))]]),
    ("max_tokens", .natural settings.maxTokens),
    ("temperature", .number literal)])
  code : codeIn? body = some code

variable {settings : AssistantConfig}

theorem read?_requestBody (code : String) (finite : settings.temperature.isFinite = true)
    (tokens : settings.maxTokens < 0x100000000) :
    Json.read? (requestBody settings code) =
      some (.object (ChatRequest.ofUser settings (prompt code)).members) :=
  ChatRequest.read?_render finite (Nat.lt_trans tokens (by decide))

theorem codeIn?_requestBody (code : String) (finite : settings.temperature.isFinite = true)
    (tokens : settings.maxTokens < 0x100000000) :
    codeIn? (requestBody settings code) = some code := by
  have messages : Json.list? ChatMessage.ofJson?
      (.array ((ChatRequest.ofUser settings (prompt code)).messages.map ChatMessage.toJson)) =
      some (ChatRequest.ofUser settings (prompt code)).messages :=
    Json.list?_map fun message _ => message.ofJson?_toJson
  simp only [codeIn?, read?_requestBody code finite tokens, ChatRequest.messages_members,
    Option.bind_eq_bind, Option.bind_some, messages]
  exact congrArg some (codeOf_prompt code)

theorem carries_requestBody (code : String) (finite : settings.temperature.isFinite = true)
    (tokens : settings.maxTokens < 0x100000000) :
    Carries settings code (requestBody settings code) where
  document := by
    obtain ⟨numeral, -, -, written⟩ := Number.Single.exists_numeral finite
    refine ⟨String.ofList numeral.written, written, ?_⟩
    rw [read?_requestBody code finite tokens, ← written]
    rfl
  code := codeIn?_requestBody code finite tokens

/-- A request about a source text carries the settings and the text, whatever characters they hold,
and requests with different models, bounds on the answer or texts have different bodies. -/
theorem request_faithful (settings : AssistantConfig) (code : String)
    (finite : settings.temperature.isFinite = true) (tokens : settings.maxTokens < 0x100000000) :
    (∀ key request, request? settings key code = some request →
      request.body = requestBody settings code) ∧
    Carries settings code (requestBody settings code) ∧
    ∀ (other : AssistantConfig) (otherCode : String), other.temperature.isFinite = true →
      other.maxTokens < 0x100000000 → requestBody other otherCode = requestBody settings code →
      other.model = settings.model ∧ other.maxTokens = settings.maxTokens ∧
        otherCode = code := by
  have carries := carries_requestBody code finite tokens
  refine ⟨fun _ _ => body_of_request?, carries, ?_⟩
  intro other otherCode otherFinite otherTokens same
  have otherCarries := carries_requestBody otherCode otherFinite otherTokens
  rw [same] at otherCarries
  obtain ⟨literal, -, read⟩ := carries.document
  obtain ⟨otherLiteral, -, otherRead⟩ := otherCarries.document
  rw [read] at otherRead
  have found := carries.code
  rw [otherCarries.code] at found
  simp only [Option.some.injEq, Json.object.injEq, List.cons.injEq, Prod.mk.injEq,
    Json.string.injEq, Json.natural.injEq, true_and] at otherRead
  exact ⟨otherRead.1.symm, otherRead.2.2.1.symm, Option.some.inj found⟩

/-- A text with quotes, a backslash, controls and characters beyond ASCII. -/
def roughText : String := "let s = \"\\u00e9\";\r\n\t// \x00\x1f \u2028 😀"

/-- A rough text is carried with the default settings, and one line feed more makes another body. -/
theorem request_faithful_of_rough_text :
    (({} : AssistantConfig).temperature.isFinite = true ∧
      ({} : AssistantConfig).maxTokens < 0x100000000) ∧
    codeIn? (requestBody {} roughText) = some roughText ∧
    requestBody {} (roughText ++ "\n") ≠ requestBody {} roughText := by
  have finite : ({} : AssistantConfig).temperature.isFinite = true := by decide
  have tokens : ({} : AssistantConfig).maxTokens < 0x100000000 := by decide
  obtain ⟨-, carries, apart⟩ := request_faithful {} roughText finite tokens
  refine ⟨⟨finite, tokens⟩, carries.code, ?_⟩
  intro same
  have equal := (apart {} (roughText ++ "\n") finite tokens same).2.2
  exact absurd equal (by decide)

end LineReview.Assistant
