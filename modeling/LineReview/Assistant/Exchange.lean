import LineReview.Assistant.Address
import LineReview.Assistant.Chat
import LineReview.FileSystem
import LineReview.Report.Document
import LineReview.Text.Quoted

set_option autoImplicit false

namespace LineReview.Assistant

/-- Why there is no answer. -/
inductive Failure where
  | missingKey (name : String)
  | network
  | timeout
  | unauthorized
  | rateLimited
  | refused (status : Nat) (body : String)
  | noText
  deriving DecidableEq

namespace Failure

def message : Failure → String
  | .missingKey name => "no API key: set the " ++ name ++ " environment variable"
  | .network => "network error: the request could not be completed"
  | .timeout => "request timed out"
  | .unauthorized => "authentication rejected by the assistant endpoint"
  | .rateLimited => "rate limited by the assistant endpoint"
  | .refused status body => "assistant endpoint returned HTTP " ++ toString status ++ ": " ++ body
  | .noText => "assistant returned no text"

def kind : Failure → String
  | .missingKey _ => "MissingApiKey"
  | .network => "Network"
  | .timeout => "Timeout"
  | .unauthorized => "Unauthorized"
  | .rateLimited => "RateLimited"
  | .refused _ _ => "Api"
  | .noText => "EmptyResponse"

/-- A failure as log lines show it: its kind, and what belongs to the kind. -/
def trace (failure : Failure) : String :=
  failure.kind ++ match failure with
    | .missingKey name => "(" ++ Text.Quoted.encode name ++ ")"
    | .refused status body =>
      " \x7b status: " ++ toString status ++ ", body: " ++ Text.Quoted.encode body ++ " \x7d"
    | _ => ""

end Failure

structure Request where
  address : Address
  authorization : String
  userAgent : String
  contentType : String
  body : String
  deriving DecidableEq

def Request.line (request : Request) : String :=
  "POST " ++ request.address.target ++ " HTTP/1.1"

/-- What an endpoint does with a request. -/
inductive Reply where
  | answer (status : Nat) (body : String)
  /-- The time allowed passes without an answer. -/
  | silence
  /-- The request does not arrive, or the connection ends without an answer. -/
  | unreachable
  deriving DecidableEq

/-- An endpoint, by its reply to each request. -/
abbrev Endpoint := Request → Reply

/-- The key in the variable that the settings name, unless it is blank. -/
def key (environment : Environment) (settings : AssistantConfig) : Except Failure String :=
  match environment.valueOf? settings.keyVariable with
  | some key =>
    if Text.isBlankText key.toList then .error (.missingKey settings.keyVariable) else .ok key
  | none => .error (.missingKey settings.keyVariable)

/-- A value that a header can carry: it holds no control other than the tab. -/
def fitsHeader (value : String) : Bool :=
  value.toList.all fun char => char == '\t' || (0x20 ≤ char.toNat && char.toNat != 0x7F)

/-- What a header delivers of a value: the spaces and tabs at its ends do not belong to it. -/
def headerValue (value : String) : String :=
  String.ofList (Text.trim (fun char => char == ' ' || char == '\t') value.toList)

/-- The request about a source text, if the endpoint has an address and the key can be sent. -/
def request? (settings : AssistantConfig) (key code : String) : Option Request := do
  let address ← Address.read? (Address.completions settings.endpoint)
  let authorization := "Bearer " ++ key
  if fitsHeader authorization then
    return {
      address
      authorization := headerValue authorization
      userAgent := Program.name ++ "/" ++ Program.version
      contentType := "application/json"
      body := (ChatRequest.ofUser settings (prompt code)).render }
  else none

/-- The statuses whose replies have no body, whatever is sent after them. -/
def isBodiless (status : Nat) : Bool :=
  status == 101 || status == 204 || status == 304

def deliveredBody (status : Nat) (body : String) : String :=
  if isBodiless status then "" else body

def withoutMark (text : String) : String :=
  match text.toList with
  | '\uFEFF' :: rest => String.ofList rest
  | _ => text

def answerIn (body : String) : Except Failure String :=
  match ChatResponse.read? body with
  | none => .error .network
  | some response =>
    match response.firstText? with
    | some text => .ok text
    | none => .error .noText

/-- What a reply comes to. A reply that announces another one is not an answer, and no other one
follows. -/
def Reply.outcome : Reply → Except Failure String
  | .silence => .error .timeout
  | .unreachable => .error .network
  | .answer status body =>
    if 200 ≤ status && status ≤ 299 then answerIn (deliveredBody status body)
    else if status == 401 || status == 403 then .error .unauthorized
    else if status == 429 then .error .rateLimited
    else if status < 200 && status != 101 then .error .network
    else .error (.refused status (withoutMark (deliveredBody status body)))

/-- What comes of sending a request, if there is one to send. -/
def exchange (endpoint : Endpoint) : Option Request → Except Failure String
  | some request => (endpoint request).outcome
  | none => .error .network

end LineReview.Assistant
