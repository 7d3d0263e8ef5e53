import LineReview.Command.Run
import LineReview.Proofs.Assistant.Reply
import LineReview.Proofs.Command.Review

set_option autoImplicit false

namespace LineReview

namespace Assistant

/-- The reply reports success, and the first choice it offers is a text that is not blank. -/
inductive Reply.Answers : Reply → String → Prop where
  | intro {status : Nat} {body text : String} {response : ChatResponse} {message : ChatMessage}
      (success : 200 ≤ status ∧ status ≤ 299)
      (read : ChatResponse.read? (deliveredBody status body) = some response)
      (first : response.choices.head? = some (some message)) (content : message.content = some text)
      (filled : ∃ char ∈ text.toList, Text.isBlank char = false) :
      Answers (.answer status body) text

theorem Reply.outcome_eq_ok_iff {reply : Reply} {text : String} :
    reply.outcome = .ok text ↔ reply.Answers text := by
  cases reply with
  | silence => exact ⟨nofun, nofun⟩
  | unreachable => exact ⟨nofun, nofun⟩
  | answer status body =>
      have counts : (200 ≤ status && status ≤ 299) = true ↔
          200 ≤ status ∧ status ≤ 299 := by simp
      unfold outcome
      dsimp only
      constructor
      · intro answered
        by_cases success : (200 ≤ status && status ≤ 299) = true
        · rw [if_pos success] at answered
          obtain ⟨response, read, offered⟩ := answerIn_eq_ok_iff.mp answered
          obtain ⟨message, first, content, filled⟩ :=
            ChatResponse.firstText?_eq_some_iff.mp offered
          exact .intro (counts.mp success) read first content filled
        · rw [if_neg success] at answered
          repeat' split at answered
          all_goals cases answered
      · intro answers
        cases answers with
        | intro success read first content filled =>
            rw [if_pos (counts.mpr success)]
            exact answerIn_eq_ok_iff.mpr ⟨_, read,
              ChatResponse.firstText?_eq_some_iff.mpr ⟨_, first, content, filled⟩⟩

theorem exchange_eq_ok_iff {endpoint : Endpoint} {request : Option Request} {text : String} :
    exchange endpoint request = .ok text ↔
      ∃ sent, request = some sent ∧ (endpoint sent).Answers text := by
  cases request with
  | none => exact ⟨nofun, by rintro ⟨_, ⟨⟩, -⟩⟩
  | some sent =>
      rw [exchange, Reply.outcome_eq_ok_iff]
      constructor
      · intro answers
        exact ⟨sent, rfl, answers⟩
      · rintro ⟨_, ⟨⟩, answers⟩
        exact answers

theorem exchange_congr {first second : Endpoint} {request : Option Request}
    (same : ∀ sent, request = some sent → first sent = second sent) :
    exchange first request = exchange second request := by
  cases request with
  | none => rfl
  | some sent => rw [exchange, exchange, same sent rfl]

theorem key_eq_ok_iff {environment : Environment} {settings : AssistantConfig} {value : String} :
    key environment settings = .ok value ↔
      environment.valueOf? settings.keyVariable = some value ∧
        ∃ char ∈ value.toList, Text.isBlank char = false := by
  rw [← Config.isBlankText_eq_false_iff]
  unfold key
  cases environment.valueOf? settings.keyVariable with
  | none => simp
  | some held =>
      dsimp only
      split
      · rename_i blank
        refine ⟨nofun, ?_⟩
        rintro ⟨⟨⟩, filled⟩
        rw [blank] at filled
        cases filled
      · rename_i filled
        constructor
        · rintro ⟨⟩
          exact ⟨rfl, by simpa using filled⟩
        · rintro ⟨⟨⟩, -⟩
          rfl

/-- Without a key it is the variable for it that is named. -/
theorem key_eq_error {environment : Environment} {settings : AssistantConfig} {failure : Failure}
    (failed : key environment settings = .error failure) :
    failure = .missingKey settings.keyVariable := by
  unfold key at failed
  split at failed
  · split at failed
    · cases failed
      rfl
    · cases failed
  · cases failed
    rfl

end Assistant

namespace Outcome

/-- The command fails and says one line. -/
structure Halts (outcome : Outcome) (line : String) : Prop where
  exitCode : outcome.exitCode = .failure
  output : outcome.output = ""
  lines : outcome.lines = [line]

theorem Halts.number {outcome : Outcome} {line : String} (halts : outcome.Halts line) :
    outcome.exitCode.number = 2 := by
  rw [halts.exitCode]
  rfl

theorem halts_refusal (tree : FileTree) (events : List Log.Event) {complaint : Complaint}
    (plain : complaint.advice = []) :
    (refusal tree events complaint).Halts ("Error: " ++ complaint.text) where
  exitCode := rfl
  output := rfl
  lines := by rw [lines_refusal, Complaint.lines, plain]

theorem halts_unanswered (tree : FileTree) (events : List Log.Event) (failure : Assistant.Failure)
    (request : Option Assistant.Request) :
    (unanswered tree events failure request).Halts ("An error occurred: " ++ failure.message) where
  exitCode := rfl
  output := rfl
  lines := by
    rw [lines, unanswered, List.filterMap_append, Message.filterMap_line?_map_event,
      List.nil_append]
    rfl

def ofExchange (tree : FileTree) (events : List Log.Event) (request : Option Assistant.Request) :
    Except Assistant.Failure String → Outcome
  | .error failure => .unanswered tree (events ++ failure.replyEvents) failure request
  | .ok text => {
      exitCode := .success
      output := text ++ "\n"
      messages := events.map .event
      tree
      request }

theorem request_ofExchange (tree : FileTree) (events : List Log.Event)
    (request : Option Assistant.Request) (result : Except Assistant.Failure String) :
    (ofExchange tree events request result).request = request := by
  cases result <;> rfl

end Outcome

namespace SourceOptions

/-- There are settings, a text that is not blank and a key that is not blank. -/
structure Asks (environment : Environment) (tree : FileTree) (options : SourceOptions)
    (config : Config) (text key : String) : Prop where
  loaded : ∃ path, Config.load environment tree options.config = .ok (config, path)
  read : Source.text? environment tree options.path = some text
  filled : ∃ char ∈ text.toList, Text.isBlank char = false
  held : environment.valueOf? config.assistant.keyVariable = some key
  usable : ∃ char ∈ key.toList, Text.isBlank char = false

/-- Something is missing before there is a request, and a line says what is missing first. -/
inductive Lacks (environment : Environment) (tree : FileTree) (options : SourceOptions) :
    String → Prop where
  | settings {error : ConfigError}
      (failed : Config.load environment tree options.config = .error error) :
      Lacks environment tree options ("Error: " ++ error.message)
  | text {config : Config} {path : Option String} {complaint : Complaint}
      (loaded : Config.load environment tree options.config = .ok (config, path))
      (failed : Source.read environment tree options.path = .error complaint) :
      Lacks environment tree options ("Error: " ++ complaint.text)
  | content {config : Config} {path : Option String} {text : String}
      (loaded : Config.load environment tree options.config = .ok (config, path))
      (read : Source.text? environment tree options.path = some text)
      (blank : ∀ char ∈ text.toList, Text.isBlank char = true) :
      Lacks environment tree options "Error: nothing to explain, the input is empty"
  | key {config : Config} {path : Option String} {text : String}
      (loaded : Config.load environment tree options.config = .ok (config, path))
      (read : Source.text? environment tree options.path = some text)
      (filled : ∃ char ∈ text.toList, Text.isBlank char = false)
      (missing : ∀ key, environment.valueOf? config.assistant.keyVariable = some key →
        ∀ char ∈ key.toList, Text.isBlank char = true) :
      Lacks environment tree options
        ("An error occurred: no API key: set the " ++ config.assistant.keyVariable ++
          " environment variable")

/-- Some stage fails, and a line says what failed first. -/
inductive Fails (environment : Environment) (tree : FileTree) (endpoint : Assistant.Endpoint)
    (options : SourceOptions) : String → Prop where
  | before {line : String} (lacks : options.Lacks environment tree line) :
      Fails environment tree endpoint options line
  | exchange {config : Config} {text key : String} {failure : Assistant.Failure}
      (asks : options.Asks environment tree config text key)
      (failed : Assistant.exchange endpoint (Assistant.request? config.assistant key text) =
        .error failure) :
      Fails environment tree endpoint options ("An error occurred: " ++ failure.message)

variable {environment : Environment} {tree : FileTree} {options : SourceOptions}

theorem exists_source_of_text? {text : String}
    (read : Source.text? environment tree options.path = some text) :
    Source.read environment tree options.path = .ok { name := Source.nameOf options.path, text } :=
  Source.read_eq_ok_iff.mpr ⟨read, rfl⟩

/-- The settings and the text are asked about when the text is not blank. -/
theorem question_of_text {config : Config} {path : Option String} {text : String}
    (loaded : Config.load environment tree options.config = .ok (config, path))
    (read : Source.text? environment tree options.path = some text) :
    options.question environment tree =
      (Config.loadedEvents path,
        if Text.isBlankText text.toList then .error .nothingToExplain
        else .ok (config, { name := Source.nameOf options.path, text })) := by
  rw [question, loaded]
  dsimp only
  rw [exists_source_of_text? read]

/-- What is missing before there is a request decides the outcome, whatever the endpoint does. -/
theorem Lacks.explain {line : String} (lacks : options.Lacks environment tree line) :
    ∃ outcome, (∀ endpoint, options.explain environment tree endpoint = outcome) ∧
      outcome.Halts line ∧
      outcome.request = none := by
  cases lacks with
  | @settings error failed =>
      refine ⟨.refusal tree [] (.config error), ?_, Outcome.halts_refusal tree [] rfl, rfl⟩
      intro endpoint
      rw [SourceOptions.explain, question, failed]
  | @text config path complaint loaded failed =>
      have plain : complaint.advice = [] := by
        obtain ⟨error, rfl | rfl⟩ := Source.read_eq_error failed <;> rfl
      refine ⟨.refusal tree (Config.loadedEvents path) complaint, ?_,
        Outcome.halts_refusal tree _ plain, rfl⟩
      intro endpoint
      rw [SourceOptions.explain, question, loaded]
      dsimp only
      rw [failed]
  | @content config path text loaded read blank =>
      have unfilled : Text.isBlankText text.toList = true := List.all_eq_true.mpr blank
      refine ⟨.refusal tree (Config.loadedEvents path) .nothingToExplain, ?_,
        Outcome.halts_refusal tree _ rfl, rfl⟩
      intro endpoint
      rw [SourceOptions.explain, question_of_text loaded read, if_pos unfilled]
  | @key config path text loaded read filled missing =>
      have filled := Config.isBlankText_eq_false_iff.mpr filled
      have keyless : Assistant.key environment config.assistant =
          .error (.missingKey config.assistant.keyVariable) := by
        cases found : Assistant.key environment config.assistant with
        | error failure => rw [Assistant.key_eq_error found]
        | ok key =>
            obtain ⟨held, char, member, solid⟩ := Assistant.key_eq_ok_iff.mp found
            rw [missing key held char member] at solid
            cases solid
      refine ⟨.unanswered tree (Config.loadedEvents path)
        (.missingKey config.assistant.keyVariable) none, ?_, ?_, rfl⟩
      · intro endpoint
        rw [SourceOptions.explain, question_of_text loaded read, filled]
        dsimp only
        rw [if_neg Bool.false_ne_true]
        dsimp only
        rw [keyless]
      · exact Outcome.halts_unanswered tree _ (.missingKey config.assistant.keyVariable) none

/-- Where nothing is missing, what comes of the request decides the outcome. -/
theorem Asks.explain {config : Config} {text key : String}
    (asks : options.Asks environment tree config text key) :
    ∃ events, ∀ endpoint, options.explain environment tree endpoint =
      .ofExchange tree events (Assistant.request? config.assistant key text)
        (Assistant.exchange endpoint (Assistant.request? config.assistant key text)) := by
  obtain ⟨path, loaded⟩ := asks.loaded
  have filled := Config.isBlankText_eq_false_iff.mpr asks.filled
  have found : Assistant.key environment config.assistant = .ok key :=
    Assistant.key_eq_ok_iff.mpr ⟨asks.held, asks.usable⟩
  refine ⟨Config.loadedEvents path ++ [config.assistant.requestEvent], ?_⟩
  intro endpoint
  rw [SourceOptions.explain, question_of_text loaded asks.read, filled]
  dsimp only
  rw [if_neg Bool.false_ne_true]
  dsimp only
  rw [found]
  dsimp only
  cases Assistant.exchange endpoint (Assistant.request? config.assistant key text) <;> rfl

/-- Either something is missing, or there is something to ask about. -/
theorem lacks_or_asks (environment : Environment) (tree : FileTree) (options : SourceOptions) :
    (∃ line, options.Lacks environment tree line) ∨
      ∃ config text key, options.Asks environment tree config text key := by
  cases loaded : Config.load environment tree options.config with
  | error error => exact Or.inl ⟨_, .settings loaded⟩
  | ok settings =>
      obtain ⟨config, path⟩ := settings
      cases found : Source.read environment tree options.path with
      | error complaint => exact Or.inl ⟨_, .text loaded found⟩
      | ok source =>
          have read := (Source.read_eq_ok_iff.mp found).1
          cases blank : Text.isBlankText source.text.toList with
          | true => exact Or.inl ⟨_, .content loaded read (List.all_eq_true.mp blank)⟩
          | false =>
              have filled := Config.isBlankText_eq_false_iff.mp blank
              by_cases keyed : ∃ key, Assistant.key environment config.assistant = .ok key
              · obtain ⟨key, found⟩ := keyed
                obtain ⟨held, usable⟩ := Assistant.key_eq_ok_iff.mp found
                exact Or.inr ⟨config, source.text, key, ⟨path, loaded⟩, read, filled,
                  held, usable⟩
              · refine Or.inl ⟨_, .key loaded read filled ?_⟩
                intro key held char member
                cases usable : Text.isBlank char with
                | true => rfl
                | false =>
                  exact absurd
                    ⟨key, Assistant.key_eq_ok_iff.mpr ⟨held, char, member, usable⟩⟩ keyed

variable {endpoint : Assistant.Endpoint}

/-- What fails first decides what is said. -/
theorem Fails.halts {line : String} (fails : options.Fails environment tree endpoint line) :
    (options.explain environment tree endpoint).Halts line := by
  cases fails with
  | before lacks =>
      obtain ⟨outcome, always, halts, -⟩ := lacks.explain
      rw [always]
      exact halts
  | exchange asks failed =>
      obtain ⟨events, always⟩ := asks.explain
      rw [always, failed]
      exact Outcome.halts_unanswered tree _ _ _

theorem Asks.request {config : Config} {text key : String}
    (asks : options.Asks environment tree config text key) :
    (options.explain environment tree endpoint).request =
      Assistant.request? config.assistant key text := by
  obtain ⟨events, always⟩ := asks.explain
  rw [always, Outcome.request_ofExchange]

theorem request_explain_eq_some_iff {request : Assistant.Request} :
    (options.explain environment tree endpoint).request = some request ↔
      ∃ config text key, options.Asks environment tree config text key ∧
        Assistant.request? config.assistant key text = some request := by
  constructor
  · intro sent
    rcases lacks_or_asks environment tree options
      with ⟨line, lacks⟩ | ⟨config, text, key, asks⟩
    · obtain ⟨outcome, always, -, unsent⟩ := lacks.explain
      rw [always, unsent] at sent
      cases sent
    · rw [asks.request] at sent
      exact ⟨config, text, key, asks, sent⟩
  · rintro ⟨config, text, key, asks, sent⟩
    rw [asks.request, sent]

/-- An endpoint that replies in the same way to the request that is sent makes no difference. -/
theorem explain_congr {other : Assistant.Endpoint}
    (same : ∀ request, (options.explain environment tree endpoint).request = some request →
      other request = endpoint request) :
    options.explain environment tree other = options.explain environment tree endpoint := by
  rcases lacks_or_asks environment tree options
    with ⟨line, lacks⟩ | ⟨config, text, key, asks⟩
  · obtain ⟨outcome, always, -⟩ := lacks.explain
    rw [always, always]
  · obtain ⟨events, always⟩ := asks.explain
    rw [asks.request] at same
    rw [always, always, Assistant.exchange_congr same]

theorem explain_of_answers {request : Assistant.Request} {text : String}
    (sent : (options.explain environment tree endpoint).request = some request)
    (answers : (endpoint request).Answers text) :
    (options.explain environment tree endpoint).exitCode = .success ∧
      (options.explain environment tree endpoint).output = text ++ "\n" ∧
      (options.explain environment tree endpoint).lines = [] := by
  obtain ⟨config, code, key, asks, prepared⟩ := request_explain_eq_some_iff.mp sent
  obtain ⟨events, always⟩ := asks.explain
  have answered := Assistant.exchange_eq_ok_iff.mpr ⟨request, prepared, answers⟩
  rw [always, answered]
  exact ⟨rfl, rfl, Message.filterMap_line?_map_event events⟩

/-- Either some stage fails, or the request is answered. -/
theorem fails_or_answers (environment : Environment) (tree : FileTree)
    (endpoint : Assistant.Endpoint) (options : SourceOptions) :
    (∃ line, options.Fails environment tree endpoint line) ∨
      ∃ request text, (options.explain environment tree endpoint).request = some request ∧
        (endpoint request).Answers text := by
  rcases lacks_or_asks environment tree options
    with ⟨line, lacks⟩ | ⟨config, text, key, asks⟩
  · exact Or.inl ⟨line, .before lacks⟩
  · cases came : Assistant.exchange endpoint (Assistant.request? config.assistant key text) with
    | error failure => exact Or.inl ⟨_, .exchange asks came⟩
    | ok answer =>
        obtain ⟨request, prepared, answers⟩ := Assistant.exchange_eq_ok_iff.mp came
        exact Or.inr ⟨request, answer, by rw [asks.request, prepared], answers⟩

/-- What the command that asks the assistant promises of its outcome. -/
structure Explained (environment : Environment) (tree : FileTree) (endpoint : Assistant.Endpoint)
    (options : SourceOptions) (outcome : Outcome) : Prop where
  /-- No more than one request is sent: what the endpoint would do with others makes no
  difference. -/
  once : ∀ other : Assistant.Endpoint,
    (∀ request, outcome.request = some request → other request = endpoint request) →
    options.explain environment tree other = outcome
  request_iff : ∀ request, outcome.request = some request ↔
    ∃ config text key, options.Asks environment tree config text key ∧
      Assistant.request? config.assistant key text = some request
  success_iff : outcome.exitCode.number = 0 ↔
    ∃ request text, outcome.request = some request ∧ (endpoint request).Answers text
  answer : ∀ request text, outcome.request = some request → (endpoint request).Answers text →
    outcome.output = text ++ "\n" ∧ outcome.lines = []
  failure : outcome.exitCode.number ≠ 0 →
    outcome.exitCode.number = 2 ∧ outcome.output = "" ∧
      ∃ line, options.Fails environment tree endpoint line
  message : ∀ line, options.Fails environment tree endpoint line →
    outcome.exitCode.number = 2 ∧ outcome.lines = [line]

/-- Whatever the surroundings, the files and the endpoint are like, the command that asks the
assistant keeps what it promises. -/
theorem explain_keeps (environment : Environment) (tree : FileTree) (endpoint : Assistant.Endpoint)
    (options : SourceOptions) :
    options.Explained environment tree endpoint (options.explain environment tree endpoint) where
  once := fun _ same => explain_congr same
  request_iff := fun _ => request_explain_eq_some_iff
  success_iff := by
    constructor
    · intro succeeded
      rcases fails_or_answers environment tree endpoint options with ⟨line, fails⟩ | answered
      · rw [fails.halts.number] at succeeded
        cases succeeded
      · exact answered
    · rintro ⟨request, text, sent, answers⟩
      rw [(explain_of_answers sent answers).1]
      rfl
  answer := fun _ _ sent answers => (explain_of_answers sent answers).2
  failure := by
    intro failed
    rcases fails_or_answers environment tree endpoint options
      with ⟨line, fails⟩ | ⟨request, text, sent, answers⟩
    · exact ⟨fails.halts.number, fails.halts.output, line, fails⟩
    · rw [(explain_of_answers sent answers).1] at failed
      exact absurd rfl failed
  message := fun _ fails => ⟨fails.halts.number, fails.halts.lines⟩

end SourceOptions

end LineReview
