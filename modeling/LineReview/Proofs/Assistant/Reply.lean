import LineReview.Assistant.Exchange
import LineReview.Proofs.Config.Loading
import LineReview.Proofs.Json.Decoding

set_option autoImplicit false

namespace LineReview.Assistant

/-- A JSON value records a message: it has a role, and it may leave its text out. -/
inductive ChatMessage.IsRecordedBy : Json → ChatMessage → Prop where
  | intro {value role : Json} {content : Option Json} {message : ChatMessage}
      (record : value.Records ["role", "content"] [some role, content])
      (required : role.IsText message.role)
      (optional : Json.Optionally Json.IsText content message.content) : IsRecordedBy value message

theorem ChatMessage.ofJson?_eq_some_iff {value : Json} {message : ChatMessage} :
    ChatMessage.ofJson? value = some message ↔ ChatMessage.IsRecordedBy value message := by
  unfold ChatMessage.ofJson?
  rw [Option.bind_eq_bind, Option.bind_eq_some_iff]
  constructor
  · rintro ⟨fields, record, read⟩
    rw [Json.record?_eq_some_iff] at record
    split at read
    · rename_i role content
      simp only [Option.pure_def, Option.bind_eq_bind, Option.bind_eq_some_iff, Option.some.injEq,
        Json.required?] at read
      obtain ⟨_, ⟨role, rfl, required⟩, _, optional, rfl⟩ := read
      exact .intro record (Json.text?_eq_some_iff.mp required)
        ((Json.optional?_eq_some_iff fun _ _ => Json.text?_eq_some_iff).mp optional)
    · cases read
  · rintro ⟨record, required, optional⟩
    refine ⟨_, Json.record?_eq_some_iff.mpr record, ?_⟩
    rw [← Json.text?_eq_some_iff] at required
    rw [← Json.optional?_eq_some_iff fun _ _ => Json.text?_eq_some_iff] at optional
    simp only [Json.required?, Option.bind_some, required, optional]
    rfl

namespace ChatResponse

/-- A JSON value records a choice, which may leave its message out. -/
inductive RecordsChoice : Json → Option ChatMessage → Prop where
  | intro {value : Json} {field : Option Json} {choice : Option ChatMessage}
      (record : value.Records ["message"] [field])
      (optional : Json.Optionally ChatMessage.IsRecordedBy field choice) :
      RecordsChoice value choice

/-- A JSON value records a response: an array of its choices, or none where it does not speak of
choices. -/
inductive IsRecordedBy : Json → ChatResponse → Prop where
  | without {value : Json} (record : value.Records ["choices"] [none]) :
      IsRecordedBy value { choices := [] }
  | listing {value : Json} {items : List Json} {choices : List (Option ChatMessage)}
      (record : value.Records ["choices"] [some (.array items)])
      (each : List.Forall₂ RecordsChoice items choices) :
      IsRecordedBy value { choices }

def IsHeldBy (response : ChatResponse) (body : String) : Prop :=
  ∃ value, Json.read? body = some value ∧ IsRecordedBy value response

/-- The first choice has a message with a text that is not blank. -/
inductive Offers : ChatResponse → String → Prop where
  | intro {role text : String} {later : List (Option ChatMessage)}
      (filled : ∃ char ∈ text.toList, Text.isBlank char = false) :
      Offers { choices := some { role, content := some text } :: later } text

/-- There is no first choice, or it has no message, or the message has no text or a blank one. -/
inductive OffersNothing : ChatResponse → Prop where
  | choiceless : OffersNothing { choices := [] }
  | messageless {later : List (Option ChatMessage)} : OffersNothing { choices := none :: later }
  | textless {role : String} {later : List (Option ChatMessage)} :
      OffersNothing { choices := some { role, content := none } :: later }
  | blank {role text : String} {later : List (Option ChatMessage)}
      (blank : ∀ char ∈ text.toList, Text.isBlank char = true) :
      OffersNothing { choices := some { role, content := some text } :: later }

theorem choice?_eq_some_iff {value : Json} {choice : Option ChatMessage} :
    choice? value = some choice ↔ RecordsChoice value choice := by
  unfold choice?
  rw [Option.bind_eq_bind, Option.bind_eq_some_iff]
  constructor
  · rintro ⟨fields, record, read⟩
    rw [Json.record?_eq_some_iff] at record
    split at read
    · rw [Json.optional?_eq_some_iff fun _ _ => ChatMessage.ofJson?_eq_some_iff] at read
      exact .intro record read
    · cases read
  · rintro ⟨record, optional⟩
    exact ⟨_, Json.record?_eq_some_iff.mpr record,
      (Json.optional?_eq_some_iff fun _ _ => ChatMessage.ofJson?_eq_some_iff).mpr optional⟩

theorem ofJson?_eq_some_iff {value : Json} {response : ChatResponse} :
    ofJson? value = some response ↔ IsRecordedBy value response := by
  unfold ofJson?
  rw [Option.bind_eq_bind, Option.bind_eq_some_iff]
  constructor
  · rintro ⟨fields, record, read⟩
    rw [Json.record?_eq_some_iff] at record
    split at read
    · rw [Option.bind_eq_bind, Option.bind_eq_some_iff] at read
      obtain ⟨choices, listed, ⟨⟩⟩ := read
      obtain ⟨items, rfl, each⟩ :=
        (Json.list?_eq_some_iff fun _ _ => choice?_eq_some_iff).mp listed
      exact .listing record each
    · cases read
      exact .without record
    · cases read
  · intro recorded
    cases recorded with
    | without record => exact ⟨_, Json.record?_eq_some_iff.mpr record, rfl⟩
    | listing record each =>
        have listed :=
          (Json.list?_eq_some_iff fun _ _ => choice?_eq_some_iff).mpr ⟨_, rfl, each⟩
        refine ⟨_, Json.record?_eq_some_iff.mpr record, ?_⟩
        dsimp only
        rw [listed]
        rfl

theorem read?_eq_some_iff {body : String} {response : ChatResponse} :
    read? body = some response ↔ response.IsHeldBy body := by
  rw [read?, Option.bind_eq_some_iff]
  simp only [ofJson?_eq_some_iff, IsHeldBy]

theorem read?_eq_none_iff {body : String} :
    read? body = none ↔ ∀ response : ChatResponse, ¬response.IsHeldBy body := by
  simp only [← read?_eq_some_iff]
  cases read? body <;> simp

theorem firstText?_eq_some_iff {response : ChatResponse} {text : String} :
    response.firstText? = some text ↔
      ∃ message, response.choices.head? = some (some message) ∧ message.content = some text ∧
        ∃ char ∈ text.toList, Text.isBlank char = false := by
  simp only [firstText?, Option.bind_eq_bind, Option.bind_eq_some_iff,
    ← Config.isBlankText_eq_false_iff]
  constructor
  · rintro ⟨choice, first, message, rfl, written, content, kept⟩
    split at kept
    · cases kept
    · rename_i filled
      cases kept
      exact ⟨message, first, content, by simpa using filled⟩
  · rintro ⟨message, first, content, filled⟩
    exact ⟨some message, first, message, rfl, text, content, by rw [filled]; rfl⟩

theorem offers_iff {response : ChatResponse} {text : String} :
    response.Offers text ↔ response.firstText? = some text := by
  rw [firstText?_eq_some_iff]
  constructor
  · rintro ⟨filled⟩
    exact ⟨_, rfl, rfl, filled⟩
  · rintro ⟨⟨role, content⟩, first, rfl, filled⟩
    obtain ⟨later, rfl⟩ : ∃ later, response =
        { choices := some ⟨role, some text⟩ :: later } := by
      obtain ⟨choices⟩ := response
      obtain ⟨later, rfl⟩ := List.head?_eq_some_iff.mp first
      exact ⟨later, rfl⟩
    exact .intro filled

theorem offersNothing_iff {response : ChatResponse} :
    response.OffersNothing ↔ response.firstText? = none := by
  have written (role text : String) (later : List (Option ChatMessage)) :
      firstText? { choices := some { role, content := some text } :: later } = none ↔
        ∀ char ∈ text.toList, Text.isBlank char = true := by
    rw [← List.all_eq_true, ← Text.isBlankText]
    change (if Text.isBlankText text.toList then none else some text) = none ↔ _
    simp
  constructor
  · intro nothing
    cases nothing with
    | choiceless | messageless | textless => rfl
    | blank blank => exact (written _ _ _).mpr blank
  · intro silent
    rcases response with ⟨_ | ⟨_ | ⟨role, _ | text⟩, later⟩⟩
    · exact .choiceless
    · exact .messageless
    · exact .textless
    · exact .blank ((written role text later).mp silent)

end ChatResponse

theorem answerIn_eq_ok_iff {body text : String} :
    answerIn body = .ok text ↔
      ∃ response, ChatResponse.read? body = some response ∧
        response.firstText? = some text := by
  unfold answerIn
  cases ChatResponse.read? body with
  | none => simp
  | some response => cases first : response.firstText? <;> simp [first]

/-- What a status and a delivered body come to. -/
inductive Verdict (status : Nat) (body : String) : Except Failure String → Prop where
  | answered {response : ChatResponse} {text : String} (success : 200 ≤ status ∧ status ≤ 299)
      (held : response.IsHeldBy body) (offers : response.Offers text) :
      Verdict status body (.ok text)
  | wordless {response : ChatResponse} (success : 200 ≤ status ∧ status ≤ 299)
      (held : response.IsHeldBy body)
      (nothing : response.OffersNothing) : Verdict status body (.error .noText)
  | unread (success : 200 ≤ status ∧ status ≤ 299)
      (unread : ∀ response : ChatResponse, ¬response.IsHeldBy body) :
      Verdict status body (.error .network)
  | unauthorized (rejected : status = 401 ∨ status = 403) :
      Verdict status body (.error .unauthorized)
  | rateLimited (limited : status = 429) : Verdict status body (.error .rateLimited)
  | refused (failure : 299 < status) (known : status ∉ [401, 403, 429]) :
      Verdict status body (.error (.refused status (withoutMark body)))

variable {status : Nat} {body : String}

theorem Reply.outcome_of_success (success : 200 ≤ status ∧ status ≤ 299) :
    (Reply.answer status body).outcome = answerIn (deliveredBody status body) := by
  simp [outcome, success]

theorem Reply.outcome_of_refusal (failure : 299 < status) (known : status ∉ [401, 403, 429]) :
    (Reply.answer status body).outcome =
      .error (.refused status (withoutMark (deliveredBody status body))) := by
  simp only [List.mem_cons, List.not_mem_nil, or_false, not_or] at known
  obtain ⟨unauthorized, forbidden, limited⟩ := known
  have high : ¬status ≤ 299 := by omega
  have final : ¬status < 200 := by omega
  simp [outcome, high, final, unauthorized, forbidden, limited]

theorem Verdict.outcome_eq {result : Except Failure String}
    (verdict : Verdict status (deliveredBody status body) result) :
    (Reply.answer status body).outcome = result := by
  cases verdict with
  | answered success held offers =>
      rw [Reply.outcome_of_success success]
      exact answerIn_eq_ok_iff.mpr ⟨_, ChatResponse.read?_eq_some_iff.mpr held,
        ChatResponse.offers_iff.mp offers⟩
  | wordless success held nothing =>
      rw [Reply.outcome_of_success success, answerIn, ChatResponse.read?_eq_some_iff.mpr held]
      dsimp only
      rw [ChatResponse.offersNothing_iff.mp nothing]
  | unread success unread =>
      rw [Reply.outcome_of_success success, answerIn, ChatResponse.read?_eq_none_iff.mpr unread]
  | unauthorized rejected => rcases rejected with rfl | rfl <;> rfl
  | rateLimited limited =>
      cases limited
      rfl
  | refused failure known => exact Reply.outcome_of_refusal failure known

/-- Every final reply has a verdict. -/
theorem exists_verdict (final : 200 ≤ status) : ∃ result, Verdict status body result := by
  by_cases success : status ≤ 299
  · cases read : ChatResponse.read? body with
    | none => exact ⟨_, .unread ⟨final, success⟩ (ChatResponse.read?_eq_none_iff.mp read)⟩
    | some response =>
        have held := ChatResponse.read?_eq_some_iff.mp read
        cases first : response.firstText? with
        | none =>
          exact ⟨_,
            .wordless ⟨final, success⟩ held (ChatResponse.offersNothing_iff.mpr first)⟩
        | some text =>
          exact ⟨_, .answered ⟨final, success⟩ held (ChatResponse.offers_iff.mpr first)⟩
  · by_cases rejected : status = 401 ∨ status = 403
    · exact ⟨_, .unauthorized rejected⟩
    · by_cases limited : status = 429
      · exact ⟨_, .rateLimited limited⟩
      · refine ⟨_, .refused (Nat.lt_of_not_le success) ?_⟩
        simp only [List.mem_cons, List.not_mem_nil, or_false]
        tauto

variable {settings : AssistantConfig} {key code : String} {request : Request} {endpoint : Endpoint}

/-- What comes of asking is what the status and the delivered body of the final reply come to, and
nothing else. -/
theorem exchange_eq_iff_verdict (sent : request? settings key code = some request)
    (answered : endpoint request = .answer status body) (final : 200 ≤ status)
    (result : Except Failure String) :
    exchange endpoint (request? settings key code) = result ↔
      Verdict status (deliveredBody status body) result := by
  rw [sent, exchange, answered]
  constructor
  · rintro rfl
    obtain ⟨result, verdict⟩ : ∃ result, Verdict status (deliveredBody status body) result :=
      exists_verdict final
    rw [verdict.outcome_eq]
    exact verdict
  · exact Verdict.outcome_eq

/-- The first choice has no message, and the second one has a text. -/
def lateBody : String :=
  "\x7b\"id\":1,\"choices\":[\x7b\"message\":null\x7d,\x7b\"message\":[\"assistant\",\"Use const.\"]\x7d]\x7d"

def lateResponse : ChatResponse :=
  { choices := [none, some { role := "assistant", content := some "Use const." }] }

/-- The text of a later choice does not make up for a first choice without one. -/
theorem exchange_eq_iff_verdict_of_late_text :
    ∃ request, request? {} "key" "var x = 1;" = some request ∧
      exchange (fun _ => .answer 200 lateBody) (request? {} "key" "var x = 1;") =
        .error .noText := by
  have prepared : (request? {} "key" "var x = 1;").isSome = true := by decide +kernel
  obtain ⟨request, sent⟩ := Option.isSome_iff_exists.mp prepared
  have held : lateResponse.IsHeldBy (deliveredBody 200 lateBody) :=
    ChatResponse.read?_eq_some_iff.mp (by decide +kernel)
  refine ⟨request, sent, ?_⟩
  exact (exchange_eq_iff_verdict sent rfl (by decide) _).mpr
    (.wordless (by decide) held .messageless)

end LineReview.Assistant
