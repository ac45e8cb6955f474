import NoteDialogue.Generation.Client
import NoteDialogue.Proofs.Network.Attempts

/-!
# How often a provider of generated text is called

A call comes to the texts of some choices or to an error.  An error may say that there are too many requests, that the
key is not accepted, and that another call may succeed, and it may say several of these at once
(`CompletionError.IsRateLimit`, `CompletionError.Refuses`, `CompletionError.IsRetryable`).  The first two come first:
another call is made only after an error that says the third and neither of the others
(`GenerationClient.isAgain_attemptOf_iff`).  What a call comes to as the last one is a relation of its own, in which
every outcome has one result (`GenerationClient.Settles`, `GenerationClient.settles_iff`).

The calls that are left never run out before the matter is settled, so the failure for that case is never seen
(`GenerationClient.callUntilSettled_eq_attempts`).  Hence the calls are counted by the outcomes that ask for another,
up to the limit, and the result is that of the last call, whatever came before it
(`GenerationClient.chat_settled_by_last_call`).
-/

set_option autoImplicit false

namespace NoteDialogue

/-! ## What an error says -/

namespace CompletionError

/-- There are too many requests, in the words of the service or by the status. -/
inductive IsRateLimit : CompletionError → Prop where
  | said {error : ServiceError} (tells : error.isRateLimit = true) : IsRateLimit (.service error)
  | status (detail : String) : IsRateLimit (.transport (some 429) detail)

/-- The key is not accepted, in the words of the service or by the status. -/
inductive Refuses : CompletionError → String → Prop where
  | said {error : ServiceError} (tells : error.isAuthentication = true) : Refuses (.service error) error.render
  | status {status : Nat} (refuses : status = 401 ∨ status = 403) (detail : String) :
      Refuses (.transport (some status) detail) detail

/-- The key is not accepted. -/
def IsRefusal (error : CompletionError) : Prop :=
  ∃ words, error.Refuses words

/-- Another call may succeed: the service gives neither a kind nor a code, or there was no answer, or the server
failed. -/
inductive IsRetryable : CompletionError → Prop where
  | unclassified {error : ServiceError} (kind : error.kind = none) (code : error.code = none) :
      IsRetryable (.service error)
  | unanswered (detail : String) : IsRetryable (.transport none detail)
  | serverError {status : Nat} (failed : 500 ≤ status ∧ status < 600) (detail : String) :
      IsRetryable (.transport (some status) detail)

variable {error : CompletionError} {words : String}

theorem rateLimit?_of_isRateLimit (limited : error.IsRateLimit) :
    error.rateLimit? = some (.generationRateLimit none) := by
  cases limited with
  | said tells => exact if_pos tells
  | status detail => rfl

theorem rateLimit?_eq_none (unlimited : ¬ error.IsRateLimit) : error.rateLimit? = none := by
  cases error with
  | service error => exact if_neg fun tells => unlimited (.said tells)
  | transport status detail =>
      refine if_neg fun tooMany => unlimited ?_
      rw [tooMany]
      exact .status detail
  | unreadable detail | invalidRequest reason | other detail => rfl

theorem refusal?_of_refuses (refuses : error.Refuses words) :
    error.refusal? = some (.authentication ("LLM authentication failed: " ++ words)) := by
  cases refuses with
  | said tells => exact if_pos tells
  | status refuses detail =>
      refine if_pos ?_
      rcases refuses with rfl | rfl <;> rfl

theorem refusal?_eq_none (accepted : ¬ error.IsRefusal) : error.refusal? = none := by
  cases error with
  | service error => exact if_neg fun tells => accepted ⟨_, .said tells⟩
  | transport status detail =>
      cases status with
      | none => rfl
      | some status =>
          refine if_neg fun refuses => accepted ⟨_, .status ?_ detail⟩
          simpa [Status.isRefusal] using refuses
  | unreadable detail | invalidRequest reason | other detail => rfl

theorem isRetryable_iff : error.isRetryable = true ↔ error.IsRetryable := by
  constructor
  · intro retryable
    cases error with
    | service error =>
        have unclassified : error.kind = none ∧ error.code = none := by
          simpa [isRetryable, ServiceError.isClassified] using retryable
        exact .unclassified unclassified.1 unclassified.2
    | transport status detail =>
        cases status with
        | none => exact .unanswered detail
        | some status =>
            refine .serverError ?_ detail
            simpa [isRetryable, Status.isServerError] using retryable
    | unreadable detail | invalidRequest reason | other detail => cases retryable
  · rintro (⟨kind, code⟩ | _ | ⟨failed, _⟩)
    · simp [isRetryable, ServiceError.isClassified, kind, code]
    · rfl
    · simp [isRetryable, Status.isServerError, failed]

end CompletionError

/-! ## What a call comes to -/

namespace GenerationClient

/-- No other call follows: there is an answer, or there are too many requests, or the key is not accepted, or another
call would not succeed either. -/
inductive EndsCalls : CallOutcome → Prop where
  | answer (choices : List (Option String)) : EndsCalls (.ok choices)
  | rateLimit {error : CompletionError} (limited : error.IsRateLimit) : EndsCalls (.error error)
  | refusal {error : CompletionError} (refused : error.IsRefusal) : EndsCalls (.error error)
  | hopeless {error : CompletionError} (lost : ¬ error.IsRetryable) : EndsCalls (.error error)

/-- What the last call comes to.  An answer has the text of its first choice, unless there is none or it is blank.  An
error is that there are too many requests, or else that the key is not accepted, or else the failure of the call. -/
inductive Settles : CallOutcome → Except Failure String → Prop where
  | text {text : String} (spoken : Text.isBlankText text = false) (others : List (Option String)) :
      Settles (.ok (some text :: others)) (.ok text)
  | silent {choice : Option String} (blank : Text.isBlankText (choice.getD "") = true) (others : List (Option String)) :
      Settles (.ok (choice :: others)) (.error (.generation "LLM response contained empty content"))
  | noChoice : Settles (.ok []) (.error (.generation "LLM response contained no choices"))
  | rateLimit {error : CompletionError} (limited : error.IsRateLimit) :
      Settles (.error error) (.error (.generationRateLimit none))
  | refusal {error : CompletionError} {words : String} (unlimited : ¬ error.IsRateLimit)
      (refuses : error.Refuses words) :
      Settles (.error error) (.error (.authentication ("LLM authentication failed: " ++ words)))
  | failed {error : CompletionError} (unlimited : ¬ error.IsRateLimit) (accepted : ¬ error.IsRefusal) :
      Settles (.error error) (.error error.failure)

section Attempts

variable {error : CompletionError} {words : String} {outcome : CallOutcome} {result : Except Failure String}
  {others : List (Option String)}

theorem attemptOf_of_spoken {text : String} (spoken : Text.isBlankText text = false) :
    attemptOf (.ok (some text :: others)) = .success text := by
  simp [attemptOf, firstText, spoken]

theorem attemptOf_of_blank {choice : Option String} (blank : Text.isBlankText (choice.getD "") = true) :
    attemptOf (.ok (choice :: others)) = .final (.generation "LLM response contained empty content") := by
  simp [attemptOf, firstText, blank]

theorem attemptOf_of_isRateLimit (limited : error.IsRateLimit) :
    attemptOf (.error error) = .final (.generationRateLimit none) := by
  rw [attemptOf, CompletionError.rateLimit?_of_isRateLimit limited, Option.some_or]

theorem attemptOf_of_refuses (unlimited : ¬ error.IsRateLimit) (refuses : error.Refuses words) :
    attemptOf (.error error) = .final (.authentication ("LLM authentication failed: " ++ words)) := by
  rw [attemptOf, CompletionError.rateLimit?_eq_none unlimited, CompletionError.refusal?_of_refuses refuses,
    Option.none_or]

/-- An error that is neither of the two is a failure that asks for another call or does not. -/
theorem attemptOf_of_accepted (unlimited : ¬ error.IsRateLimit) (accepted : ¬ error.IsRefusal) :
    attemptOf (.error error) = if error.isRetryable then .again error.failure else .final error.failure := by
  rw [attemptOf, CompletionError.rateLimit?_eq_none unlimited, CompletionError.refusal?_eq_none accepted,
    Option.none_or]

theorem not_isAgain_attemptOf_ok (choices : List (Option String)) : ¬ (attemptOf (.ok choices)).IsAgain := by
  rw [attemptOf]
  split <;> exact nofun

/-- An error asks for another call if it says that one may succeed and neither of the other two things. -/
theorem isAgain_attemptOf_error_iff :
    (attemptOf (.error error)).IsAgain ↔ ¬ error.IsRateLimit ∧ ¬ error.IsRefusal ∧ error.IsRetryable := by
  by_cases limited : error.IsRateLimit
  · rw [attemptOf_of_isRateLimit limited]
    exact iff_of_false nofun fun tells => tells.1 limited
  by_cases refused : error.IsRefusal
  · obtain ⟨words, refuses⟩ := refused
    rw [attemptOf_of_refuses limited refuses]
    exact iff_of_false nofun fun tells => tells.2.1 ⟨words, refuses⟩
  rw [attemptOf_of_accepted limited refused, ← CompletionError.isRetryable_iff]
  by_cases retryable : error.isRetryable = true
  · rw [if_pos retryable]
    exact iff_of_true (.again _) ⟨limited, refused, retryable⟩
  · rw [if_neg retryable]
    exact iff_of_false nofun fun tells => retryable tells.2.2

/-- **Another call follows the outcomes that do not end the calls.** -/
theorem isAgain_attemptOf_iff (outcome : CallOutcome) : (attemptOf outcome).IsAgain ↔ ¬ EndsCalls outcome := by
  cases outcome with
  | ok choices => exact iff_of_false (not_isAgain_attemptOf_ok choices) (not_not_intro (.answer choices))
  | error error =>
      rw [isAgain_attemptOf_error_iff]
      constructor
      · rintro ⟨unlimited, accepted, retryable⟩ (_ | limited | refused | lost)
        · exact unlimited limited
        · exact accepted refused
        · exact lost retryable
      · intro goesOn
        exact ⟨fun limited => goesOn (.rateLimit limited), fun refused => goesOn (.refusal refused),
          Classical.not_not.mp fun lost => goesOn (.hopeless lost)⟩

/-- Every outcome settles the matter in one way when it is the last. -/
theorem settles_iff : Settles outcome result ↔ result = (attemptOf outcome).outcome := by
  constructor
  · rintro (⟨spoken, others⟩ | ⟨blank, others⟩ | _ | limited | ⟨unlimited, refuses⟩ | ⟨unlimited, accepted⟩)
    · rw [attemptOf_of_spoken spoken, Attempt.outcome]
    · rw [attemptOf_of_blank blank, Attempt.outcome]
    · rfl
    · rw [attemptOf_of_isRateLimit limited, Attempt.outcome]
    · rw [attemptOf_of_refuses unlimited refuses, Attempt.outcome]
    · rw [attemptOf_of_accepted unlimited accepted]
      split <;> rfl
  · rintro rfl
    cases outcome with
    | ok choices =>
        rcases choices with _ | ⟨choice, others⟩
        · exact .noChoice
        by_cases blank : Text.isBlankText (choice.getD "") = true
        · rw [attemptOf_of_blank blank]
          exact .silent blank others
        · cases choice with
          | none => exact absurd rfl blank
          | some text =>
              have spoken : Text.isBlankText text = false := Bool.eq_false_iff.mpr blank
              rw [attemptOf_of_spoken spoken]
              exact .text spoken others
    | error error =>
        by_cases limited : error.IsRateLimit
        · rw [attemptOf_of_isRateLimit limited]
          exact .rateLimit limited
        by_cases refused : error.IsRefusal
        · obtain ⟨words, refuses⟩ := refused
          rw [attemptOf_of_refuses limited refuses]
          exact .refusal limited refuses
        · rw [attemptOf_of_accepted limited refused]
          split <;> exact .failed limited refused

end Attempts

/-! ## All calls -/

/-- **There is always a call left until one settles the matter**, whatever is said when none is. -/
theorem callUntilSettled_eq_attempts (once : Exchange (Attempt Failure String)) (usedUp : Option Failure → Failure)
    (retries : Nat) (last : Option Failure) :
    callUntilSettled once usedUp (retries + 1) last = Exchange.attempts once retries := by
  induction retries generalizing last with
  | zero =>
      -- No call is left after this one, so a failure that asks for another is the result.
      rw [callUntilSettled, Exchange.attempts]
      congr
      funext attempt
      cases attempt <;> rfl
  | succ retries ih =>
      rw [callUntilSettled, Exchange.attempts]
      congr
      funext attempt
      cases attempt with
      | success text | final failure => rfl
      | again failure => exact (if_pos (Nat.succ_pos retries)).trans (ih (some failure))

/-- A message that is not blank is sent. -/
theorem not_isEmpty_sentMessages {messages : List Message}
    (speaks : ∃ message ∈ messages, Text.isBlankText message.content = false) :
    ¬ (sentMessages messages).isEmpty = true := by
  obtain ⟨message, member, spoken⟩ := speaks
  have isSent : message ∈ sentMessages messages := List.mem_filter.mpr ⟨member, by rw [spoken, Bool.not_false]⟩
  rw [List.isEmpty_iff]
  exact List.ne_nil_of_mem isSent

variable {σ : Type}

/-- **The last call settles what a conversation comes to.**  However one call is made (`chat` makes it by
`GenerationClient.call`) and whatever the calls come to, the same call is made again as long as the outcomes do not end
the calls and the limit is not reached, and never after.  The result is that of the last call, which has one only,
whatever the calls before it came to and whatever would be said if none of them settled the matter.  After an error
that there are too many requests, or that the key is not accepted, no other call is made, whatever else it says. -/
theorem chat_settled_by_last_call (client : GenerationClient) (create : Request → Exchange CallOutcome)
    {messages : List Message} (speaks : ∃ message ∈ messages, Text.isBlankText message.content = false)
    (options : GenerationOptions) (server : Request → σ → Reply × σ) (state : σ) :
    let call := create (client.request messages options)
    let outcome := fun number => Exchange.turn server call number state
    ∃ last result, IsLast (fun number => ¬ EndsCalls (outcome number)) client.maxRetries last ∧
      (∀ usedUp, (client.chatBy create usedUp messages options).run server state =
        (result, Exchange.stateAfter server call (last + 1) state)) ∧
      Settles (outcome last) result ∧ (∀ other, Settles (outcome last) other → other = result) ∧
      ∀ number < last, ∀ error, outcome number = .error error → ¬ error.IsRateLimit ∧ ¬ error.IsRefusal := by
  intro call outcome
  obtain ⟨last, isLast, ran⟩ :=
    Exchange.run_attempts server (Exchange.reading call attemptOf) client.maxRetries state
  have ends : IsLast (fun number => ¬ EndsCalls (outcome number)) client.maxRetries last :=
    isLast.congr fun number => by rw [Exchange.turn_reading]; exact isAgain_attemptOf_iff _
  refine ⟨last, (attemptOf (outcome last)).outcome, ends, fun usedUp => ?_, settles_iff.mpr rfl,
    fun other settles => settles_iff.mp settles, fun number sooner error came => ?_⟩
  · rw [chatBy, if_neg (not_isEmpty_sentMessages speaks), callUntilSettled_eq_attempts]
    rw [Exchange.turn_reading, Exchange.stateAfter_reading] at ran
    exact ran
  · have goesOn := ends.before number sooner
    rw [came] at goesOn
    exact ⟨fun limited => goesOn (.rateLimit limited), fun refused => goesOn (.refusal refused)⟩

/-- An error that says both that there are too many requests and that another call may succeed. -/
def ambiguous : ServiceError := { message := "Rate limit reached" }

/-- Calls without an answer, then with a failure of the server, then with that error. -/
def overloaded : Nat → CallOutcome
  | 0 => .error (.transport none "closed")
  | 1 => .error (.transport (some 503) "unavailable")
  | _ + 2 => .error (.service ambiguous)

/-- A client that would make six calls. -/
def patient : GenerationClient :=
  { baseUrl := "http://localhost", apiKey := none, model := "m", timeout := 1, maxRetries := 5, temperature := none }

theorem chat_settled_by_last_call_of_overloaded :
    (∃ message ∈ [Message.user "hi"], Text.isBlankText message.content = false) ∧
      CompletionError.IsRetryable (.service ambiguous) ∧
      (patient.chatBy (Exchange.inTurn overloaded) callsUsedUp [.user "hi"] {}).run
          (Exchange.answering Exchange.numbered) [] =
        (.error (.generationRateLimit none), List.replicate 3 (patient.request [.user "hi"] {})) := by
  have speaks : ∃ message ∈ [Message.user "hi"], Text.isBlankText message.content = false :=
    ⟨_, List.mem_singleton_self _, by decide +kernel⟩
  have limited : CompletionError.IsRateLimit (.service ambiguous) := .said (by decide +kernel)
  have third : IsLast (fun number => ¬ EndsCalls (overloaded number)) 5 2 := by
    refine ⟨by decide, fun earlier sooner => ?_, fun _ goesOn => goesOn (.rateLimit limited)⟩
    rw [← isAgain_attemptOf_iff]
    obtain rfl | rfl : earlier = 0 ∨ earlier = 1 := by omega
    · exact .again _
    · exact .again _
  obtain ⟨last, result, isLast, ran, settles, -⟩ := chat_settled_by_last_call patient (Exchange.inTurn overloaded)
    speaks {} (Exchange.answering Exchange.numbered) []
  simp only [Exchange.turn_inTurn] at isLast settles
  obtain rfl : last = 2 := third.unique isLast
  have settled : result = .error (.generationRateLimit none) := settles_iff.mp settles
  rw [Exchange.stateAfter_inTurn, settled] at ran
  exact ⟨speaks, .unclassified rfl rfl, ran callsUsedUp⟩

end GenerationClient

end NoteDialogue
