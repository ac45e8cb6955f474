import NoteDialogue.Proofs.Retrieval

/-!
# How interactions end

As long as every answer is allowed an interaction may be sure not to crash, to come only to results of one
kind, and to fail only with failures of another (`Ends`).  The ending of what is put together from parts
follows from those of the parts, and says how every course with allowed answers ends (`Ends.of_takes`).

A failure is harmless to a search when it does not come from a provider; a search with no other failures,
whose query is embedded, fails with no other (`search_ends`).
-/

set_option autoImplicit false

namespace NoteDialogue

namespace Interaction

variable {α β σ : Type} {allowed : Answered → Prop} {result between : α → Prop} {last : β → Prop}
  {failure : Failure → Prop}

/-- As long as all answers are allowed, there are results of one kind, failures of another, and no
crashes. -/
def Ends (allowed : Answered → Prop) (result : α → Prop) (failure : Failure → Prop) :
    Interaction α → Prop
  | .done value => result value
  | .failed reason => failure reason
  | .crashed => False
  | .ask question next =>
      ∀ answer, allowed ⟨question, answer⟩ → (next answer).Ends allowed result failure

theorem Ends.andThen {first : Interaction α} {next : α → Interaction β}
    (ends : first.Ends allowed between failure)
    (nextEnds : ∀ value, between value → (next value).Ends allowed last failure) :
    (first.andThen next).Ends allowed last failure := by
  induction first with
  | done value => exact nextEnds value ends
  | failed reason => exact ends
  | crashed => exact ends.elim
  | ask question rest ih => exact fun answer allows => ih answer (ends answer allows)

/-- A failure as a result is no failure. -/
theorem Ends.attempt {interaction : Interaction α} (ends : interaction.Ends allowed result failure) :
    interaction.attempt.Ends allowed
      (fun outcome => match outcome with
        | .ok value => result value
        | .error reason => failure reason)
      (fun _ => False) := by
  induction interaction with
  | done value => exact ends
  | failed reason => exact ends
  | crashed => exact ends
  | ask question next ih => exact fun answer allows => ih answer (ends answer allows)

theorem Ends.forEach {action : α → Interaction β}
    (ends : ∀ item, (action item).Ends allowed last failure) (items : List α) :
    (Interaction.forEach action items).Ends allowed (fun results => ∀ value ∈ results, last value)
      failure := by
  induction items with
  | nil => exact List.forall_mem_nil _
  | cons item rest ih =>
      exact (ends item).andThen fun _ isLast =>
        ih.andThen fun _ areLast => List.forall_mem_cons.mpr ⟨isLast, areLast⟩

/-- A kind of ending. -/
def IsEnding (result : α → Prop) (failure : Failure → Prop) : Ending α → Prop
  | .done value => result value
  | .failed reason => failure reason
  | .crashed => False
  | .brokenOff => True

/-- How a course with allowed answers ends, unless it is broken off. -/
theorem Ends.of_takes {interaction : Interaction α} {course : Course} {ending : Ending α}
    (ends : interaction.Ends allowed result failure) (taken : interaction.Takes course ending)
    (allAllowed : ∀ step ∈ course, allowed step) : IsEnding result failure ending := by
  induction taken with
  | done | failed => exact ends
  | crashed => exact ends.elim
  | brokenOff => trivial
  | ask question next answer _ ih =>
      obtain ⟨allows, rest⟩ := List.forall_mem_cons.mp allAllowed
      exact ih (ends answer allows) rest

/-- After a part that never fails there is a course of the other part. -/
theorem takes_andThen_of_ends {first : Interaction α} {next : α → Interaction β} {course : Course}
    {ending : Ending β} (ends : first.Ends (fun _ => True) (fun _ => True) (fun _ => False))
    (taken : (first.andThen next).Takes course ending) (finished : ending ≠ .brokenOff) :
    ∃ before after value, course = before ++ after ∧ first.Takes before (.done value) ∧
      (next value).Takes after ending := by
  induction first generalizing course with
  | done value => exact ⟨[], course, value, rfl, .done value, taken⟩
  | failed | crashed => exact ends.elim
  | ask question rest ih =>
      rcases takes_ask.mp taken with ⟨-, broken⟩ | ⟨answer, others, rfl, further⟩
      · exact absurd broken finished
      · obtain ⟨before, after, value, rfl, early, late⟩ := ih answer (ends answer trivial) further
        exact ⟨⟨question, answer⟩ :: before, after, value, rfl, .ask _ _ _ early, late⟩

/-! ## What is asked first -/

/-- If anything is asked, it is a question of some kind that is asked first. -/
def Begins (kind : Ask → Prop) : Interaction α → Prop
  | .ask question _ => kind question
  | .done _ | .failed _ | .crashed => True

variable {kind : Ask → Prop}

theorem Begins.andThen {first : Interaction α} {next : α → Interaction β} (begins : first.Begins kind)
    (nextBegins : ∀ value, (next value).Begins kind) : (first.andThen next).Begins kind := by
  cases first with
  | done value => exact nextBegins value
  | failed | crashed => trivial
  | ask question rest => exact begins

theorem Begins.of_takes {interaction : Interaction α} {step : Answered} {rest : Course}
    {ending : Ending α} (begins : interaction.Begins kind)
    (taken : interaction.Takes (step :: rest) ending) : kind step.question := by
  cases taken with
  | ask question next answer further => exact begins

/-- In a world that leaves nothing unanswered a course is not broken off. -/
theorem trace_ne_brokenOff {world : World σ}
    (answers : ∀ question state, (world.answer question state).1.isSome = true)
    (interaction : Interaction α) (state : σ) : (interaction.trace world state).1 ≠ .brokenOff := by
  induction interaction generalizing state with
  | done | failed | crashed => exact nofun
  | ask question next ih =>
      have answered := answers question state
      rcases given : world.answer question state with ⟨_ | answer, after⟩
      · rw [given] at answered
        cases answered
      · simp only [trace, given]
        exact ih answer after

end Interaction

/-! ## Searches -/

open Interaction

/-- Whether an answer came in time and is no failure. -/
def TimedAnswer.isGiven {α : Type} : TimedAnswer α → Bool
  | .inTime (.ok _) => true
  | .inTime (.error _) | .late => false

/-- Whether a lookup failed, if it did, for a reason other than a provider. -/
def isMinor {α : Type} : Except Failure α → Bool
  | .ok _ => true
  | .error failure => !failure.isFromProvider

/-- Answers that writing a reply and searching can do with: the reply is written, the query is embedded,
and where notes are looked up it is not a provider that fails. -/
def isBearable : Answered → Bool
  | ⟨.generate .answering _ _ _, answer⟩ => TimedAnswer.isGiven (α := String) answer
  | ⟨.embedQuery _ _, answer⟩ => TimedAnswer.isGiven (α := Vector32) answer
  | ⟨.lookUp (.noteById _ _), answer⟩ => isMinor (α := Option Note) answer
  | ⟨.lookUp (.notesByTerms _ _ _ _), answer⟩ => isMinor (α := List Note) answer
  | ⟨.lookUp (.similarChunks _ _ _ _), answer⟩ => isMinor (α := List ChunkHit) answer
  | _ => true

/-- What can be borne. -/
abbrev IsBearable (step : Answered) : Prop := isBearable step = true

/-- A failure that does not end a turn. -/
abbrev IsMinor (failure : Failure) : Prop := failure.isFromProvider = false

theorem Interaction.Ends.ofExcept_minor {α : Type} {allowed : Answered → Prop}
    {outcome : Except Failure α} (minor : isMinor outcome = true) :
    (Interaction.ofExcept outcome).Ends allowed (fun _ => True) IsMinor := by
  cases outcome with
  | ok value => trivial
  | error failure => exact (Bool.not_eq_true' _).mp minor

namespace Retrieval

variable {config : RetrievalConfig} {ownerId query : String} {filter : NoteFilter}

theorem queryEmbedding_ends :
    (queryEmbedding config query).Ends IsBearable (fun _ => True) IsMinor := by
  intro remembered _
  cases remembered with
  | some embedding => trivial
  | none =>
      intro made given
      rcases made with (failure | embedding) | _
      · cases given
      · exact fun _ _ => trivial
      · cases given

theorem lookUpHit_ends (hit : ChunkHit) :
    (lookUpHit ownerId hit).Ends IsBearable (fun _ => True) IsMinor := by
  intro answer minor
  exact (Ends.ofExcept_minor minor).andThen fun _ _ => trivial

theorem semantic_ends : (semantic config ownerId query).Ends IsBearable (fun _ => True) IsMinor := by
  refine queryEmbedding_ends.andThen fun embedding _ live _ answer minor => ?_
  refine (Ends.ofExcept_minor minor).andThen fun hits _ => ?_
  exact (Ends.forEach lookUpHit_ends _).andThen fun _ _ => trivial

theorem literal_ends {terms : String} :
    (literal config ownerId terms filter).Ends IsBearable (fun _ => True) IsMinor := by
  intro answer minor
  exact (Ends.ofExcept_minor minor).andThen fun _ _ => trivial

/-- **A search fails only with failures that do not end a turn.** -/
theorem search_ends :
    (search config ownerId query filter).Ends IsBearable (fun _ => True) IsMinor := by
  have finds : (find config ownerId query filter).Ends IsBearable (fun _ => True) IsMinor := by
    cases called : wordSearch? query filter with
    | some words =>
        rw [find_of_words called]
        exact literal_ends.andThen fun _ _ => trivial
    | none =>
        rw [find_of_meaning called]
        exact semantic_ends.andThen fun _ _ => trivial
  rw [search_eq]
  exact finds.andThen fun found _ live _ => trivial

end Retrieval

end NoteDialogue
