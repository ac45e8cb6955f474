import NoteDialogue.Proofs.Retrieval

/-!
# Calls of providers

Most questions are answered by what the program holds itself; some are calls of a provider, which take
time and cost money.  An interaction keeps to a plan of calls when, whatever is answered and wherever the
course ends, the calls that it makes are some of those in the plan and come in their order
(`Interaction.Calls`).  The plan of what is put together from parts is put together from the plans of the
parts (`Calls.andThen`).

A call that is never answered is made all the same.  It would be the next step of a course if it were
answered, so that the plans of courses bound what is asked in any run (`Interaction.run_overheard`).

Looking something up needs no call, and a search calls the embedder once at most (`search_calls`).
-/

set_option autoImplicit false

namespace NoteDialogue

/-- What a provider is called for. -/
inductive ProviderCall
  | embedding
  | planning
  | answering
  deriving DecidableEq, Repr

/-- The call that a question is, if a provider has to answer it. -/
def Ask.providerCall? : Ask → Option ProviderCall
  | .generate .planning _ _ _ => some .planning
  | .generate .answering _ _ _ => some .answering
  | .embedQuery _ _ | .embedPassages _ => some .embedding
  | .lookUp _ => none

/-- The calls of providers in a course, in order. -/
def providerCalls (course : Course) : List ProviderCall :=
  course.filterMap (fun step => step.question.providerCall?)

/-- The calls of providers among some questions, in order. -/
def callsAmong (asked : List Ask) : List ProviderCall := asked.filterMap Ask.providerCall?

theorem callsAmong_questions (course : Course) :
    callsAmong (course.map (·.question)) = providerCalls course :=
  List.filterMap_map

theorem providerCalls_append (before after : Course) :
    providerCalls (before ++ after) = providerCalls before ++ providerCalls after :=
  List.filterMap_append

/-- Whether a question is answered by what the program holds itself. -/
abbrev Ask.NeedsNoCall (question : Ask) : Prop := question.providerCall? = none

theorem providerCalls_eq_nil {course : Course}
    (none : ∀ step ∈ course, step.question.NeedsNoCall) : providerCalls course = [] :=
  List.filterMap_eq_nil_iff.mpr none

namespace Interaction

variable {α β : Type} {first : Interaction α} {next : α → Interaction β} {course : Course}
  {plan early late : List ProviderCall}

/-! ## Courses of two interactions in a row -/

/-- A course of two interactions in a row is one of the first that comes to no result, or a finished
course of the first followed by one of the second. -/
theorem takes_andThen {ending : Ending β} (taken : (first.andThen next).Takes course ending) :
    (∃ stopped, first.Takes course stopped ∧ ∀ value, stopped ≠ .done value) ∨
      ∃ before after value, course = before ++ after ∧ first.Takes before (.done value) ∧
        (next value).Takes after ending := by
  induction first generalizing course with
  | done value => exact .inr ⟨[], course, value, rfl, .done value, taken⟩
  | failed failure =>
      obtain ⟨rfl, -⟩ := takes_failed.mp taken
      exact .inl ⟨_, .failed failure, nofun⟩
  | crashed =>
      obtain ⟨rfl, -⟩ := takes_crashed.mp taken
      exact .inl ⟨_, .crashed, nofun⟩
  | ask question rest ih =>
      rcases takes_ask.mp taken with ⟨rfl, -⟩ | ⟨answer, others, rfl, further⟩
      · exact .inl ⟨_, .brokenOff question rest, nofun⟩
      · rcases ih answer further with
          ⟨stopped, takes, unfinished⟩ | ⟨before, after, value, rfl, takes, later⟩
        · exact .inl ⟨stopped, .ask question rest answer takes, unfinished⟩
        · exact .inr ⟨⟨question, answer⟩ :: before, after, value, rfl,
            .ask question rest answer takes, later⟩

/-- A course in which failures are results is a course. -/
theorem exists_takes_of_attempt {ending : Ending (Except Failure α)}
    (taken : first.attempt.Takes course ending) : ∃ same, first.Takes course same := by
  induction first generalizing course with
  | done value =>
      obtain ⟨rfl, -⟩ := takes_done.mp taken
      exact ⟨_, .done value⟩
  | failed failure =>
      obtain ⟨rfl, -⟩ := takes_done.mp taken
      exact ⟨_, .failed failure⟩
  | crashed =>
      obtain ⟨rfl, -⟩ := takes_crashed.mp taken
      exact ⟨_, .crashed⟩
  | ask question rest ih =>
      rcases takes_ask.mp taken with ⟨rfl, -⟩ | ⟨answer, others, rfl, further⟩
      · exact ⟨_, .brokenOff question rest⟩
      · obtain ⟨same, takes⟩ := ih answer further
        exact ⟨same, .ask question rest answer takes⟩

/-! ## Plans of calls -/

/-- Whatever is answered and wherever the course ends, the calls that are made are some of these, in this
order. -/
def Calls (plan : List ProviderCall) (interaction : Interaction α) : Prop :=
  ∀ course ending, interaction.Takes course ending → (providerCalls course).Sublist plan

theorem Calls.mono (calls : first.Calls early) (within : early.Sublist late) : first.Calls late :=
  fun course ending taken => (calls course ending taken).trans within

/-- The calls of two interactions in a row. -/
theorem Calls.andThen (calls : first.Calls early) (nextCalls : ∀ value, (next value).Calls late) :
    (first.andThen next).Calls (early ++ late) := by
  intro course ending taken
  rcases takes_andThen taken with ⟨stopped, takes, -⟩ | ⟨before, after, value, rfl, takes, later⟩
  · exact (calls course stopped takes).trans (List.sublist_append_left early late)
  · rw [providerCalls_append]
    exact (calls before _ takes).append (nextCalls value after ending later)

/-- What makes no calls adds nothing to those before it. -/
theorem Calls.andThen_quiet (calls : first.Calls plan) (quiet : ∀ value, (next value).Calls []) :
    (first.andThen next).Calls plan := by
  have both := calls.andThen quiet
  rwa [List.append_nil] at both

/-- What makes no calls has come to its result before any call is made. -/
theorem Calls.takes_later {ending : Ending β} (quiet : first.Calls [])
    (taken : (first.andThen next).Takes course ending) (some : providerCalls course ≠ []) :
    ∃ before after value, course = before ++ after ∧ providerCalls before = [] ∧
      first.Takes before (.done value) ∧ (next value).Takes after ending := by
  rcases takes_andThen taken with ⟨stopped, takes, -⟩ | ⟨before, after, value, rfl, takes, later⟩
  · exact absurd (List.sublist_nil.mp (quiet course stopped takes)) some
  · exact ⟨before, after, value, rfl, List.sublist_nil.mp (quiet before _ takes), takes, later⟩

theorem Calls.attempt (calls : first.Calls plan) : first.attempt.Calls plan := by
  intro course ending taken
  obtain ⟨same, takes⟩ := exists_takes_of_attempt taken
  exact calls course same takes

/-- What ends at once makes no calls. -/
theorem Calls.done (value : α) : (Interaction.done value).Calls plan := by
  intro course ending taken
  obtain ⟨rfl, -⟩ := takes_done.mp taken
  exact List.nil_sublist plan

theorem Calls.failed (failure : Failure) : (Interaction.failed failure : Interaction α).Calls plan := by
  intro course ending taken
  obtain ⟨rfl, -⟩ := takes_failed.mp taken
  exact List.nil_sublist plan

theorem Calls.crashed : (Interaction.crashed : Interaction α).Calls plan := by
  intro course ending taken
  obtain ⟨rfl, -⟩ := takes_crashed.mp taken
  exact List.nil_sublist plan

theorem Calls.ofExcept (result : Except Failure α) : (Interaction.ofExcept result).Calls plan := by
  cases result with
  | ok value => exact .done value
  | error failure => exact .failed failure

/-- A question is one call at most. -/
theorem Calls.request (question : Ask) :
    (Interaction.request question).Calls question.providerCall?.toList := by
  intro course ending taken
  rcases takes_ask.mp taken with ⟨rfl, -⟩ | ⟨answer, rest, rfl, further⟩
  · exact List.nil_sublist _
  · obtain ⟨rfl, -⟩ := takes_done.mp further
    cases call : question.providerCall? <;> simp [providerCalls, call]

/-- What only asks the program itself makes no calls. -/
theorem AsksOnly.calls (asks : first.AsksOnly Ask.NeedsNoCall) : first.Calls [] := by
  intro course ending taken
  rw [providerCalls_eq_nil (taken.asked asks)]

end Interaction

/-! ## Questions without an answer -/

/-- The world that also writes down what it is asked, whether or not it answers. -/
def World.overheard {σ : Type} (world : World σ) : World (σ × List Ask) where
  answer question state :=
    let (answer, after) := world.answer question state.1
    (answer, (after, state.2 ++ [question]))

/-- Every question has an answer. -/
theorem Ask.exists_answer (question : Ask) : Nonempty question.Answer := by
  cases question with
  | generate | embedQuery => exact ⟨.late⟩
  | embedPassages => exact ⟨.error .cancelled⟩
  | lookUp lookup =>
      cases lookup with
      | setting | recollect => exact ⟨none⟩
      | remember => exact ⟨()⟩
      | style | noteById | notesByTitle | notesByText | notesByTerms | similarChunks =>
          exact ⟨.error .cancelled⟩

namespace Interaction

variable {α σ : Type}

/-- Before anything is answered there is a course. -/
theorem exists_takes_nil (interaction : Interaction α) : ∃ ending, interaction.Takes [] ending := by
  cases interaction with
  | done result => exact ⟨_, .done result⟩
  | failed failure => exact ⟨_, .failed failure⟩
  | crashed => exact ⟨_, .crashed⟩
  | ask question next => exact ⟨_, .brokenOff question next⟩

/-- What is asked in a run is what is asked in the course that is taken, or in one that goes a single
answer further. -/
theorem run_overheard (world : World σ) (interaction : Interaction α) (state : σ) (record : Course)
    (heard : List Ask) :
    ∃ course ahead further, interaction.Takes course (interaction.run world state).1 ∧
      interaction.Takes (course ++ ahead) further ∧ ahead.length ≤ 1 ∧
      (ahead ≠ [] → (interaction.run world state).1 = .brokenOff) ∧
      interaction.run world.recorded.overheard ((state, record), heard) =
        ((interaction.run world state).1, ((interaction.run world state).2, record ++ course),
          heard ++ (course ++ ahead).map (·.question)) := by
  induction interaction generalizing state record heard with
  | done result =>
      refine ⟨[], [], _, .done result, .done result, by simp, by simp, ?_⟩
      simp only [List.append_nil, List.map_nil]
      rfl
  | failed failure =>
      refine ⟨[], [], _, .failed failure, .failed failure, by simp, by simp, ?_⟩
      simp only [List.append_nil, List.map_nil]
      rfl
  | crashed =>
      refine ⟨[], [], _, .crashed, .crashed, by simp, by simp, ?_⟩
      simp only [List.append_nil, List.map_nil]
      rfl
  | ask question next ih =>
      rcases given : world.answer question state with ⟨_ | answer, after⟩
      · -- The question stays without an answer; with any answer the course would go on.
        obtain ⟨answer⟩ := question.exists_answer
        obtain ⟨further, takes⟩ := exists_takes_nil (next answer)
        simp only [run, World.overheard, World.recorded, given]
        exact ⟨[], [⟨question, answer⟩], further, .brokenOff question next,
          .ask question next answer takes, by simp, by simp, by simp⟩
      · obtain ⟨course, ahead, further, taken, takes, short, unfinished, runs⟩ :=
          ih answer after (record ++ [⟨question, answer⟩]) (heard ++ [question])
        refine ⟨⟨question, answer⟩ :: course, ahead, further, ?_, .ask question next answer takes,
          short, ?_, ?_⟩
        · simp only [run, given]
          exact .ask question next answer taken
        · simpa only [run, given] using unfinished
        · simp only [run, World.overheard, World.recorded, given]
          simp only [World.overheard, World.recorded] at runs
          rw [runs]
          simp

end Interaction

/-! ## Searches -/

namespace Retrieval

open Interaction

variable (config : RetrievalConfig) (ownerId query : String)

/-- The embedding of a query is remembered, or one call. -/
theorem queryEmbedding_calls : (queryEmbedding config query).Calls [.embedding] := by
  refine Calls.andThen (.request (.lookUp (.recollect query))) fun remembered => ?_
  cases remembered with
  | some embedding => exact .done embedding
  | none =>
      refine Calls.andThen (.request (.embedQuery query config.embeddingTimeout)) fun made => ?_
      rcases made with (failure | embedding) | _
      · exact .failed failure
      · exact AsksOnly.calls (.andThen (.lookUp rfl) fun _ => trivial)
      · exact .failed _

/-- The notes of some hits are looked up without a call. -/
theorem lookUpHit_asksOnly (hit : ChunkHit) : (lookUpHit ownerId hit).AsksOnly Ask.NeedsNoCall :=
  AsksOnly.andThen (.lookUp rfl) fun note => (AsksOnly.ofExcept note).andThen fun _ => trivial

theorem semantic_calls : (semantic config ownerId query).Calls [.embedding] := by
  refine Calls.andThen (queryEmbedding_calls config query) fun embedding => AsksOnly.calls ?_
  refine AsksOnly.andThen (.lookUp rfl) fun live => AsksOnly.andThen (.lookUp rfl) fun hits => ?_
  refine (AsksOnly.ofExcept hits).andThen fun hits => ?_
  exact (AsksOnly.forEach (lookUpHit_asksOnly ownerId) _).andThen fun _ => trivial

theorem literal_calls (terms : String) (filter : NoteFilter) :
    (literal config ownerId terms filter).Calls [] :=
  AsksOnly.calls (.andThen (.lookUp rfl) fun notes => (AsksOnly.ofExcept notes).andThen fun _ => trivial)

/-- **A search calls the embedder once at most**, and no model. -/
theorem search_calls (filter : NoteFilter) :
    (search config ownerId query filter).Calls [.embedding] := by
  have finds : (find config ownerId query filter).Calls [.embedding] := by
    cases called : wordSearch? query filter with
    | some words =>
        rw [find_of_words called]
        exact (Calls.andThen (literal_calls config ownerId _ _) fun _ => .done _).mono
          (List.nil_sublist _)
    | none =>
        rw [find_of_meaning called]
        exact Calls.andThen (semantic_calls config ownerId query) fun _ => .done _
  rw [search_eq]
  exact finds.andThen fun found => AsksOnly.calls (.andThen (.lookUp rfl) fun live => trivial)

end Retrieval

end NoteDialogue
