import NoteDialogue.Interaction

/-!
# Courses of interactions

The questions that an interaction asked, with the answers that it got, are its course.  An interaction
takes a course when it asks these questions in this order and goes on with these answers (`Takes`).
Nothing is assumed of the answers: what holds for every course holds for every behaviour of the model,
the embedder and the stores.

A course of an interaction that was put together from parts is put together from courses of the parts.
Two courses of one interaction that agree as far as they go are the same course (`Takes.unique`).

Worlds come in by three laws.  Running an interaction in a world takes a course (`trace`), of which every
answer keeps to what the world promises (`exists_takes_run`); a world that keeps a record is left with
exactly that course (`run_recorded`); and a world that is cut short either breaks the course off or
changes nothing about its ending (`run_cutShort`).
-/

set_option autoImplicit false

namespace NoteDialogue

/-- A question with the answer that it got. -/
structure Answered where
  question : Ask
  answer : question.Answer

/-- Questions with their answers, in the order in which they were asked. -/
abbrev Course := List Answered

/-- What text is asked of the model for, if a question is one to the model. -/
def Ask.purpose? : Ask → Option GenerationPurpose
  | .generate purpose _ _ _ => some purpose
  | _ => none

namespace Interaction

variable {α β σ : Type}

/-- An interaction takes a course and comes to an ending. -/
inductive Takes : Interaction α → Course → Ending α → Prop where
  | done (result : α) : Takes (.done result) [] (.done result)
  | failed (failure : Failure) : Takes (.failed failure) [] (.failed failure)
  | crashed : Takes .crashed [] .crashed
  | brokenOff (question : Ask) (next : question.Answer → Interaction α) :
      Takes (.ask question next) [] .brokenOff
  | ask (question : Ask) (next : question.Answer → Interaction α) (answer : question.Answer)
      {course : Course} {ending : Ending α} :
      Takes (next answer) course ending →
        Takes (.ask question next) (⟨question, answer⟩ :: course) ending

/-- Every question that an interaction may come to is of some kind, and it never crashes. -/
def AsksOnly (kind : Ask → Prop) : Interaction α → Prop
  | .done _ | .failed _ => True
  | .crashed => False
  | .ask question next => kind question ∧ ∀ answer, (next answer).AsksOnly kind

/-! ## Courses of the parts of an interaction -/

theorem bind_eq_andThen (first : Interaction α) (next : α → Interaction β) :
    (first >>= next) = first.andThen next := rfl

theorem andThen_assoc {γ : Type} (first : Interaction α) (second : α → Interaction β)
    (third : β → Interaction γ) :
    (first.andThen second).andThen third = first.andThen fun value => (second value).andThen third := by
  induction first with
  | done | failed | crashed => rfl
  | ask question rest ih => exact congrArg (Interaction.ask question) (funext ih)

/-- What is done for the items of two lists, one list after the other. -/
theorem forEach_append (action : α → Interaction β) (items others : List α) :
    forEach action (items ++ others) =
      (forEach action items).andThen fun results =>
        (forEach action others).andThen fun more => .done (results ++ more) := by
  have ends (interaction : Interaction (List β)) : interaction.andThen .done = interaction := by
    induction interaction with
    | done | failed | crashed => rfl
    | ask question next ih => exact congrArg (Interaction.ask question) (funext ih)
  induction items with
  | nil => exact (ends _).symm
  | cons item rest ih =>
      simp only [List.cons_append, forEach, ih, andThen_assoc, andThen]

/-- What is made of the result for each item may as well be made of all results at the end. -/
theorem forEach_andThen_done {γ : Type} (action : α → Interaction β) (make : β → γ) (items : List α) :
    (forEach (fun item => (action item).andThen fun result => .done (make result)) items) =
      (forEach action items).andThen fun results => .done (results.map make) := by
  induction items with
  | nil => rfl
  | cons item rest ih => simp only [forEach, ih, andThen_assoc, andThen, List.map_cons]

theorem takes_done {result : α} {course : Course} {ending : Ending α} :
    (Interaction.done result).Takes course ending ↔ course = [] ∧ ending = .done result := by
  constructor
  · intro taken
    cases taken
    exact ⟨rfl, rfl⟩
  · rintro ⟨rfl, rfl⟩
    exact .done result

theorem takes_failed {failure : Failure} {course : Course} {ending : Ending α} :
    (Interaction.failed failure : Interaction α).Takes course ending ↔
      course = [] ∧ ending = .failed failure := by
  constructor
  · intro taken
    cases taken
    exact ⟨rfl, rfl⟩
  · rintro ⟨rfl, rfl⟩
    exact .failed failure

theorem takes_crashed {course : Course} {ending : Ending α} :
    (Interaction.crashed : Interaction α).Takes course ending ↔ course = [] ∧ ending = .crashed := by
  constructor
  · intro taken
    cases taken
    exact ⟨rfl, rfl⟩
  · rintro ⟨rfl, rfl⟩
    exact .crashed

/-- A question is left unanswered, and the course ends there, or it is answered. -/
theorem takes_ask {question : Ask} {next : question.Answer → Interaction α} {course : Course}
    {ending : Ending α} :
    (Interaction.ask question next).Takes course ending ↔
      (course = [] ∧ ending = .brokenOff) ∨
        ∃ answer rest, course = ⟨question, answer⟩ :: rest ∧ (next answer).Takes rest ending := by
  constructor
  · intro taken
    cases taken with
    | brokenOff => exact .inl ⟨rfl, rfl⟩
    | ask _ _ answer rest => exact .inr ⟨answer, _, rfl, rest⟩
  · rintro (⟨rfl, rfl⟩ | ⟨answer, rest, rfl, taken⟩)
    · exact .brokenOff question next
    · exact .ask question next answer taken

/-- A single question that is answered. -/
theorem takes_request_done {question : Ask} {course : Course} {answer : question.Answer} :
    (request question).Takes course (.done answer) ↔ course = [⟨question, answer⟩] := by
  simp only [request, takes_ask, takes_done, reduceCtorEq, and_false, false_or]
  constructor
  · rintro ⟨given, rest, rfl, rfl, same⟩
    cases same
    rfl
  · rintro rfl
    exact ⟨answer, [], rfl, rfl, rfl⟩

theorem takes_lookUp_done {lookup : Lookup} {course : Course} {answer : lookup.Answer} :
    (lookUp lookup).Takes course (.done answer) ↔ course = [⟨.lookUp lookup, answer⟩] :=
  @takes_request_done (.lookUp lookup) course answer

theorem takes_ofExcept_done {result : Except Failure α} {course : Course} {value : α} :
    (ofExcept result).Takes course (.done value) ↔ course = [] ∧ result = .ok value := by
  cases result with
  | ok given =>
      simp only [ofExcept, takes_done, Ending.done.injEq, Except.ok.injEq]
      exact ⟨fun ⟨empty, same⟩ => ⟨empty, same.symm⟩, fun ⟨empty, same⟩ => ⟨empty, same.symm⟩⟩
  | error failure => simp [ofExcept, takes_failed]

/-- A finished course of two interactions in a row is a finished course of the first, followed by one of
the second. -/
theorem takes_andThen_done {first : Interaction α} {next : α → Interaction β} {course : Course}
    {result : β} :
    (first.andThen next).Takes course (.done result) ↔
      ∃ before after value, course = before ++ after ∧ first.Takes before (.done value) ∧
        (next value).Takes after (.done result) := by
  induction first generalizing course with
  | done given =>
      simp only [andThen, takes_done, Ending.done.injEq]
      constructor
      · intro taken
        exact ⟨[], course, given, rfl, ⟨rfl, rfl⟩, taken⟩
      · rintro ⟨_, after, value, rfl, ⟨rfl, rfl⟩, taken⟩
        exact taken
  | failed failure => simp [andThen, takes_failed]
  | crashed => simp [andThen, takes_crashed]
  | ask question rest ih =>
      simp only [andThen, takes_ask, reduceCtorEq, and_false, false_or, ih]
      constructor
      · rintro ⟨answer, _, rfl, before, after, value, rfl, first, second⟩
        exact ⟨⟨question, answer⟩ :: before, after, value, rfl, ⟨answer, before, rfl, first⟩, second⟩
      · rintro ⟨_, after, value, rfl, ⟨answer, before, rfl, first⟩, second⟩
        exact ⟨answer, before ++ after, rfl, before, after, value, rfl, first, second⟩

theorem takes_attempt_ok {first : Interaction α} {course : Course} {result : α} :
    first.attempt.Takes course (.done (.ok result)) ↔ first.Takes course (.done result) := by
  induction first generalizing course with
  | done given => simp [attempt, takes_done]
  | failed failure => simp [attempt, takes_failed, takes_done]
  | crashed => simp [attempt, takes_crashed]
  | ask question rest ih => simp only [attempt, takes_ask, reduceCtorEq, and_false, false_or, ih]

theorem takes_attempt_error {first : Interaction α} {course : Course} {failure : Failure} :
    first.attempt.Takes course (.done (.error failure)) ↔ first.Takes course (.failed failure) := by
  induction first generalizing course with
  | done given => simp [attempt, takes_done]
  | failed failure => simp [attempt, takes_failed, takes_done]
  | crashed => simp [attempt, takes_crashed]
  | ask question rest ih => simp only [attempt, takes_ask, reduceCtorEq, and_false, false_or, ih]

/-- An interaction that was not broken off takes no two courses of which one goes on where the other
ends. -/
theorem Takes.unique {interaction : Interaction α} {first second : Course}
    {oneEnding otherEnding : Ending α} (one : interaction.Takes first oneEnding)
    (other : interaction.Takes second otherEnding) (oneFinished : oneEnding ≠ .brokenOff)
    (otherFinished : otherEnding ≠ .brokenOff) {firstRest secondRest : Course}
    (agree : first ++ firstRest = second ++ secondRest) :
    first = second ∧ oneEnding = otherEnding ∧ firstRest = secondRest := by
  induction one generalizing second with
  | done result | failed failure | crashed =>
      cases other
      exact ⟨rfl, rfl, agree⟩
  | brokenOff question next => exact absurd rfl oneFinished
  | ask question next answer _ ih =>
      cases other with
      | brokenOff => exact absurd rfl otherFinished
      | ask _ _ otherAnswer otherTaken =>
          simp only [List.cons_append, List.cons.injEq, Answered.mk.injEq, heq_eq_eq, true_and]
            at agree
          obtain ⟨rfl, restAgree⟩ := agree
          obtain ⟨rfl, sameEnding, sameRest⟩ := ih otherTaken oneFinished restAgree
          exact ⟨rfl, sameEnding, sameRest⟩

/-! ## What an interaction may ask -/

section AsksOnly

variable {kind more : Ask → Prop}

theorem AsksOnly.mono {interaction : Interaction α} (asks : interaction.AsksOnly kind)
    (weaker : ∀ question, kind question → more question) : interaction.AsksOnly more := by
  induction interaction with
  | done | failed => trivial
  | crashed => exact asks
  | ask question next ih => exact ⟨weaker question asks.1, fun answer => ih answer (asks.2 answer)⟩

theorem AsksOnly.andThen {first : Interaction α} {next : α → Interaction β}
    (asks : first.AsksOnly kind) (nextAsks : ∀ value, (next value).AsksOnly kind) :
    (first.andThen next).AsksOnly kind := by
  induction first with
  | done result => exact nextAsks result
  | failed => trivial
  | crashed => exact asks.elim
  | ask question rest ih => exact ⟨asks.1, fun answer => ih answer (asks.2 answer)⟩

theorem AsksOnly.forEach {action : α → Interaction β} (asks : ∀ item, (action item).AsksOnly kind) :
    ∀ items, (Interaction.forEach action items).AsksOnly kind
  | [] => trivial
  | item :: rest =>
      (asks item).andThen fun _ => (AsksOnly.forEach asks rest).andThen fun _ => trivial

theorem AsksOnly.ofExcept (result : Except Failure α) :
    (Interaction.ofExcept result).AsksOnly kind := by
  cases result <;> trivial

theorem AsksOnly.lookUp {lookup : Lookup} (isKind : kind (.lookUp lookup)) :
    (Interaction.lookUp lookup).AsksOnly kind :=
  ⟨isKind, fun _ => trivial⟩

/-- The questions of every course are of the kind that the interaction asks. -/
theorem Takes.asked {interaction : Interaction α} {course : Course} {ending : Ending α}
    (taken : interaction.Takes course ending) (asks : interaction.AsksOnly kind) :
    ∀ step ∈ course, kind step.question := by
  induction taken with
  | done | failed | crashed | brokenOff => simp
  | ask question next answer _ ih => exact List.forall_mem_cons.mpr ⟨asks.1, ih (asks.2 answer)⟩

end AsksOnly

end Interaction

/-! ## Courses in a world -/

namespace World

variable {σ : Type}

/-- The world that also writes down what it was asked and what it answered. -/
def recorded (world : World σ) : World (σ × Course) where
  answer question state :=
    match world.answer question state.1 with
    | (some answer, after) => (some answer, (after, state.2 ++ [⟨question, answer⟩]))
    | (none, after) => (none, (after, state.2))

/-- The world that breaks the course off after so many answers. -/
def cutShort (world : World σ) : World (σ × Nat) where
  answer question state :=
    match state.2 with
    | 0 => (none, state)
    | left + 1 =>
        let (answer, after) := world.answer question state.1
        (answer, (after, left))

end World

namespace Interaction

variable {α σ : Type}

/-- What follows an interaction goes on with its result, in the state in which it left the world. -/
theorem run_andThen_of_done {β : Type} {world : World σ} {first : Interaction α} {state after : σ}
    {value : α} (runs : first.run world state = (.done value, after)) (next : α → Interaction β) :
    (first.andThen next).run world state = (next value).run world after := by
  induction first generalizing state with
  | done result =>
      cases runs
      rfl
  | failed | crashed => cases runs
  | ask question rest ih =>
      simp only [andThen, run] at runs ⊢
      rcases given : world.answer question state with ⟨_ | answer, later⟩
      · simp [given] at runs
      · simp only [given] at runs
        exact ih answer runs

/-- What follows an interaction matters only for the results that it comes to. -/
theorem run_andThen_congr {β : Type} (world : World σ) (first : Interaction α)
    {next other : α → Interaction β} {state : σ}
    (alike : ∀ value after, first.run world state = (.done value, after) →
      (next value).run world after = (other value).run world after) :
    (first.andThen next).run world state = (first.andThen other).run world state := by
  induction first generalizing state with
  | done result => exact alike result state rfl
  | failed | crashed => rfl
  | ask question rest ih =>
      simp only [andThen, run] at alike ⊢
      rcases given : world.answer question state with ⟨_ | answer, after⟩
      · rfl
      · simp only [given] at alike
        exact ih answer alike

/-- Running an interaction takes a course.  What a world in good order answers is allowed, and it stays
in good order. -/
theorem exists_takes_run {world : World σ} {inOrder : σ → Prop} {allowed : Answered → Prop}
    (keeps : ∀ question state, inOrder state →
      inOrder (world.answer question state).2 ∧
        ∀ answer, (world.answer question state).1 = some answer → allowed ⟨question, answer⟩)
    (interaction : Interaction α) {state : σ} (good : inOrder state) :
    inOrder (interaction.run world state).2 ∧
      ∃ course, interaction.Takes course (interaction.run world state).1 ∧
        ∀ step ∈ course, allowed step := by
  induction interaction generalizing state with
  | done result => exact ⟨good, [], .done result, by simp⟩
  | failed failure => exact ⟨good, [], .failed failure, by simp⟩
  | crashed => exact ⟨good, [], .crashed, by simp⟩
  | ask question next ih =>
      obtain ⟨goodAfter, answerAllowed⟩ := keeps question state good
      rcases given : world.answer question state with ⟨_ | answer, after⟩
      · rw [given] at goodAfter
        simp only [run, given]
        exact ⟨goodAfter, [], .brokenOff question next, by simp⟩
      · rw [given] at goodAfter answerAllowed
        simp only [run, given]
        obtain ⟨goodLast, course, taken, allAllowed⟩ := ih answer goodAfter
        exact ⟨goodLast, ⟨question, answer⟩ :: course, .ask question next answer taken,
          List.forall_mem_cons.mpr ⟨answerAllowed answer rfl, allAllowed⟩⟩

/-- Running an interaction in a world, together with the course that it takes. -/
def trace (world : World σ) : Interaction α → σ → Ending α × σ × Course
  | .done result, state => (.done result, state, [])
  | .failed failure, state => (.failed failure, state, [])
  | .crashed, state => (.crashed, state, [])
  | .ask question next, state =>
      match world.answer question state with
      | (some answer, after) =>
          let (ending, last, course) := (next answer).trace world after
          (ending, last, ⟨question, answer⟩ :: course)
      | (none, after) => (.brokenOff, after, [])

theorem trace_ask {world : World σ} {question : Ask} {state after : σ} {answer : question.Answer}
    (given : world.answer question state = (some answer, after)) (next : question.Answer → Interaction α) :
    (Interaction.ask question next).trace world state =
      (((next answer).trace world after).1, ((next answer).trace world after).2.1,
        ⟨question, answer⟩ :: ((next answer).trace world after).2.2) := by
  simp only [trace, given]

theorem run_eq_trace (world : World σ) (interaction : Interaction α) (state : σ) :
    interaction.run world state =
      ((interaction.trace world state).1, (interaction.trace world state).2.1) := by
  induction interaction generalizing state with
  | done | failed | crashed => rfl
  | ask question next ih =>
      rcases given : world.answer question state with ⟨_ | answer, after⟩
      · simp only [run, trace, given]
      · simp only [run, trace, given]
        exact ih answer after

theorem takes_trace (world : World σ) (interaction : Interaction α) (state : σ) :
    interaction.Takes (interaction.trace world state).2.2 (interaction.trace world state).1 := by
  induction interaction generalizing state with
  | done result => exact .done result
  | failed failure => exact .failed failure
  | crashed => exact .crashed
  | ask question next ih =>
      rcases given : world.answer question state with ⟨_ | answer, after⟩
      · simp only [trace, given]
        exact .brokenOff question next
      · simp only [trace, given]
        exact .ask question next answer (ih answer after)

theorem run_recorded_eq_trace (world : World σ) (interaction : Interaction α) (state : σ)
    (record : Course) :
    interaction.run world.recorded (state, record) =
      ((interaction.trace world state).1, (interaction.trace world state).2.1,
        record ++ (interaction.trace world state).2.2) := by
  induction interaction generalizing state record with
  | done | failed | crashed => simp [run, trace]
  | ask question next ih =>
      rcases given : world.answer question state with ⟨_ | answer, after⟩
      · simp [run, trace, World.recorded, given]
      · simp only [run, trace, World.recorded, given]
        rw [← World.recorded, ih]
        simp

/-- A question that is answered is written down, and one that is not ends the course. -/
theorem run_ask_recorded (world : World σ) (question : Ask) (next : question.Answer → Interaction α)
    (state : σ) (record : Course) :
    (Interaction.ask question next).run world.recorded (state, record) =
      match world.answer question state with
      | (some answer, after) =>
          (next answer).run world.recorded (after, record ++ [⟨question, answer⟩])
      | (none, after) => (.brokenOff, after, record) := by
  rcases given : world.answer question state with ⟨_ | answer, after⟩ <;>
    simp only [run, World.recorded, given]

/-- Keeping a record does not change a run, and what is added to the record is the course that the
interaction takes. -/
theorem run_recorded (world : World σ) (interaction : Interaction α) (state : σ) (record : Course) :
    ∃ course, interaction.Takes course (interaction.run world state).1 ∧
      interaction.run world.recorded (state, record) =
        ((interaction.run world state).1, (interaction.run world state).2, record ++ course) := by
  rw [run_recorded_eq_trace, run_eq_trace]
  exact ⟨_, takes_trace world interaction state, rfl⟩

/-- Cutting a world short breaks the course off or leaves its ending as it is. -/
theorem run_cutShort (world : World σ) (interaction : Interaction α) (state : σ) (answers : Nat) :
    (interaction.run world.cutShort (state, answers)).1 = .brokenOff ∨
      (interaction.run world.cutShort (state, answers)).1 = (interaction.run world state).1 := by
  induction interaction generalizing state answers with
  | done | failed | crashed => exact .inr rfl
  | ask question next ih =>
      cases answers with
      | zero => exact .inl rfl
      | succ left =>
          rcases given : world.answer question state with ⟨_ | answer, after⟩
          · simp [run, World.cutShort, given]
          · have later := ih answer after left
            simp only [run, World.cutShort, given]
            exact later

end Interaction

end NoteDialogue
