import NoteDialogue.Session
import NoteDialogue.Turn.Selection

/-!
# What holds of a session

The state, the focus and the candidates of a session tell the same story (`Session.Consistent`): nothing
was found exactly in the initial state, nothing is in focus exactly until a note is picked, a note in
focus is one of the candidates, and all candidates together are in focus only once they were answered
from.  A new session is consistent, and recording a search, applying an action and keeping a mode
preserve it.

Applying an action has four effects at most (`apply_cases`); none of them changes the candidates, so
that whatever holds of the notes that a search found holds until the next search.
-/

set_option autoImplicit false

namespace NoteDialogue

namespace Session

/-- State, focus and candidates agree. -/
structure Consistent (session : Session) : Prop where
  initial_iff : session.state = .initial ↔ session.candidates = []
  unfocused_iff : session.focus = none ↔ session.state = .initial ∨ session.state = .hasCandidates
  focused_note : session.state = .focused → ∃ document, session.focus = some (.note document)
  focus_mem : ∀ document, session.focus = some (.note document) → document ∈ session.candidates
  aggregated_answered : session.focus = some .aggregated → session.state = .answered

/-- The candidates are different notes, and no more of them than a search may return. -/
structure Bounded (session : Session) (limit : Nat) : Prop where
  distinct : (session.candidates.map (·.id)).Nodup
  length_le : session.candidates.length ≤ limit

/-! ## What applying an action does -/

/-- The session centred on one note. -/
def onNote (session : Session) (document : Document) : Session :=
  { session with focus := some (.note document), state := .focused }

/-- The session after an answer from its focus. -/
def afterAnswer (session : Session) : Session :=
  { session with state := .answered }

/-- The session centred on all of its candidates, after an answer from them. -/
def onAll (session : Session) : Session :=
  { session with focus := some .aggregated, state := .answered }

theorem focusOn_ok {session changed : Session} {index : Nat}
    (focused : session.focusOn index = .ok changed) :
    ∃ document, session.candidates[index]? = some document ∧ changed = session.onNote document := by
  unfold focusOn candidate at focused
  cases there : session.candidates[index]? with
  | none => simp [there] at focused
  | some document =>
      simp only [there, Except.ok.injEq] at focused
      exact ⟨document, rfl, focused.symm⟩

/-- An action that fits picks a candidate, answers from the focus or from all candidates, or asks back. -/
theorem apply_cases {session changed : Session} {action : PlanAction}
    (applied : session.apply action = .ok changed) :
    (∃ index document, (action = .select index ∨ action = .switch index ∧ session.focus ≠ none) ∧
        session.candidates[index]? = some document ∧ changed = session.onNote document) ∨
      (action = .answerCurrent ∧ session.focus ≠ none ∧ changed = session.afterAnswer) ∨
      (action = .answerAll ∧ session.candidates ≠ [] ∧ changed = session.onAll) ∨
      (action = .clarify ∧ changed = session) := by
  cases action with
  | search query => cases applied
  | select index =>
      obtain ⟨document, there, same⟩ := focusOn_ok applied
      exact .inl ⟨index, document, .inl rfl, there, same⟩
  | switch index =>
      by_cases unfocused : session.focus.isNone = true
      · simp [apply, unfocused] at applied
      · rw [apply, if_neg unfocused] at applied
        obtain ⟨document, there, same⟩ := focusOn_ok applied
        have focused : session.focus ≠ none := fun none => unfocused (by rw [none]; rfl)
        exact .inl ⟨index, document, .inr ⟨rfl, focused⟩, there, same⟩
  | answerCurrent =>
      by_cases unfocused : session.focus.isNone = true
      · simp [apply, unfocused] at applied
      · rw [apply, if_neg unfocused] at applied
        have focused : session.focus ≠ none := fun none => unfocused (by rw [none]; rfl)
        exact .inr (.inl ⟨rfl, focused, (Except.ok.inj applied).symm⟩)
  | answerAll =>
      by_cases empty : session.candidates.isEmpty = true
      · simp [apply, empty] at applied
      · rw [apply, if_neg empty] at applied
        have found : session.candidates ≠ [] := fun none => empty (by rw [none]; rfl)
        exact .inr (.inr (.inl ⟨rfl, found, (Except.ok.inj applied).symm⟩))
  | clarify => exact .inr (.inr (.inr ⟨rfl, (Except.ok.inj applied).symm⟩))

theorem candidates_of_apply {session changed : Session} {action : PlanAction}
    (applied : session.apply action = .ok changed) : changed.candidates = session.candidates := by
  rcases apply_cases applied with ⟨_, _, -, -, rfl⟩ | ⟨-, -, rfl⟩ | ⟨-, -, rfl⟩ | ⟨-, rfl⟩ <;> rfl

/-- With a single candidate the first choice fits. -/
theorem apply_select_single {session : Session} {document : Document}
    (single : session.candidates = [document]) :
    session.apply (.select 0) = .ok (session.onNote document) := by
  simp [apply, focusOn, candidate, single, onNote]

/-- The sessions belong to the same conversation of the same user. -/
structure SameOwner (session changed : Session) : Prop where
  id : changed.id = session.id
  userId : changed.userId = session.userId

theorem SameOwner.trans {session middle last : Session} (first : session.SameOwner middle)
    (second : middle.SameOwner last) : session.SameOwner last :=
  ⟨second.id.trans first.id, second.userId.trans first.userId⟩

theorem sameOwner_of_apply {session changed : Session} {action : PlanAction}
    (applied : session.apply action = .ok changed) : session.SameOwner changed := by
  rcases apply_cases applied with ⟨_, _, -, -, rfl⟩ | ⟨-, -, rfl⟩ | ⟨-, -, rfl⟩ | ⟨-, rfl⟩ <;>
    exact ⟨rfl, rfl⟩

/-! ## Consistent sessions -/

theorem consistent_start (id userId : String) : (start id userId).Consistent where
  initial_iff := ⟨fun _ => rfl, fun _ => rfl⟩
  unfocused_iff := ⟨fun _ => .inl rfl, fun _ => rfl⟩
  focused_note := nofun
  focus_mem := nofun
  aggregated_answered := nofun

theorem bounded_start (id userId : String) (limit : Nat) : (start id userId).Bounded limit where
  distinct := List.nodup_nil
  length_le := Nat.zero_le limit

theorem consistent_recordSearch (session : Session) (query : String) (documents : List Document) :
    (session.recordSearch query documents).Consistent := by
  cases documents with
  | nil =>
      exact ⟨⟨fun _ => rfl, fun _ => rfl⟩, ⟨fun _ => .inl rfl, fun _ => rfl⟩, nofun, nofun, nofun⟩
  | cons first rest =>
      exact ⟨⟨nofun, nofun⟩, ⟨fun _ => .inr rfl, fun _ => rfl⟩, nofun, nofun, nofun⟩

theorem consistent_onNote {session : Session} {document : Document}
    (member : document ∈ session.candidates) : (session.onNote document).Consistent where
  initial_iff := ⟨nofun, fun none => absurd (none ▸ member : document ∈ []) List.not_mem_nil⟩
  unfocused_iff := ⟨nofun, fun early => by rcases early with early | early <;> cases early⟩
  focused_note := fun _ => ⟨document, rfl⟩
  focus_mem := fun other same => by
    cases same
    exact member
  aggregated_answered := nofun

theorem consistent_onAll {session : Session} (found : session.candidates ≠ []) :
    session.onAll.Consistent where
  initial_iff := ⟨nofun, fun none => absurd none found⟩
  unfocused_iff := ⟨nofun, fun early => by rcases early with early | early <;> cases early⟩
  focused_note := nofun
  focus_mem := nofun
  aggregated_answered := fun _ => rfl

namespace Consistent

variable {session : Session}

/-- Something is in focus only among candidates. -/
theorem candidates_ne_nil (consistent : session.Consistent) (focused : session.focus ≠ none) :
    session.candidates ≠ [] := by
  intro none
  exact focused (consistent.unfocused_iff.mpr (.inl (consistent.initial_iff.mpr none)))

theorem afterAnswer (consistent : session.Consistent) (focused : session.focus ≠ none) :
    session.afterAnswer.Consistent where
  initial_iff := ⟨nofun, fun none => absurd none (consistent.candidates_ne_nil focused)⟩
  unfocused_iff :=
    ⟨fun none => absurd none focused, fun early => by rcases early with early | early <;> cases early⟩
  focused_note := nofun
  focus_mem := consistent.focus_mem
  aggregated_answered := fun _ => rfl

/-- **Applying an action preserves consistency.** -/
theorem apply (consistent : session.Consistent) {action : PlanAction} {changed : Session}
    (applied : session.apply action = .ok changed) : changed.Consistent := by
  rcases apply_cases applied with
    ⟨index, document, -, there, rfl⟩ | ⟨-, focused, rfl⟩ | ⟨-, found, rfl⟩ | ⟨-, rfl⟩
  · exact consistent_onNote (List.mem_of_getElem? there)
  · exact consistent.afterAnswer focused
  · exact consistent_onAll found
  · exact consistent

/-- The mode that stays in force is no part of the story. -/
theorem keepMode (consistent : session.Consistent) (config : TurnConfig) (selection : ModeSelection)
    (byTurn : Bool) : (session.keepMode config selection byTurn).Consistent :=
  ⟨consistent.initial_iff, consistent.unfocused_iff, consistent.focused_note, consistent.focus_mem,
    consistent.aggregated_answered⟩

end Consistent

theorem Bounded.of_candidates {session changed : Session} {limit : Nat} (bounded : session.Bounded limit)
    (same : changed.candidates = session.candidates) : changed.Bounded limit :=
  ⟨same ▸ bounded.distinct, same ▸ bounded.length_le⟩

end Session

end NoteDialogue
