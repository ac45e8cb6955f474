import NoteDialogue.History
import NoteDialogue.Proofs.Prompt

/-!
# What stands in a window of earlier messages

A window is the end of the messages that count (`suffix_of_window`).  It exists unless it has no turns and some
message of the user counts (`historyWindow?_eq_none_iff`).  In a bypass mode no message counts
that is taken for a priming text, so that neither the instruction that opens an answer nor a block of notes
is ever in the window, whatever stands around it (`lacksPriming_of_window`).
-/

set_option autoImplicit false

namespace NoteDialogue

variable {turns : Nat} {mode : ChatMode} {history window : List Message} {message : Message}

theorem dropTurns_suffix (turns : Nat) (messages : List Message) :
    dropTurns turns messages <:+ messages := by
  induction messages generalizing turns with
  | nil => exact List.suffix_rfl
  | cons first rest ih =>
      unfold dropTurns
      by_cases opens : (first.role == .user) = true
      · rw [if_pos opens]
        cases turns with
        | zero => exact List.suffix_rfl
        | succ left => exact (ih left).trans (List.suffix_cons first rest)
      · rw [if_neg opens]
        exact (ih turns).trans (List.suffix_cons first rest)

/-- A window is the end of the messages that count. -/
theorem suffix_of_window (taken : historyWindow? turns mode history = some window) :
    window <:+ keptHistory mode history := by
  unfold historyWindow? at taken
  by_cases short : turnCount (keptHistory mode history) ≤ turns
  · simp only [if_pos short, Option.some.injEq] at taken
    exact taken ▸ List.suffix_rfl
  · by_cases none : turns = 0
    · simp only [if_neg short, if_pos none, reduceCtorEq] at taken
    · simp only [if_neg short, if_neg none, Option.some.injEq] at taken
      exact taken ▸ dropTurns_suffix _ _

/-- A window does not exist exactly when it has no turns and some message of the user counts. -/
theorem historyWindow?_eq_none_iff (turns : Nat) (mode : ChatMode) (history : List Message) :
    historyWindow? turns mode history = none ↔
      turns = 0 ∧ ∃ message ∈ history, isKeptMessage mode message = true ∧ message.role = .user := by
  have counted : 0 < turnCount (keptHistory mode history) ↔
      ∃ message ∈ history, isKeptMessage mode message = true ∧ message.role = .user := by
    simp only [turnCount, keptHistory, List.countP_pos_iff, List.mem_filter, beq_iff_eq, and_assoc]
  unfold historyWindow?
  by_cases short : turnCount (keptHistory mode history) ≤ turns
  · simp only [if_pos short, reduceCtorEq, false_iff, not_and]
    rintro rfl present
    exact absurd (counted.mpr present) (by omega)
  · by_cases none : turns = 0
    · simp only [if_neg short, if_pos none, true_iff]
      exact ⟨none, counted.mp (by omega)⟩
    · simp only [if_neg short, if_neg none, reduceCtorEq, false_iff]
      exact fun both => none both.1

/-- The messages of a window are messages of the history that count. -/
theorem kept_of_mem_window (taken : historyWindow? turns mode history = some window)
    (member : message ∈ window) : message ∈ history ∧ isKeptMessage mode message = true :=
  List.mem_filter.mp ((suffix_of_window taken).subset member)

/-- **In a bypass mode a window has no priming texts.** -/
theorem window_unprimed (bypass : mode.isBypass = true)
    (taken : historyWindow? turns mode history = some window) (member : message ∈ window) :
    isPriming message.content = false := by
  obtain ⟨-, kept⟩ := kept_of_mem_window taken member
  simpa [isKeptMessage, bypass] using (Bool.and_eq_true_iff.mp kept).2

/-- No message holds the instruction that opens an answer from notes, or a block of notes. -/
def LacksPriming (messages : List Message) : Prop :=
  ∀ message ∈ messages, ∀ before after,
    message.content ≠ before ++ systemSeed ++ after ∧
      ∀ documents, message.content ≠ before ++ contextBlock documents ++ after

/-- In a bypass mode no message of a window holds what primes a model with notes, whatever stands around
it. -/
theorem lacksPriming_of_window (bypass : mode.isBypass = true)
    (taken : historyWindow? turns mode history = some window) : LacksPriming window := by
  intro message member before after
  have free := window_unprimed bypass taken member
  refine ⟨fun same => ?_, fun documents same => ?_⟩
  · rw [same, isPriming_systemSeed] at free
    cases free
  · rw [same, isPriming_contextBlock] at free
    cases free

end NoteDialogue
