import Mathlib.Data.List.Nodup
import NoteDialogue.Proofs.Config
import NoteDialogue.Proofs.History

/-!
# The window of the last turns

Leaving out the first turns of some messages cuts them right before the message of the user that opens the next
turn (`exists_dropTurns_cut`).  So a window is the end of the messages that count, whole when it has room for
all of their turns and otherwise beginning with a message of the user, and it holds as many turns as there is
room for (`IsWindow`).  Only one stretch is such a window (`IsWindow.unique`).

The place where a window starts is found in the list of the places where turns start (`windowStart?`).  For a
window of at least one turn it is always within that list.  A window of no turns starts past the end of it, and
since that is a size that can be configured, there are histories without a window (`windows_exist_unless_empty`).
-/

set_option autoImplicit false

namespace NoteDialogue

variable {turns : Nat} {mode : ChatMode} {history messages kept window other : List Message}

/-! ## Cutting between turns -/

theorem turnCount_append (before after : List Message) :
    turnCount (before ++ after) = turnCount before + turnCount after :=
  List.countP_append

theorem turnCount_cons_user {question : Message} (asks : question.role = .user) (after : List Message) :
    turnCount (question :: after) = turnCount after + 1 :=
  List.countP_cons_of_pos (by rw [asks]; rfl)

theorem turnCount_cons_other {message : Message} (silent : message.role ≠ .user) (after : List Message) :
    turnCount (message :: after) = turnCount after :=
  List.countP_cons_of_neg (by simpa using silent)

/-- **The first turns end where a message of the user opens the next one.** -/
theorem exists_dropTurns_cut (more : turns < turnCount messages) :
    ∃ before question after, messages = before ++ question :: after ∧ turnCount before = turns ∧
      question.role = .user ∧ dropTurns turns messages = question :: after := by
  induction messages generalizing turns with
  | nil => cases more
  | cons first rest ih =>
      by_cases asks : first.role = .user
      · rw [turnCount_cons_user asks] at more
        have opens : (first.role == .user) = true := beq_iff_eq.mpr asks
        cases turns with
        | zero => exact ⟨[], first, rest, rfl, rfl, asks, by rw [dropTurns, if_pos opens]⟩
        | succ left =>
            obtain ⟨before, question, after, rfl, counted, isUser, cut⟩ := ih (Nat.lt_of_succ_lt_succ more)
            refine ⟨first :: before, question, after, rfl, ?_, isUser, ?_⟩
            · rw [turnCount_cons_user asks, counted]
            · rw [dropTurns, if_pos opens, cut]
      · rw [turnCount_cons_other asks] at more
        obtain ⟨before, question, after, rfl, counted, isUser, cut⟩ := ih more
        refine ⟨first :: before, question, after, rfl, ?_, isUser, ?_⟩
        · rw [turnCount_cons_other asks, counted]
        · rw [dropTurns.eq_def]
          simp only [if_neg (show ¬ (first.role == .user) = true by simpa using asks), cut]

/-! ## Windows -/

/-- A stretch is the window of the last turns of some messages when it is the end of them, holds as many turns as
there is room for, and cuts none of them: it is the whole, or a message of the user opens it. -/
structure IsWindow (turns : Nat) (kept window : List Message) : Prop where
  suffix : window <:+ kept
  turnCount_eq : turnCount window = min turns (turnCount kept)
  whole : turnCount kept ≤ turns → window = kept
  opens : turns < turnCount kept → ∃ question after, window = question :: after ∧ question.role = .user

theorem isWindow_self (short : turnCount kept ≤ turns) : IsWindow turns kept kept where
  suffix := List.suffix_rfl
  turnCount_eq := (Nat.min_eq_right short).symm
  whole := fun _ => rfl
  opens := fun more => absurd more (Nat.not_lt.mpr short)

theorem isWindow_dropTurns (some : turns ≠ 0) (more : turns < turnCount kept) :
    IsWindow turns kept (dropTurns (turnCount kept - turns) kept) := by
  have fewer : turnCount kept - turns < turnCount kept := by omega
  obtain ⟨before, question, after, split, counted, isUser, cut⟩ := exists_dropTurns_cut fewer
  rw [cut]
  refine ⟨⟨before, split.symm⟩, ?_, fun short => absurd more (Nat.not_lt.mpr short),
    fun _ => ⟨question, after, rfl, isUser⟩⟩
  have total : turnCount kept = turnCount before + turnCount (question :: after) := by
    rw [split, turnCount_append]
  omega

/-- Of two windows that start with a message of the user the longer one would hold a further turn. -/
theorem eq_of_suffix_of_turnCount (within : other <:+ window) (same : turnCount other = turnCount window)
    (opens : ∃ question after, window = question :: after ∧ question.role = .user) : other = window := by
  obtain ⟨extra, rfl⟩ := within
  cases extra with
  | nil => rfl
  | cons first rest =>
      obtain ⟨question, after, split, isUser⟩ := opens
      obtain ⟨rfl, -⟩ := List.cons.inj split
      rw [List.cons_append, turnCount_cons_user isUser, turnCount_append] at same
      omega

/-- **There is one window of some messages.** -/
theorem IsWindow.unique (one : IsWindow turns kept window) (two : IsWindow turns kept other) :
    other = window := by
  rcases Nat.lt_or_ge turns (turnCount kept) with more | short
  · have same : turnCount other = turnCount window := two.turnCount_eq.trans one.turnCount_eq.symm
    rcases List.suffix_or_suffix_of_suffix two.suffix one.suffix with within | beyond
    · exact eq_of_suffix_of_turnCount within same (one.opens more)
    · exact (eq_of_suffix_of_turnCount beyond same.symm (two.opens more)).symm
  · exact (two.whole short).trans (one.whole short).symm

theorem isWindow_of_taken (taken : historyWindow? turns mode history = some window) :
    IsWindow turns (keptHistory mode history) window := by
  unfold historyWindow? at taken
  by_cases short : turnCount (keptHistory mode history) ≤ turns
  · simp only [if_pos short, Option.some.injEq] at taken
    exact taken ▸ isWindow_self short
  · by_cases none : turns = 0
    · simp only [if_neg short, if_pos none, reduceCtorEq] at taken
    · simp only [if_neg short, if_neg none, Option.some.injEq] at taken
      exact taken ▸ isWindow_dropTurns none (Nat.not_le.mp short)

/-- All messages of a window count. -/
theorem keptHistory_of_taken (taken : historyWindow? turns mode history = some window) :
    keptHistory mode window = window :=
  List.filter_eq_self.mpr fun _ member => (kept_of_mem_window taken member).2

theorem isKeptMessage_eq_false_iff {message : Message} :
    isKeptMessage mode message = false ↔
      Text.isBlankText message.content = true ∨ mode.isBypass = true ∧ isPriming message.content = true := by
  simp only [isKeptMessage, Bool.and_eq_false_iff, Bool.not_eq_false', Bool.and_eq_true]

/-- **A window holds the last turns of the messages that count, whole.**  It is the only stretch of them that
does, and it is its own window.  A blank message, or in a bypass mode one that primes a model, may be left out of
the history anywhere: it takes up no place in the window. -/
theorem window_keeps_last_turns (taken : historyWindow? turns mode history = some window) :
    IsWindow turns (keptHistory mode history) window ∧
      (∀ other, IsWindow turns (keptHistory mode history) other → other = window) ∧
      historyWindow? turns mode window = some window ∧
      ∀ before message after, history = before ++ message :: after →
        Text.isBlankText message.content = true ∨
          mode.isBypass = true ∧ isPriming message.content = true →
        historyWindow? turns mode (before ++ after) = some window := by
  have isWindow := isWindow_of_taken taken
  refine ⟨isWindow, fun other => isWindow.unique, ?_, ?_⟩
  · have short : turnCount window ≤ turns := isWindow.turnCount_eq ▸ Nat.min_le_left _ _
    simp only [historyWindow?, keptHistory_of_taken taken, if_pos short]
  · rintro before message after rfl dropped
    have same : keptHistory mode (before ++ message :: after) = keptHistory mode (before ++ after) := by
      simp only [keptHistory, List.filter_append, List.filter_cons, isKeptMessage_eq_false_iff.mpr dropped,
        Bool.false_eq_true, if_false]
    rwa [historyWindow?, same] at taken

/-- A block of notes, two turns, and a blank message between them. -/
def primedTalk : List Message :=
  [.system "[NOTE CONTEXT]", .user "Rent?", .assistant "1200.", .user " ", .user "Since when?", .assistant "May."]

theorem window_keeps_last_turns_of_primedTalk :
    historyWindow? 1 .bypass primedTalk = some [.user "Since when?", .assistant "May."] ∧
      IsWindow 1 (keptHistory .bypass primedTalk) [.user "Since when?", .assistant "May."] ∧
      (∀ other, IsWindow 1 (keptHistory .bypass primedTalk) other →
        other = [.user "Since when?", .assistant "May."]) ∧
      historyWindow? 1 .bypass [.user "Since when?", .assistant "May."] =
        some [.user "Since when?", .assistant "May."] ∧
      ∀ before message after, primedTalk = before ++ message :: after →
        Text.isBlankText message.content = true ∨
          ChatMode.isBypass .bypass = true ∧ isPriming message.content = true →
        historyWindow? 1 .bypass (before ++ after) = some [.user "Since when?", .assistant "May."] := by
  have taken : historyWindow? 1 .bypass primedTalk = some [.user "Since when?", .assistant "May."] := by
    decide +kernel
  exact ⟨taken, window_keeps_last_turns taken⟩

/-! ## Where windows start -/

/-- The places where turns start. -/
def turnStarts (messages : List Message) : List Nat :=
  messages.findIdxs fun message => message.role == .user

/-- The place where the window of the last turns starts: the first place if there is room for all turns, and
otherwise the start of the turn that is so many from the end; none when that is past the end of the list. -/
def windowStart? (turns : Nat) (messages : List Message) : Option Nat :=
  let starts := turnStarts messages
  if starts.length ≤ turns then some 0 else starts[starts.length - turns]?

theorem length_turnStarts (messages : List Message) : (turnStarts messages).length = turnCount messages :=
  List.length_findIdxs

/-- The turn after some messages starts right after them. -/
theorem turnStarts_getElem? {before after : List Message} {question : Message}
    (asks : question.role = .user) :
    (turnStarts (before ++ question :: after))[turnCount before]? = some before.length := by
  have opens : (question.role == .user) = true := beq_iff_eq.mpr asks
  have counted : turnCount before = (before.findIdxs fun message => message.role == .user).length :=
    (length_turnStarts before).symm
  rw [turnStarts, List.findIdxs_append, List.findIdxs_cons, if_pos opens, Nat.zero_add, counted,
    List.getElem?_append_right (Nat.le_refl _), Nat.sub_self]
  rfl

/-- **A window is what stands from its start on**, and there is none when it has no start. -/
theorem historyWindow?_eq_drop (turns : Nat) (mode : ChatMode) (history : List Message) :
    historyWindow? turns mode history =
      (windowStart? turns (keptHistory mode history)).map fun start => (keptHistory mode history).drop start := by
  simp only [historyWindow?, windowStart?, length_turnStarts]
  generalize keptHistory mode history = kept
  by_cases short : turnCount kept ≤ turns
  · rw [if_pos short, if_pos short]
    rfl
  · rw [if_neg short, if_neg short]
    by_cases none : turns = 0
    · rw [if_pos none, none, Nat.sub_zero, List.getElem?_eq_none (Nat.le_of_eq (length_turnStarts kept))]
      rfl
    · have fewer : turnCount kept - turns < turnCount kept := by omega
      obtain ⟨before, question, after, split, counted, isUser, cut⟩ := exists_dropTurns_cut fewer
      have start : (turnStarts kept)[turnCount kept - turns]? = some before.length := by
        rw [← counted, split]
        exact turnStarts_getElem? isUser
      rw [if_neg none, start, cut, Option.map_some, split, List.drop_left]

theorem windowStart?_le {start : Nat} (starts : windowStart? turns kept = some start) :
    start ≤ kept.length := by
  simp only [windowStart?] at starts
  split at starts
  · exact Option.some.inj starts ▸ Nat.zero_le _
  · have listed : start ∈ turnStarts kept := List.mem_of_getElem? starts
    obtain ⟨within, -⟩ := List.mem_findIdxs_iff_exists_getElem_pos.mp listed
    exact Nat.le_of_lt within

/-- **Every history has a window, within bounds, unless the window was configured to have no turns.**  Then a
history has none as soon as a message of the user counts, since the place of its start is past the end of the
list of starts. -/
theorem windows_exist_unless_empty (settings : Settings) (mode : ChatMode) (history : List Message) :
    let turns := (Config.ofSettings settings).turn.historyTurns
    let kept := keptHistory mode history
    (historyWindow? turns mode history = none ↔
      settings.word? "CHAT_HISTORY_TURNS" = some 0 ∧
        ∃ message ∈ history, isKeptMessage mode message = true ∧ message.role = .user) ∧
      historyWindow? turns mode history = (windowStart? turns kept).map (fun start => kept.drop start) ∧
      ∀ start, windowStart? turns kept = some start → start ≤ kept.length := by
  intro turns kept
  refine ⟨?_, historyWindow?_eq_drop turns mode history, fun _ => windowStart?_le⟩
  have empty : turns = 0 ↔ settings.word? "CHAT_HISTORY_TURNS" = some 0 := by
    show (settings.word? "CHAT_HISTORY_TURNS").getD 10 = 0 ↔ _
    cases settings.word? "CHAT_HISTORY_TURNS" <;> simp
  rw [historyWindow?_eq_none_iff, empty]

/-- A greeting, and a window that was configured to have no turns. -/
example :
    let settings : Settings := { entries := [("CHAT_HISTORY_TURNS", "0")] }
    historyWindow? (Config.ofSettings settings).turn.historyTurns .rag [.user "Hello."] = none := by
  decide +kernel

end NoteDialogue
