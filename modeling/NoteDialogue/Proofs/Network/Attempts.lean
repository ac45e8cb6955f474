import Mathlib.Logic.Function.Iterate
import NoteDialogue.Network.Exchange

/-!
# Attempts that are made again

An exchange is made again as long as it may mend and another attempt is left.  The last attempt is the first one that
settles the matter, or the one at the limit if none before it does (`IsLast`).  There is one such attempt, and it is
the end of any run: what it comes to is what all of them come to, and the server is left in its state after it
(`run_attempts`).

A server may give its replies in a fixed order, whatever it is asked, and keep the requests (`answering`).  An exchange
that reads its results from such replies comes to any results in any order (`turn_inTurn`).
-/

set_option autoImplicit false

namespace NoteDialogue

variable {α β ε σ : Type}

/-! ## The last attempt -/

/-- The last of the attempts that are made again while `again` holds of them, at most so many times. -/
structure IsLast (again : Nat → Prop) (limit last : Nat) : Prop where
  within : last ≤ limit
  before : ∀ earlier < last, again earlier
  settles : last < limit → ¬ again last

namespace IsLast

variable {again : Nat → Prop} {limit last other : Nat}

theorem le_of_isLast (one : IsLast again limit last) (two : IsLast again limit other) : last ≤ other := by
  rcases Nat.lt_or_ge other last with fewer | more
  · exact absurd (one.before other fewer) (two.settles (Nat.lt_of_lt_of_le fewer one.within))
  · exact more

theorem unique (one : IsLast again limit last) (two : IsLast again limit other) : other = last :=
  Nat.le_antisymm (two.le_of_isLast one) (one.le_of_isLast two)

/-- With no other attempt left the first is the last. -/
theorem none_left (again : Nat → Prop) : IsLast again 0 0 where
  within := Nat.le_refl 0
  before := nofun
  settles := nofun

/-- An attempt that settles the matter is the last. -/
theorem first (settled : ¬ again 0) : IsLast again limit 0 where
  within := Nat.zero_le limit
  before := nofun
  settles := fun _ => settled

/-- After an attempt that is made again the others are counted from the next one. -/
theorem later (repeats : again 0) (rest : IsLast (fun turn => again (turn + 1)) limit last) :
    IsLast again (limit + 1) (last + 1) where
  within := Nat.succ_le_succ rest.within
  before := by
    intro earlier sooner
    cases earlier with
    | zero => exact repeats
    | succ turn => exact rest.before turn (Nat.lt_of_succ_lt_succ sooner)
  settles := fun fewer => rest.settles (Nat.lt_of_succ_lt_succ fewer)

theorem congr {alike : Nat → Prop} (same : ∀ turn, again turn ↔ alike turn) (isLast : IsLast again limit last) :
    IsLast alike limit last where
  within := isLast.within
  before := fun earlier sooner => (same earlier).mp (isLast.before earlier sooner)
  settles := fun fewer repeats => isLast.settles fewer ((same last).mpr repeats)

end IsLast

/-! ## What attempts come to -/

namespace Attempt

/-- Another attempt may mend it. -/
inductive IsAgain : Attempt ε α → Prop where
  | again (failure : ε) : IsAgain (.again failure)

/-- What it comes to when no other attempt follows. -/
def outcome : Attempt ε α → Except ε α
  | .success result => .ok result
  | .again failure | .final failure => .error failure

end Attempt

/-! ## Runs against a server -/

namespace Exchange

variable {server : Request → σ → Reply × σ}

/-- An exchange goes on in the state that its first part left. -/
theorem run_andThen (first : Exchange α) (next : α → Exchange β) (state : σ) :
    (first.andThen next).run server state =
      (next (first.run server state).1).run server (first.run server state).2 := by
  induction first generalizing state with
  | done result => rfl
  | send request rest ih => exact ih _ _

/-- The state of the server after an exchange was made so many times. -/
def stateAfter (server : Request → σ → Reply × σ) (once : Exchange α) (times : Nat) (state : σ) : σ :=
  (fun before => (once.run server before).2)^[times] state

/-- What an exchange comes to that was made so many times before. -/
def turn (server : Request → σ → Reply × σ) (once : Exchange α) (times : Nat) (state : σ) : α :=
  (once.run server (stateAfter server once times state)).1

theorem run_once (once : Exchange α) (state : σ) :
    once.run server state = (turn server once 0 state, stateAfter server once 1 state) := rfl

section Readings

/-- Each time the result of an exchange is read. -/
def reading (once : Exchange α) (read : α → β) : Exchange β :=
  once.andThen fun result => .done (read result)

variable (once : Exchange α) (read : α → β) (times : Nat) (state : σ)

/-- Reading a result changes nothing for the server. -/
theorem stateAfter_reading :
    stateAfter server (reading once read) times state = stateAfter server once times state := by
  have same : (fun before => ((reading once read).run server before).2) = fun before => (once.run server before).2 := by
    funext before
    rw [reading, run_andThen, run]
  rw [stateAfter, same, stateAfter]

theorem turn_reading : turn server (reading once read) times state = read (turn server once times state) := by
  rw [turn, stateAfter_reading, reading, run_andThen, run, turn]

end Readings

/-- One attempt is made, and what it comes to decides whether the others are. -/
theorem run_attempts_succ (once : Exchange (Attempt ε α)) (retries : Nat) (state : σ) :
    (attempts once (retries + 1)).run server state =
      match turn server once 0 state with
      | .success result => (.ok result, stateAfter server once 1 state)
      | .again _ => (attempts once retries).run server (stateAfter server once 1 state)
      | .final failure => (.error failure, stateAfter server once 1 state) := by
  rw [attempts, run_andThen, run_once once]
  cases turn server once 0 state <;> rfl

/-- **Attempts come to what the last of them does.** -/
theorem run_attempts (server : Request → σ → Reply × σ) (once : Exchange (Attempt ε α)) (retries : Nat) (state : σ) :
    ∃ last, IsLast (fun times => (turn server once times state).IsAgain) retries last ∧
      (attempts once retries).run server state =
        ((turn server once last state).outcome, stateAfter server once (last + 1) state) := by
  induction retries generalizing state with
  | zero =>
      refine ⟨0, .none_left _, ?_⟩
      rw [attempts, run_andThen, run_once once]
      cases turn server once 0 state <;> rfl
  | succ retries ih =>
      rw [run_attempts_succ]
      cases first : turn server once 0 state with
      | success result | final failure =>
          have settled : ¬ (turn server once 0 state).IsAgain := by
            rw [first]
            exact nofun
          exact ⟨0, .first settled, by rw [first, Attempt.outcome]⟩
      | again failure =>
          have repeats : (turn server once 0 state).IsAgain := by
            rw [first]
            exact .again failure
          obtain ⟨last, isLast, ran⟩ := ih (stateAfter server once 1 state)
          exact ⟨last + 1, isLast.later repeats, ran⟩

/-! ## Replies in a fixed order -/

/-- A server that gives one reply after the other, whatever it is asked, and keeps the requests. -/
def answering (replies : Nat → Reply) (request : Request) (asked : List Request) : Reply × List Request :=
  (replies asked.length, asked ++ [request])

section Answering

variable (replies : Nat → Reply) (request : Request) (next : Reply → α)

/-- Posting one request and going on with its reply. -/
def postThen : Exchange α :=
  (post request).andThen fun reply => .done (next reply)

theorem stateAfter_postThen (times : Nat) (asked : List Request) :
    stateAfter (answering replies) (postThen request next) times asked = asked ++ List.replicate times request := by
  induction times generalizing asked with
  | zero => exact (List.append_nil asked).symm
  | succ times ih =>
      have first : stateAfter (answering replies) (postThen request next) (times + 1) asked =
          stateAfter (answering replies) (postThen request next) times (asked ++ [request]) := rfl
      rw [first, ih, List.append_assoc, List.singleton_append, List.replicate_succ]

theorem turn_postThen (times : Nat) :
    turn (answering replies) (postThen request next) times [] = next (replies times) := by
  have posted : turn (answering replies) (postThen request next) times [] =
      next (replies (stateAfter (answering replies) (postThen request next) times []).length) := rfl
  rw [posted, stateAfter_postThen, List.nil_append, List.length_replicate]

end Answering

/-! ## Results in a fixed order -/

/-- Replies that are told apart by their numbers. -/
def numbered (number : Nat) : Reply :=
  .answered number [] ""

/-- An exchange that comes to one result after the other, whatever is asked, when the replies are numbered. -/
def inTurn (results : Nat → α) (request : Request) : Exchange α :=
  postThen request fun reply =>
    match reply with
    | .answered number _ _ => results number
    | .dropped => results 0

/-- **Any results may come in any order.** -/
theorem turn_inTurn (results : Nat → α) (request : Request) (times : Nat) :
    turn (answering numbered) (inTurn results request) times [] = results times :=
  turn_postThen numbered request _ times

/-- Each time the request is kept. -/
theorem stateAfter_inTurn (results : Nat → α) (request : Request) (times : Nat) :
    stateAfter (answering numbered) (inTurn results request) times [] = List.replicate times request :=
  stateAfter_postThen numbered request _ times []

end Exchange

end NoteDialogue
