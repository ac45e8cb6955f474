import NoteDialogue.Proofs.Conversation.Ownership
import NoteDialogue.Proofs.Turn.Mode

/-!
# Modes over many turns

The mode in force in a conversation is settled by its answered turns alone: one that names a mode puts it in
force, if it is configured to stay, and otherwise ends the one before; one that names none changes nothing
(`Conversation.modeAfter`).  A turn is answered in the mode that it names, or else in the one in force
(`Conversation.mode_stays_in_force`).

A caller may keep the mode that the last answered turn reported and hand it back with the next one
(`Conversation.handedBack`).  It may as well not: all turns come to the same
(`Conversation.handing_back_changes_nothing`).

Both hold when the styles are those of a registry that always gives the same answer for a key.
-/

set_option autoImplicit false

namespace NoteDialogue

open Interaction

namespace Call

variable {τ : Type}

/-- Whether a call is a turn of the conversation with an identifier. -/
def IsTurnOf (id : String) : Call τ → Prop
  | .turn request _ _ => request.sessionId = id
  | .ended _ => False

/-- Whether a call does not hand a mode in. -/
def IsSilent : Call τ → Prop
  | .turn request _ _ => request.sessionMode = none
  | .ended _ => True

/-- The same call with a mode that the caller has kept. -/
def handingBack (kept : Option String) : Call τ → Call τ
  | .turn request cancelled own => .turn { request with sessionMode := kept } cancelled own
  | .ended id => .ended id

end Call

namespace Conversation

variable {τ σ : Type} {config : Config} {styles : String → Except Failure (Option Style)}
  {cancelled : Bool} {request : TurnRequest} {store : SessionStore}
  {found stored : Option Session} {id : String}

/-! ## The mode of one request -/

/-- The mode that was put in force in a session that may be there. -/
def stickyMode (found : Option Session) : Option ModeSelection :=
  found.bind (·.stickyMode)

/-- The mode in force in a session that may be there. -/
def modeIn (found : Option Session) : ModeSelection :=
  (stickyMode found).getD .plain

/-- The mode in force in a session, if it is there, stays in force as it is. -/
def Settled (config : Config) (styles : String → Except Failure (Option Style))
    (found : Option Session) : Prop :=
  ∀ session, found = some session → session.ModeSettled config.turn styles

theorem Settled.entered (settled : Settled config styles found) (id userId : String) :
    (found.getD (Session.start id userId)).ModeSettled config.turn styles := by
  cases found with
  | none => exact Session.modeSettled_start id userId
  | some session => exact settled session rfl

theorem stickyMode_entered (found : Option Session) (id userId : String) :
    (found.getD (Session.start id userId)).stickyMode = stickyMode found := by
  cases found <;> rfl

theorem mode_entered (found : Option Session) (id userId : String) :
    (found.getD (Session.start id userId)).mode = modeIn found := by
  rw [Session.mode, stickyMode_entered]
  rfl

section OneRequest

variable {ρ : Type} {world : World ρ} {state last : ρ} {ending : TurnEnding} {result : TurnResult}

/-- An answered request reports its mode and leaves it in force, or the one before, or none. -/
theorem mode_of_answered (answers : world.AnswersStyles styles) (settled : Settled config styles found)
    (visits : visit config world cancelled request found state = (.answered result, stored, last)) :
    let session := found.getD (Session.start request.sessionId request.userId)
    let asked := Turn.modeOf styles request session
    Settled config styles stored ∧ result.mode = asked ∧
      stickyMode stored =
        (session.keepMode config.turn asked request.named?.isSome).stickyMode ∧
      result.stickyMode = (stickyMode stored).map ModeSelection.render := by
  intro session asked
  obtain ⟨committed, rfl, runs⟩ := run_of_visit_answered visits
  obtain ⟨course, taken, follows⟩ := answers.exists_follows (Turn.run config request session) state
  rw [runs] at taken
  obtain ⟨isMode, inForce, reported⟩ := Turn.mode_of_takes taken follows
  have entered := settled.entered request.sessionId request.userId
  refine ⟨?_, isMode, inForce, reported⟩
  rintro _ ⟨⟩
  exact Turn.modeSettled_of_takes entered taken follows

/-- A request without an answer leaves the mode in force as it is. -/
theorem mode_of_unanswered (settled : Settled config styles found)
    (visits : visit config world cancelled request found state = (ending, stored, last))
    (unanswered : ∀ result, ending ≠ .answered result) :
    Settled config styles stored ∧ stickyMode stored = stickyMode found := by
  rcases stored_of_visit_unanswered visits unanswered with rfl | rfl
  · exact ⟨settled, rfl⟩
  · refine ⟨?_, stickyMode_entered found _ _⟩
    rintro _ ⟨⟩
    exact settled.entered _ _

end OneRequest

/-! ## The mode in force -/

/-- The mode in force after a call, given the one before.  Only an answered turn that names a mode has an
influence on it: the mode that it names stays in force, without its style if that was not found, or none
does. -/
def modeAfter (config : Config) (styles : String → Except Failure (Option Style))
    (mode : ModeSelection) (report : Report τ) : ModeSelection :=
  match report.call, report.ending with
  | .turn request _ _, .turn (.answered _) =>
      match request.named? with
      | some named =>
          let asked := named.resolved styles
          if config.turn.isSticky asked.mode then asked else .plain
      | none => mode
  | _, _ => mode

/-- Keeping the mode of an answered turn leaves the mode in force that the report makes. -/
theorem mode_kept_of_answered (settled : Settled config styles found) (own : τ) (result : TurnResult) :
    let session := found.getD (Session.start request.sessionId request.userId)
    (session.keepMode config.turn (Turn.modeOf styles request session) request.named?.isSome).mode =
      modeAfter config styles (modeIn found)
        ⟨.turn request cancelled own, .turn (.answered result), stored⟩ := by
  intro session
  have entered := settled.entered request.sessionId request.userId
  have inForce : session.mode = modeIn found := mode_entered found _ _
  rw [Session.mode_keepMode, Turn.modeOf_eq entered]
  cases names : request.named? with
  | some named => simp only [modeAfter, names, Option.isSome_some, if_true]
  | none =>
      simp only [modeAfter, names, Option.isSome_none, Bool.false_eq_true, if_false]
      rw [ite_self]
      exact inForce

/-- A call leaves the session under its identifier settled, with the mode in force that its report makes. -/
theorem modeAfter_of_serveOne {world : World (τ × σ)} (answers : world.AnswersStyles styles)
    (rest : store.AtRest) (settled : Settled config styles (store.session? id)) {call : Call τ}
    (turn : call.IsTurnOf id) (shared : σ) :
    let served := serveOne config world call store shared
    served.store.AtRest ∧ Settled config styles (served.store.session? id) ∧
      served.reports.foldl (modeAfter config styles) (modeIn (store.session? id)) =
        modeIn (served.store.session? id) := by
  intro served
  cases call with
  | ended => exact turn.elim
  | turn request cancelled own =>
      obtain rfl : request.sessionId = id := turn
      obtain ⟨ending, stored, last, course, visits, serves⟩ :=
        serveOne_turn_visits config world request cancelled own rest shared
      have isStored : served.store.session? request.sessionId = stored := serves.stored
      have isReport : served.reports = [⟨.turn request cancelled own, .turn ending, stored⟩] :=
        serves.reports
      rw [isStored, isReport, List.foldl_cons, List.foldl_nil]
      refine ⟨serves.rest, ?_⟩
      cases ending with
      | answered result =>
          obtain ⟨settledAfter, -, kept, -⟩ := mode_of_answered answers.recorded settled visits
          refine ⟨settledAfter, ?_⟩
          rw [← mode_kept_of_answered settled, modeIn, kept]
          rfl
      | failed | crashed | waiting =>
          obtain ⟨settledAfter, kept⟩ := mode_of_unanswered settled visits fun _ => by simp
          refine ⟨settledAfter, ?_⟩
          rw [modeIn, modeIn, kept]
          rfl

/-- Turns of a conversation leave its session settled, with the mode in force that their reports make. -/
theorem modeAfter_of_serve {world : World (τ × σ)} (answers : world.AnswersStyles styles)
    {calls : List (Call τ)} (turns : ∀ call ∈ calls, call.IsTurnOf id) (rest : store.AtRest)
    (settled : Settled config styles (store.session? id)) (shared : σ) :
    let served := serve config world calls store shared
    served.store.AtRest ∧ Settled config styles (served.store.session? id) ∧
      served.reports.foldl (modeAfter config styles) (modeIn (store.session? id)) =
        modeIn (served.store.session? id) := by
  induction calls generalizing store shared with
  | nil => exact ⟨rest, settled, rfl⟩
  | cons call later ih =>
      obtain ⟨turn, laterTurns⟩ := List.forall_mem_cons.mp turns
      obtain ⟨firstRest, firstSettled, first⟩ := modeAfter_of_serveOne answers rest settled turn shared
      obtain ⟨lastRest, lastSettled, last⟩ := ih laterTurns firstRest firstSettled
        (serveOne config world call store shared).shared
      refine ⟨lastRest, lastSettled, ?_⟩
      simp only [serve, Service.followedBy, List.foldl_append]
      rw [first, last]

theorem settled_none : Settled config styles none := by
  intro session there
  cases there

/-- An answered turn reports the mode that it asked for. -/
theorem mode_of_reported {world : World (τ × σ)} (answers : world.AnswersStyles styles)
    (rest : store.AtRest) (settled : Settled config styles (store.session? request.sessionId)) {own : τ}
    {shared : σ} {result : TurnResult}
    (reported : (serveOne config world (.turn request cancelled own) store shared).reports =
      [⟨.turn request cancelled own, .turn (.answered result), stored⟩]) :
    result.mode = Turn.modeOf styles request
      ((store.session? request.sessionId).getD
        (Session.start request.sessionId request.userId)) := by
  obtain ⟨ending, kept, last, course, visits, serves⟩ :=
    serveOne_turn_visits config world request cancelled own rest shared
  rw [serves.reports] at reported
  cases reported
  exact (mode_of_answered answers.recorded settled visits).2.1

/-- **The mode in force is settled by the answered turns that named one.**  After any turns of a new
conversation, the next turn is answered in the mode of its directive; without a directive in the mode that
its caller hands in, if that can be read; and without either in the mode that the reports on the turns so
far make. -/
theorem mode_stays_in_force {world : World (τ × σ)} (answers : world.AnswersStyles styles)
    (rest : store.AtRest) (new : store.session? id = none) {calls : List (Call τ)}
    (turns : ∀ call ∈ calls, call.IsTurnOf id) (shared : σ) {request : TurnRequest}
    (next : request.sessionId = id) :
    let served := serve config world calls store shared
    let inForce := served.reports.foldl (modeAfter config styles) ModeSelection.plain
    let directive := Directive.ofUtterance request.text
    ∃ asked : ModeSelection,
      (directive.explicit = true → asked = directive.selection.resolved styles) ∧
      (directive.explicit = false → ∀ kept, keptSelection? request.sessionMode = some kept →
        asked = kept.resolved styles) ∧
      (directive.explicit = false → keptSelection? request.sessionMode = none → asked = inForce) ∧
      (∀ cancelled session, startingSession? request cancelled served.store = some session →
        ∀ state,
          let resolving :=
            (StyledSelection.resolve (request.requested session).selection).run world state
          resolving.1 = .brokenOff ∨ ∃ style, resolving.1 = .done ⟨asked, style⟩) ∧
      ∀ cancelled own after result stored,
        (serveOne config world (.turn request cancelled own) served.store after).reports =
          [⟨.turn request cancelled own, .turn (.answered result), stored⟩] →
        result.mode = asked := by
  intro served inForce directive
  subst next
  have begun : Settled config styles (store.session? request.sessionId) := by
    rw [new]
    exact settled_none
  obtain ⟨servedRest, settled, made⟩ := modeAfter_of_serve answers turns rest begun shared
  have isInForce : inForce = modeIn (served.store.session? request.sessionId) := by
    rw [← made, new]
    rfl
  let session := (served.store.session? request.sessionId).getD
    (Session.start request.sessionId request.userId)
  have entered : session.ModeSettled config.turn styles := settled.entered _ _
  have asks := Turn.modeOf_eq entered request
  refine ⟨Turn.modeOf styles request session, ?_, ?_, ?_, ?_, ?_⟩
  · intro explicit
    rw [asks, TurnRequest.named?, if_pos explicit]
  · intro silent kept read
    rw [asks, TurnRequest.named?, if_neg (by rw [silent]; exact Bool.false_ne_true), read]
  · intro silent unread
    rw [asks, TurnRequest.named?, if_neg (by rw [silent]; exact Bool.false_ne_true), unread, isInForce]
    exact mode_entered _ _ _
  · intro cancelled starting starts state
    obtain rfl : session = starting := startingSession?_of_rest servedRest starts
    exact Turn.run_resolve_requested answers request session state
  · intro cancelled own after result stored reported
    exact mode_of_reported answers servedRest settled reported

/-- The styles of a registry that has one. -/
def onlyTutor (key : String) : Except Failure (Option Style) :=
  .ok (if key = "tutor" then some { key, name := "a", systemPrompt := "b" } else none)

/-- A rehearsal with these styles. -/
def rehearsalWithTutor : World (Unit × Rehearsal) :=
  sharedRehearsal.withStyles onlyTutor

/-- A turn in a style that is there, and one in a style that is not. -/
def askedInStyles : List (Call Unit) :=
  [.turn { userId := "u", sessionId := "s", text := "/style:tutor a" } false (),
    .turn { userId := "u", sessionId := "s", text := "/bypass:poet a" } false ()]

/-- A turn without a mode of its own. -/
def askedPlainly : TurnRequest :=
  { userId := "u", sessionId := "s", text := "a" }

/-- After a turn in a style that is not there the same mode without a style is in force, and then it is the
mode of a turn that names none. -/
theorem mode_stays_in_force_without_its_style :
    let served := serve {} rehearsalWithTutor askedInStyles {} Rehearsal.withOneNote
    served.reports.map (fun report => report.stored.map fun session => session.mode) =
        [some ⟨.ragStyle, some "tutor"⟩, some ⟨.bypass, none⟩] ∧
      ∃ result stored,
        (serveOne {} rehearsalWithTutor (.turn askedPlainly false ()) served.store
          served.shared).reports =
            [⟨.turn askedPlainly false (), .turn (.answered result), stored⟩] ∧
        result.mode = ⟨.bypass, none⟩ := by
  intro served
  have turns : ∀ call ∈ askedInStyles, call.IsTurnOf "s" :=
    List.forall_mem_cons.mpr ⟨rfl, List.forall_mem_singleton.mpr rfl⟩
  obtain ⟨asked, -, -, plain, -, reports⟩ :=
    @mode_stays_in_force Unit Rehearsal {} onlyTutor {} "s" rehearsalWithTutor
      (World.withStyles_answersStyles _ _) SessionStore.atRest_empty rfl askedInStyles turns
      Rehearsal.withOneNote askedPlainly rfl
  have isAsked : asked = ⟨.bypass, none⟩ :=
    (plain (by decide +kernel) rfl).trans (by decide +kernel)
  have answered : (execute {} rehearsalWithTutor.recorded false askedPlainly served.store
      (((), served.shared), [])).1.result?.isSome = true := by
    decide +kernel
  rcases executes : execute {} rehearsalWithTutor.recorded false askedPlainly served.store
    (((), served.shared), []) with ⟨ending, after, ⟨own, last⟩, course⟩
  rw [executes] at answered
  cases ending with
  | failed | crashed | waiting => cases answered
  | answered result =>
      have reported : (serveOne {} rehearsalWithTutor (.turn askedPlainly false ()) served.store
          served.shared).reports = [⟨.turn askedPlainly false (), .turn (.answered result),
            after.session? askedPlainly.sessionId⟩] := by
        simp only [serveOne, executes]
      refine ⟨by decide +kernel, result, _, reported, ?_⟩
      rw [← isAsked]
      exact reports false () served.shared result _ reported

/-! ## Modes that are handed back -/

/-- The mode that a caller keeps after some calls: the one that the last answered turn reported. -/
def keptAfter (kept : Option String) (reports : List (Report τ)) : Option String :=
  reports.foldl (fun kept report =>
    match report.ending with
    | .turn (.answered result) => result.stickyMode
    | _ => kept) kept

/-- The calls of a caller that hands back the mode that it keeps. -/
def handedBack (config : Config) (world : World (τ × σ)) :
    Option String → List (Call τ) → SessionStore → σ → List (Call τ)
  | _, [], _, _ => []
  | kept, call :: later, store, shared =>
      let first := serveOne config world (call.handingBack kept) store shared
      call.handingBack kept ::
        handedBack config world (keptAfter kept first.reports) later first.store first.shared

/-- What comes of some calls, apart from the calls themselves: how each of them ended and what it left under
its identifier, all that was asked, the sessions and the world. -/
structure SameService (one other : Service τ σ) : Prop where
  reports : one.reports.map (fun report => (report.ending, report.stored)) =
    other.reports.map fun report => (report.ending, report.stored)
  course : one.course = other.course
  store : one.store = other.store
  shared : one.shared = other.shared

theorem SameService.followedBy {one other later otherLater : Service τ σ} (first : SameService one other)
    (second : SameService later otherLater) :
    SameService (one.followedBy later) (other.followedBy otherLater) where
  reports := by
    simp only [Service.followedBy, List.map_append]
    rw [first.reports, second.reports]
  course := by
    simp only [Service.followedBy]
    rw [first.course, second.course]
  store := second.store
  shared := second.shared

/-- A request that hands back the mode in force comes to the same. -/
theorem execute_handingBack {ρ : Type} {world : World ρ} (answers : world.AnswersStyles styles)
    (rest : store.AtRest) (settled : Settled config styles (store.session? request.sessionId))
    (silent : request.sessionMode = none) (cancelled : Bool) (state : ρ) :
    execute config world cancelled
        { request with
          sessionMode :=
            (stickyMode (store.session? request.sessionId)).map ModeSelection.render } store state =
      execute config world cancelled request store state := by
  have enters : ∀ kept, enter { request with sessionMode := kept } cancelled store =
      enter request cancelled store := fun _ => rfl
  rcases came : enter request cancelled store with ⟨ending | ⟨guard, session⟩, locked⟩
  · rw [execute_of_turnedAway came, execute_of_turnedAway ((enters _).trans came)]
  · rw [execute_of_entered came, execute_of_entered ((enters _).trans came)]
    have entered := session_of_enter rest came
    have isSettled : session.ModeSettled config.turn styles := entered ▸ settled.entered _ _
    have isSticky : stickyMode (store.session? request.sessionId) = session.stickyMode := by
      rw [← entered, stickyMode_entered]
    rw [isSticky, Turn.run_handingBack answers isSettled silent]

/-- A turn that hands back the mode in force comes to the same, and what its caller keeps is the mode in force
then. -/
theorem serveOne_handingBack {world : World (τ × σ)} (answers : world.AnswersStyles styles)
    (rest : store.AtRest) (settled : Settled config styles (store.session? id)) {call : Call τ}
    (turn : call.IsTurnOf id) (silent : call.IsSilent) {kept : Option String}
    (keeps : kept = (stickyMode (store.session? id)).map ModeSelection.render) (shared : σ) :
    let handing := serveOne config world (call.handingBack kept) store shared
    let apart := serveOne config world call store shared
    SameService handing apart ∧
      keptAfter kept handing.reports =
        (stickyMode (apart.store.session? id)).map ModeSelection.render := by
  intro handing apart
  cases call with
  | ended => exact turn.elim
  | turn request cancelled own =>
      obtain rfl : request.sessionId = id := turn
      obtain ⟨ending, stored, last, course, visits, serves⟩ :=
        serveOne_turn_visits config world request cancelled own rest shared
      have sameEnding := execute_handingBack answers.recorded rest settled silent cancelled
        ((own, shared), [])
      rw [← keeps] at sameEnding
      have same : handing = { apart with
          reports := apart.reports.map fun report =>
            { report with call := .turn { request with sessionMode := kept } cancelled own } } := by
        simp only [handing, apart, Call.handingBack, serveOne, sameEnding]
        rfl
      have isReport : apart.reports = [⟨.turn request cancelled own, .turn ending, stored⟩] :=
        serves.reports
      have isStored : apart.store.session? request.sessionId = stored := serves.stored
      refine ⟨?_, ?_⟩
      · rw [same]
        exact ⟨by simp, rfl, rfl, rfl⟩
      · rw [same, isStored, isReport]
        cases ending with
        | answered result =>
            exact (mode_of_answered answers.recorded settled visits).2.2.2
        | failed | crashed | waiting =>
            rw [(mode_of_unanswered settled visits fun _ => by simp).2]
            exact keeps

theorem serve_handingBack {world : World (τ × σ)} (answers : world.AnswersStyles styles)
    {calls : List (Call τ)} (turns : ∀ call ∈ calls, call.IsTurnOf id)
    (silent : ∀ call ∈ calls, call.IsSilent) (rest : store.AtRest)
    (settled : Settled config styles (store.session? id)) {kept : Option String}
    (keeps : kept = (stickyMode (store.session? id)).map ModeSelection.render) (shared : σ) :
    SameService (serve config world (handedBack config world kept calls store shared) store shared)
      (serve config world calls store shared) := by
  induction calls generalizing store shared kept with
  | nil => exact ⟨rfl, rfl, rfl, rfl⟩
  | cons call later ih =>
      obtain ⟨turn, laterTurns⟩ := List.forall_mem_cons.mp turns
      obtain ⟨isSilent, laterSilent⟩ := List.forall_mem_cons.mp silent
      obtain ⟨firstRest, firstSettled, -⟩ := modeAfter_of_serveOne answers rest settled turn shared
      obtain ⟨first, firstKeeps⟩ := serveOne_handingBack answers rest settled turn isSilent keeps shared
      have second := ih laterTurns laterSilent firstRest firstSettled firstKeeps
        (serveOne config world call store shared).shared
      rw [handedBack, serve, serve]
      refine first.followedBy ?_
      rw [first.store, first.shared]
      exact second

/-- A caller hands back the same modes whether or not it goes on afterwards. -/
theorem handedBack_take (world : World (τ × σ)) (kept : Option String) (calls : List (Call τ))
    (store : SessionStore) (shared : σ) (count : Nat) :
    (handedBack config world kept calls store shared).take count =
      handedBack config world kept (calls.take count) store shared := by
  induction calls generalizing kept store shared count with
  | nil => simp [handedBack]
  | cons call later ih =>
      cases count with
      | zero => simp [handedBack]
      | succ count => simp only [handedBack, List.take_succ_cons, ih]

/-- **Handing the reported mode back changes nothing.**  Take any turns of a new conversation that hand no
mode in, and let their caller hand back with each the mode that the last answered turn reported.  After
every one of them the same has come of it: the endings and the results, the sessions that are kept, all
that was asked on the way, and the state of the world. -/
theorem handing_back_changes_nothing {world : World (τ × σ)} (answers : world.AnswersStyles styles)
    (rest : store.AtRest) (new : store.session? id = none) {calls : List (Call τ)}
    (turns : ∀ call ∈ calls, call.IsTurnOf id) (silent : ∀ call ∈ calls, call.IsSilent) (shared : σ)
    (count : Nat) :
    SameService
      (serve config world ((handedBack config world none calls store shared).take count) store shared)
      (serve config world (calls.take count) store shared) := by
  have begun : Settled config styles (store.session? id) := by
    rw [new]
    exact settled_none
  have keeps : none = (stickyMode (store.session? id)).map ModeSelection.render := by
    rw [new]
    rfl
  rw [handedBack_take]
  exact serve_handingBack answers (fun call member => turns call (List.mem_of_mem_take member))
    (fun call member => silent call (List.mem_of_mem_take member)) rest begun keeps shared

/-- A caller that hands back a style, and then the mode that was left of another style, might as well not. -/
theorem handing_back_styles_changes_nothing :
    let calls := askedInStyles ++ [.turn askedPlainly false ()]
    let handed := handedBack {} rehearsalWithTutor none calls {} Rehearsal.withOneNote
    handed.map (fun call =>
        match call with
        | .turn request _ _ => request.sessionMode
        | .ended _ => none) = [none, some "rag_style:tutor", some "bypass"] ∧
      ∀ count, SameService
        (serve {} rehearsalWithTutor (handed.take count) {} Rehearsal.withOneNote)
        (serve {} rehearsalWithTutor (calls.take count) {} Rehearsal.withOneNote) := by
  intro calls handed
  have turns : ∀ call ∈ calls, call.IsTurnOf "s" :=
    List.forall_mem_cons.mpr ⟨rfl, List.forall_mem_cons.mpr ⟨rfl, List.forall_mem_singleton.mpr rfl⟩⟩
  have silent : ∀ call ∈ calls, call.IsSilent :=
    List.forall_mem_cons.mpr ⟨rfl, List.forall_mem_cons.mpr ⟨rfl, List.forall_mem_singleton.mpr rfl⟩⟩
  refine ⟨by decide +kernel, fun count => ?_⟩
  exact handing_back_changes_nothing (World.withStyles_answersStyles sharedRehearsal onlyTutor)
    SessionStore.atRest_empty rfl turns silent Rehearsal.withOneNote count

end Conversation

end NoteDialogue
