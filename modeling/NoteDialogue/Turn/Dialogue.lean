import NoteDialogue.Retrieval
import NoteDialogue.Turn.Planning
import NoteDialogue.Turn.Reply

/-!
# A turn about the notes

A turn that asks something of the notes is planned against the candidates of the session and either
searches or acts on what is there.  A search that finds one note picks it; one that finds several is
answered from all of them, unless it is ambiguous, when it is planned once more.  An action that does
not fit the session asks back and leaves the session as it is.

What follows a refused action is a parameter of all this (`Refusal`), and turns are the case of asking
back.  With the parameter it can be said which refusals a turn meets at all.
-/

set_option autoImplicit false

namespace NoteDialogue

/-- A reply and the session after it. -/
abbrev Outcome := TurnReply × Session

/-- A way of going on when a session refuses an action. -/
abbrev Refusal := TransitionError → Session → Interaction Outcome

/-- Ask back, which is what a turn does. -/
def Refusal.askBack : Refusal := fun _ session => .done (.clarify session, session)

namespace Dialogue

/-- Apply an action other than a search and answer from the notes that are then in scope. -/
def actWith (refusal : Refusal) (setting : TurnSetting) (session : Session) (action : PlanAction)
    (question : String) : Interaction Outcome :=
  if action.kind == .clarify then .done (.clarify session, session)
  else
    match session.apply action with
    | .error error => refusal error session
    | .ok changed => do
        let reply ← setting.answer changed.scope question
        pure ({ reply with action := some action.kind }, changed)

/-- Go on after a search that found several notes, or one, or none. -/
def continueSearchWith (refusal : Refusal) (setting : TurnSetting) (session : Session)
    (query question : String) (found : SearchResult) : Interaction Outcome := do
  let session := session.recordSearch query found.documents
  match found.documents with
  | [] =>
      pure ({ text := noResultsReply query, action := some .search,
              strategy := some found.strategy }, session)
  | [_] =>
      let (reply, session) ← actWith refusal setting session (.select 0) question
      pure ({ reply with action := some .search, strategy := some found.strategy }, session)
  | _ =>
      match found.ambiguity with
      | some reason =>
          let plan ← planTurn setting.config.plannerTimeout session question setting.history
            (some (ambiguityHint reason))
          let (reply, session) ← actWith refusal setting session plan.action.afterSearch question
          pure ({ reply with strategy := some found.strategy }, session)
      | none =>
          let reply ← setting.answer found.documents question
          pure ({ reply with action := some .search, strategy := some found.strategy }, session)

/-- The reply when notes could not be searched; a failure of a provider ends the turn. -/
def searchFailed (failure : Failure) (session : Session) : Interaction Outcome :=
  if failure.isFromProvider then .failed failure
  else .done ({ text := searchUnavailableReply, action := some .search }, session)

/-- Search the notes and answer. -/
def searchAndAnswerWith (refusal : Refusal) (setting : TurnSetting) (retrieval : RetrievalConfig)
    (userId : String) (session : Session) (query question : String) : Interaction Outcome := do
  match ← (Retrieval.search retrieval userId query {}).attempt with
  | .ok found => continueSearchWith refusal setting session query question found
  | .error failure => searchFailed failure session

/-- Plan a message against the candidates of the session. -/
def plan (setting : TurnSetting) (session : Session) (question : String) :
    Interaction ActionPlan :=
  if session.candidates.isEmpty then .done (initialPlan question)
  else planTurn setting.config.plannerTimeout session question setting.history none

/-- Answer a message from the notes. -/
def replyWith (refusal : Refusal) (setting : TurnSetting) (retrieval : RetrievalConfig)
    (userId : String) (session : Session) (question : String) : Interaction Outcome := do
  match (← plan setting session question).action with
  | .search query => searchAndAnswerWith refusal setting retrieval userId session query question
  | action => actWith refusal setting session action question

/-! ## Asking back -/

/-- Act on a session, and ask back if it refuses. -/
def act : TurnSetting → Session → PlanAction → String → Interaction Outcome := actWith .askBack

/-- Go on after a search, and ask back after a refusal. -/
def continueSearch :
    TurnSetting → Session → String → String → SearchResult → Interaction Outcome :=
  continueSearchWith .askBack

/-- Search and answer, and ask back after a refusal. -/
def searchAndAnswer :
    TurnSetting → RetrievalConfig → String → Session → String → String → Interaction Outcome :=
  searchAndAnswerWith .askBack

/-- Answer from the notes, and ask back after a refusal. -/
def reply :
    TurnSetting → RetrievalConfig → String → Session → String → Interaction Outcome :=
  replyWith .askBack

end Dialogue

end NoteDialogue
