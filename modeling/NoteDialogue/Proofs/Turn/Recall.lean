import NoteDialogue.Proofs.Plan
import NoteDialogue.Proofs.Recall
import NoteDialogue.Proofs.Turn.Route

/-!
# How turns recall embeddings

Whatever a turn searches for is trimmed: its own question, which is put together from words
(`TurnRequest.trim_question`), and what a plan tells it to search for.  So a turn recalls embeddings of
trimmed queries alone, and otherwise asks about the notes of its own user (`Turn.run_recalls`).
-/

set_option autoImplicit false

namespace NoteDialogue

open Interaction Retrieval

theorem MentionReading.trim_cleanText (text : List Char) :
    Text.trim (MentionReading.ofChars text).cleanText = (MentionReading.ofChars text).cleanText := by
  unfold MentionReading.ofChars
  rcases cut quotedTag text with ⟨afterQuoted, quoted⟩
  simp only
  rcases cut bareTag afterQuoted with ⟨afterBare, bare⟩
  simp only
  rcases cut wikiLink afterBare with ⟨afterLinks, links⟩
  exact Text.trim_intercalate_words afterLinks

/-- A turn asks a trimmed question. -/
theorem TurnRequest.trim_question (request : TurnRequest) :
    Text.trim request.question = request.question :=
  MentionReading.trim_cleanText _

theorem Ask.Prepares.concerns {ownerId : String} {question : Ask}
    (prepares : question.Prepares ownerId) : question.Concerns ownerId := by
  match question with
  | .generate _ _ _ _ | .embedQuery _ _ | .embedPassages _ => exact prepares.elim
  | .lookUp lookup =>
      cases lookup with
      | style => trivial
      | noteById | notesByTitle | notesByText => exact prepares
      | setting | recollect | remember | notesByTerms | similarChunks => exact prepares.elim

section Steps

variable {ownerId : String} {limit : Nat} {mayCrash : Prop}

theorem TurnSetting.generate_recalls (setting : TurnSetting) (messages : List Message) :
    (setting.generate messages).Recalls (Ask.Concerns ownerId) limit mayCrash := by
  refine Recalls.andThen (.request trivial) fun answer => ?_
  rcases answer with answer | _
  · exact .ofExcept answer
  · exact .failed _

theorem TurnSetting.answer_recalls (setting : TurnSetting) (documents : List Document)
    (question : String) :
    (setting.answer documents question).Recalls (Ask.Concerns ownerId) limit mayCrash :=
  (setting.generate_recalls _).andThen fun _ => .done _

theorem TurnSetting.replyDirectly_recalls (setting : TurnSetting) (shared : List Message)
    (question : String) :
    (setting.replyDirectly shared question).Recalls (Ask.Concerns ownerId) limit mayCrash :=
  (setting.generate_recalls _).andThen fun _ => .done _

theorem planTurn_recalls (timeout : Nat) (session : Session) (question : String)
    (history : List Message) (hint : Option String) :
    (planTurn timeout session question history hint).Recalls (Ask.Concerns ownerId) limit mayCrash :=
  Recalls.andThen (.request trivial) fun _ => .done _

end Steps

/-! ## Answering from the notes -/

namespace Dialogue

variable {retrieval : RetrievalConfig} {userId : String} {mayCrash : Prop} (setting : TurnSetting)
  (session : Session) {query : String} (question : String)

theorem act_recalls (action : PlanAction) :
    (act setting session action question).Recalls (Ask.Concerns userId) retrieval.embeddingTimeout
      mayCrash := by
  rcases act_cases setting session action question with ⟨-, acts⟩ | ⟨-, changed, -, acts⟩
  · rw [acts]
    exact .done _
  · rw [acts]
    exact (setting.answer_recalls _ _).andThen fun _ => .done _

theorem continueSearch_recalls (query : String) (found : SearchResult) :
    (continueSearch setting session query question found).Recalls (Ask.Concerns userId)
      retrieval.embeddingTimeout mayCrash := by
  rcases found with ⟨documents, strategy, ambiguity⟩
  match documents with
  | [] => exact .done _
  | [_] => exact (act_recalls setting _ question _).andThen fun _ => .done _
  | first :: second :: others =>
      cases ambiguity with
      | none => exact (setting.answer_recalls _ _).andThen fun _ => .done _
      | some reason =>
          exact (planTurn_recalls _ _ _ _ _).andThen fun plan =>
            (act_recalls setting _ question _).andThen fun _ => .done _

theorem searchFailed_recalls (failure : Failure) :
    (searchFailed failure session).Recalls (Ask.Concerns userId) retrieval.embeddingTimeout
      mayCrash := by
  unfold searchFailed
  by_cases fromProvider : failure.isFromProvider = true
  · rw [if_pos fromProvider]
    exact .failed _
  · rw [if_neg fromProvider]
    exact .done _

theorem searchAndAnswer_recalls (trimmed : Text.trim query = query) :
    (searchAndAnswer setting retrieval userId session query question).Recalls (Ask.Concerns userId)
      retrieval.embeddingTimeout mayCrash := by
  refine (Retrieval.search_recalls trimmed).attempt.andThen fun outcome => ?_
  cases outcome with
  | ok found => exact continueSearch_recalls setting session question query found
  | error failure => exact searchFailed_recalls session failure

/-- What a plan searches for is trimmed when the question is. -/
theorem plan_recalls {question : String} (trimmed : Text.trim question = question)
    {next : ActionPlan → Interaction Outcome}
    (nextRecalls : ∀ plan : ActionPlan,
      (∀ query, plan.action = .search query → Text.trim query = query) →
        (next plan).Recalls (Ask.Concerns userId) retrieval.embeddingTimeout mayCrash) :
    ((Dialogue.plan setting session question).andThen next).Recalls (Ask.Concerns userId)
      retrieval.embeddingTimeout mayCrash := by
  unfold Dialogue.plan
  cases session.candidates.isEmpty with
  | true =>
      refine nextRecalls _ fun query searches => ?_
      cases searches
      exact trimmed
  | false =>
      refine .ask trivial fun answer => nextRecalls _ fun query searches => ?_
      exact ActionPlan.trim_searchQuery searches

theorem reply_recalls {question : String} (trimmed : Text.trim question = question) :
    (Dialogue.reply setting retrieval userId session question).Recalls (Ask.Concerns userId)
      retrieval.embeddingTimeout mayCrash := by
  refine plan_recalls setting session trimmed fun plan trimmedQuery => ?_
  cases action : plan.action with
  | search query =>
      exact searchAndAnswer_recalls setting session question (trimmedQuery query action)
  | select _ | switch _ | answerCurrent | answerAll | clarify =>
      exact act_recalls setting session question _

end Dialogue

/-! ## Whole turns -/

namespace Turn

variable {config : Config} {request : TurnRequest} {selected : StyledSelection} {session : Session}
  {references : List ResolvedReference} {mayCrash : Prop}

theorem history_recalls (lacks : windowOf config request selected = none → mayCrash) :
    (Turn.history config.turn selected.selection.mode request.history).Recalls
      (Ask.Concerns request.userId) config.retrieval.embeddingTimeout mayCrash := by
  unfold Turn.history
  cases window : historyWindow? config.turn.historyTurns selected.selection.mode request.history with
  | some given => exact .done given
  | none => exact .crashed (lacks window)

theorem replyFromReferences_recalls (setting : TurnSetting) (question : String) :
    (replyFromReferences setting references question).Recalls (Ask.Concerns request.userId)
      config.retrieval.embeddingTimeout mayCrash := by
  unfold replyFromReferences
  cases setting.selected.selection.mode.isBypass with
  | true => exact setting.replyDirectly_recalls _ _
  | false => exact setting.answer_recalls _ _

/-- Answering a turn recalls embeddings, and may crash when it lacks the window. -/
theorem route_recalls (lacks : windowOf config request selected = none → mayCrash) :
    (route config request selected session references request.question).Recalls
      (Ask.Concerns request.userId) config.retrieval.embeddingTimeout mayCrash := by
  rcases route_cases config request selected session references request.question with
    ⟨-, routes⟩ | ⟨-, -, routes⟩ | ⟨-, -, -, routes⟩ | ⟨-, -, -, routes⟩
  · rw [routes]
    refine (history_recalls lacks).andThen fun history => ?_
    exact (replyFromReferences_recalls _ _).andThen fun _ => .done _
  · rw [routes]
    exact .done _
  · rw [routes]
    refine (history_recalls lacks).andThen fun history => ?_
    exact (TurnSetting.replyDirectly_recalls _ _ _).andThen fun _ => .done _
  · rw [routes]
    exact (history_recalls lacks).andThen fun history => Dialogue.reply_recalls _ _ request.trim_question

/-- **A turn recalls the embeddings of trimmed queries and is else about the notes of its user.** -/
theorem run_recalls (config : Config) (request : TurnRequest) (session : Session) :
    (Turn.run config request session).Recalls (Ask.Concerns request.userId)
      config.retrieval.embeddingTimeout True := by
  have styling := StyledSelection.resolve_asksOnly request.userId (request.requested session).selection
  have referring := references_asksOnly config.turn request request.mentions
  refine (styling.mono fun _ => Ask.Prepares.concerns).recalls.andThen fun selected => ?_
  refine (referring.mono fun _ => Ask.Prepares.concerns).recalls.andThen fun references => ?_
  exact (route_recalls fun _ => trivial).andThen fun _ => .done _

end Turn

end NoteDialogue
