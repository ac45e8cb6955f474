import NoteDialogue.Proofs.Course
import NoteDialogue.Proofs.Mode.Directive
import NoteDialogue.Proofs.Turn.Route

/-!
# The mode of a turn

A turn may name its mode, by a directive or else by a written selection that the caller hands in
(`TurnRequest.named?`); a turn that names none takes the mode in force.  The style of the mode is then
looked up, and a mode whose style is not found loses it.

Here the styles are those of a registry that answers alike whenever it is asked for a key
(`World.AnswersStyles`).  Looking up the style of a selection then comes to the same each time
(`ModeSelection.resolved`), and once looked up it may be looked up again without a change
(`resolved_resolved`).  A turn that ends well reports that mode and leaves a session in which it is in
force, or the one before is, or none (`Turn.mode_of_takes`).

A mode in force that was looked up and stays in force may as well be named by the caller, in its written
form: the turn is the same (`Turn.run_handingBack`).
-/

set_option autoImplicit false

namespace NoteDialogue

open Interaction

variable {α β σ : Type} {styles : String → Except Failure (Option Style)} {world : World σ}

/-! ## Registries of styles -/

/-- Whoever answers for the styles gives the same answer whenever it is asked for a key, if it gives one. -/
def World.AnswersStyles (world : World σ) (styles : String → Except Failure (Option Style)) : Prop :=
  ∀ key state answer, (world.answer (.lookUp (.style key)) state).1 = some answer → answer = styles key

/-- A step of a course in which a style was looked up, if it is one, got the answer of these styles. -/
def Answered.FollowsStyles (styles : String → Except Failure (Option Style)) (step : Answered) : Prop :=
  ∀ (key : String) (answer : Except Failure (Option Style)),
    step = ⟨.lookUp (.style key), answer⟩ → answer = styles key

/-- What a world says about styles in place of what it said. -/
def restyle (styles : String → Except Failure (Option Style)) :
    (question : Ask) → question.Answer → question.Answer
  | .lookUp (.style key), _ => styles key
  | _, answer => answer

/-- The world that answers for the styles as it is told and otherwise is as it was. -/
def World.withStyles (world : World σ) (styles : String → Except Failure (Option Style)) : World σ where
  answer question state :=
    let (answer, after) := world.answer question state
    (answer.map (restyle styles question), after)

theorem World.withStyles_answersStyles (world : World σ)
    (styles : String → Except Failure (Option Style)) :
    (world.withStyles styles).AnswersStyles styles := by
  intro key state answer given
  obtain ⟨_, -, same⟩ := Option.map_eq_some_iff.mp given
  exact same.symm

theorem World.AnswersStyles.recorded (answers : world.AnswersStyles styles) :
    world.recorded.AnswersStyles styles := by
  intro key state answer given
  rcases asked : world.answer (.lookUp (.style key)) state.1 with ⟨_ | known, after⟩
  · simp [World.recorded, asked] at given
  · simp only [World.recorded, asked, Option.some.injEq] at given
    subst given
    exact answers key state.1 known (by rw [asked])

/-- Every step that a world answers follows the styles. -/
theorem World.AnswersStyles.follows (answers : world.AnswersStyles styles) {question : Ask} {state : σ}
    {answer : question.Answer} (given : (world.answer question state).1 = some answer) :
    Answered.FollowsStyles styles ⟨question, answer⟩ := by
  rintro key style ⟨⟩
  exact answers key state style given

/-- In a world with these styles every run takes a course that follows them. -/
theorem World.AnswersStyles.exists_follows (answers : world.AnswersStyles styles)
    (interaction : Interaction α) (state : σ) :
    ∃ course, interaction.Takes course (interaction.run world state).1 ∧
      ∀ step ∈ course, step.FollowsStyles styles := by
  have keeps : ∀ (question : Ask) (state : σ), True → True ∧
      ∀ answer, (world.answer question state).1 = some answer →
        Answered.FollowsStyles styles ⟨question, answer⟩ :=
    fun _ _ _ => ⟨trivial, fun _ given => answers.follows given⟩
  exact (exists_takes_run keeps interaction trivial).2

/-! ## The style of a selection -/

namespace ModeSelection

/-- A selection with its style, as the styles have it. -/
def styledBy (styles : String → Except Failure (Option Style)) (selection : ModeSelection) :
    StyledSelection :=
  match selection.styleKey with
  | none => ⟨selection, none⟩
  | some key => .ofLookup selection (styles key)

/-- What is left of a selection when its style is looked up. -/
def resolved (styles : String → Except Failure (Option Style)) (selection : ModeSelection) :
    ModeSelection :=
  (selection.styledBy styles).selection

/-- A selection keeps its style or loses it. -/
theorem resolved_cases (selection : ModeSelection) :
    selection.resolved styles = selection ∨ selection.resolved styles = selection.unstyled := by
  unfold resolved styledBy
  cases selection.styleKey with
  | none => exact .inl rfl
  | some key =>
      change (StyledSelection.ofLookup selection (styles key)).selection = selection ∨
        (StyledSelection.ofLookup selection (styles key)).selection = selection.unstyled
      rcases styles key with failure | _ | style
      · exact .inr rfl
      · exact .inr rfl
      · exact .inl rfl

theorem resolved_unstyled (selection : ModeSelection) :
    selection.unstyled.resolved styles = selection.unstyled := rfl

theorem resolved_resolved (selection : ModeSelection) :
    (selection.resolved styles).resolved styles = selection.resolved styles := by
  rcases resolved_cases selection with same | lost
  · rw [same, same]
  · rw [lost, resolved_unstyled]

theorem Canonical.resolved {selection : ModeSelection} (canonical : selection.Canonical) :
    (selection.resolved styles).Canonical := by
  rcases resolved_cases selection with same | lost
  · rwa [same]
  · rw [lost]
    exact canonical_unstyled selection

end ModeSelection

/-- In a world with these styles, looking up the style of a selection is broken off or comes to the same. -/
theorem StyledSelection.run_resolve (answers : world.AnswersStyles styles) (selection : ModeSelection)
    (state : σ) :
    ((StyledSelection.resolve selection).run world state).1 = .brokenOff ∨
      ((StyledSelection.resolve selection).run world state).1 = .done (selection.styledBy styles) := by
  unfold StyledSelection.resolve ModeSelection.styledBy
  cases selection.styleKey with
  | none => exact .inr rfl
  | some key =>
      rcases asked : world.answer (.lookUp (.style key)) state with ⟨_ | found, after⟩
      · exact .inl (by simp only [bind_eq_andThen, lookUp, andThen, run, asked])
      · have same := answers key state found (by rw [asked])
        refine .inr ?_
        simp only [bind_eq_andThen, lookUp, andThen, run, asked, same]
        rfl

/-- Looking up the style of a selection: there is none to look up, it is found, or the selection loses it. -/
inductive StyledSelection.Resolved (selection : ModeSelection) : Course → StyledSelection → Prop where
  | plain (noKey : selection.styleKey = none) : Resolved selection [] ⟨selection, none⟩
  | found {key : String} {style : Style} (named : selection.styleKey = some key) :
      Resolved selection
        [⟨.lookUp (.style key), (.ok (some style) : Except Failure (Option Style))⟩]
        ⟨selection, some style⟩
  | lost {key : String} {answer : Except Failure (Option Style)} (named : selection.styleKey = some key)
      (missing : ∀ style, answer ≠ .ok (some style)) :
      Resolved selection [⟨.lookUp (.style key), answer⟩] ⟨selection.unstyled, none⟩

theorem StyledSelection.resolve_takes_done {selection : ModeSelection} {course : Course}
    {selected : StyledSelection}
    (taken : (StyledSelection.resolve selection).Takes course (.done selected)) :
    StyledSelection.Resolved selection course selected := by
  unfold StyledSelection.resolve at taken
  cases named : selection.styleKey with
  | none =>
      rw [named] at taken
      obtain ⟨rfl, same⟩ := takes_done.mp taken
      cases same
      exact .plain named
  | some key =>
      simp only [named] at taken
      obtain ⟨asking, rest, answer, rfl, asked, ending⟩ := takes_andThen_done.mp taken
      rw [takes_lookUp_done] at asked
      subst asked
      obtain ⟨rfl, same⟩ := takes_done.mp ending
      cases same
      rcases answer with failure | _ | style
      · exact .lost named fun _ => by simp
      · exact .lost named fun _ => by simp
      · exact .found named

/-- With these styles, what is found is what they have. -/
theorem StyledSelection.Resolved.eq_styledBy {selection : ModeSelection} {course : Course}
    {selected : StyledSelection} (resolved : StyledSelection.Resolved selection course selected)
    (follows : ∀ step ∈ course, step.FollowsStyles styles) : selected = selection.styledBy styles := by
  unfold ModeSelection.styledBy
  cases resolved with
  | plain noKey => rw [noKey]
  | @found key style named =>
      have same := follows _ (List.mem_singleton_self _) key _ rfl
      simp only [named, ← same]
      rfl
  | @lost key answer named missing =>
      have same := follows _ (List.mem_singleton_self _) key _ rfl
      simp only [named, ← same]
      rcases answer with failure | _ | style
      · rfl
      · rfl
      · exact absurd rfl (missing style)

/-- What comes of a canonical selection is canonical, and has a style exactly if its mode is styled. -/
theorem StyledSelection.Resolved.canonical {selection : ModeSelection} {course : Course}
    {selected : StyledSelection} (resolved : StyledSelection.Resolved selection course selected)
    (canonical : selection.Canonical) :
    selected.selection.Canonical ∧ selected.selection.mode.isStyled = selected.style.isSome := by
  cases resolved with
  | plain noKey => exact ⟨canonical, by rw [canonical.styled_iff, noKey]; rfl⟩
  | found named => exact ⟨canonical, by rw [canonical.styled_iff, named]; rfl⟩
  | lost =>
      have unstyled := ModeSelection.canonical_unstyled selection
      exact ⟨unstyled, unstyled.styled_iff⟩

/-! ## The mode that a turn asks for -/

/-- The mode that a turn names: by a directive, or else by a written selection that can be read. -/
def TurnRequest.named? (request : TurnRequest) : Option ModeSelection :=
  if (Directive.ofUtterance request.text).explicit then
    some (Directive.ofUtterance request.text).selection
  else keptSelection? request.sessionMode

/-- The mode in force in a session; at first it is answering from the notes. -/
def Session.mode (session : Session) : ModeSelection :=
  session.stickyMode.getD .plain

/-- A turn asks for the mode that it names, or for the mode in force. -/
theorem TurnRequest.requested_eq (request : TurnRequest) (session : Session) :
    request.requested session = ⟨request.named?.getD session.mode, request.named?.isSome⟩ := by
  unfold TurnRequest.requested requestedMode TurnRequest.named?
  by_cases explicit : (Directive.ofUtterance request.text).explicit = true
  · simp only [if_pos explicit, Option.getD_some, Option.isSome_some]
  · simp only [if_neg explicit]
    cases keptSelection? request.sessionMode <;> rfl

theorem canonical_keptSelection? {written : Option String} {selection : ModeSelection}
    (kept : keptSelection? written = some selection) : selection.Canonical := by
  unfold keptSelection? at kept
  cases written with
  | none => cases kept
  | some text =>
      by_cases blank : Text.isBlankText text = true
      · simp [blank] at kept
      · simp only [if_neg blank] at kept
        cases reads : ModeSelection.ofText text with
        | error => simp [reads, Except.toOption] at kept
        | ok read =>
            simp only [reads, Except.toOption, Option.some.injEq] at kept
            exact kept ▸ ModeSelection.canonical_ofText reads

theorem TurnRequest.canonical_named? {request : TurnRequest} {selection : ModeSelection}
    (names : request.named? = some selection) : selection.Canonical := by
  unfold TurnRequest.named? at names
  by_cases explicit : (Directive.ofUtterance request.text).explicit = true
  · rw [if_pos explicit] at names
    cases names
    exact Directive.canonical_selection request.text
  · rw [if_neg explicit] at names
    exact canonical_keptSelection? names

/-- The written form of a canonical selection can be read. -/
theorem keptSelection?_render {selection : ModeSelection} (canonical : selection.Canonical) :
    keptSelection? (some selection.render) = some selection := by
  have named : Text.isBlankText selection.render = false := by
    obtain ⟨mode, _ | key⟩ := selection <;> cases mode <;>
      simp [ModeSelection.render, Text.isBlankText, ChatMode.name, Text.isBlank]
  simp [keptSelection?, named, ModeSelection.ofText_render canonical, Except.toOption]

/-! ## Canonical modes in force -/

namespace Session

/-- The mode in force in a session, if there is one, is canonical. -/
def ModeCanonical (session : Session) : Prop :=
  ∀ selection, session.stickyMode = some selection → selection.Canonical

theorem modeCanonical_start (id userId : String) : (start id userId).ModeCanonical := by
  intro selection inForce
  cases inForce

/-- A mode in force after a turn was put in force by it, and is one that stays, or was in force before. -/
theorem stickyMode_keepMode {config : TurnConfig} {session : Session} {selection inForce : ModeSelection}
    {byTurn : Bool} (given : (session.keepMode config selection byTurn).stickyMode = some inForce) :
    (inForce = selection ∧ config.isSticky selection.mode = true) ∨
      session.stickyMode = some inForce := by
  unfold Session.keepMode modeInForce at given
  by_cases sticky : config.isSticky selection.mode = true
  · simp only [if_pos sticky, Option.some.injEq] at given
    exact .inl ⟨given.symm, sticky⟩
  · simp only [if_neg sticky] at given
    cases byTurn with
    | true => cases given
    | false => exact .inr given

theorem ModeCanonical.keepMode {session : Session} (canonical : session.ModeCanonical)
    {selection : ModeSelection} (kept : selection.Canonical) (config : TurnConfig) (byTurn : Bool) :
    (session.keepMode config selection byTurn).ModeCanonical := by
  intro inForce given
  rcases stickyMode_keepMode given with ⟨rfl, -⟩ | before
  · exact kept
  · exact canonical inForce before

theorem ModeCanonical.canonical_mode {session : Session} (canonical : session.ModeCanonical) :
    session.mode.Canonical := by
  unfold Session.mode
  cases inForce : session.stickyMode with
  | none => exact ModeSelection.canonical_plain
  | some selection => exact canonical selection inForce

end Session

/-- What a turn asks for is canonical. -/
theorem TurnRequest.canonical_requested (request : TurnRequest) {session : Session}
    (canonical : session.ModeCanonical) : (request.requested session).selection.Canonical := by
  rw [request.requested_eq]
  cases names : request.named? with
  | some selection => exact TurnRequest.canonical_named? names
  | none => exact canonical.canonical_mode

/-! ## Modes that stay in force -/

/-- A mode that stays in force as it is: it is canonical, it is configured to stay in force, and looking up
its style does not change it. -/
structure ModeSelection.Settled (config : TurnConfig) (styles : String → Except Failure (Option Style))
    (selection : ModeSelection) : Prop where
  canonical : selection.Canonical
  sticky : config.isSticky selection.mode = true
  resolved : selection.resolved styles = selection

namespace Session

variable {config : TurnConfig} {session : Session}

/-- The mode in force in a session, if there is one, stays in force as it is. -/
def ModeSettled (config : TurnConfig) (styles : String → Except Failure (Option Style))
    (session : Session) : Prop :=
  ∀ selection, session.stickyMode = some selection → selection.Settled config styles

theorem modeSettled_start (id userId : String) : (start id userId).ModeSettled config styles :=
  nofun

theorem ModeSettled.modeCanonical (settled : session.ModeSettled config styles) :
    session.ModeCanonical :=
  fun selection inForce => (settled selection inForce).canonical

theorem ModeSettled.resolved_mode (settled : session.ModeSettled config styles) :
    session.mode.resolved styles = session.mode := by
  unfold Session.mode
  cases inForce : session.stickyMode with
  | none => rfl
  | some selection => exact (settled selection inForce).resolved

/-- Keeping a mode whose style was looked up leaves a mode in force that stays so as it is. -/
theorem ModeSettled.keepMode (settled : session.ModeSettled config styles) {selection : ModeSelection}
    (canonical : selection.Canonical) (resolved : selection.resolved styles = selection)
    (byTurn : Bool) : (session.keepMode config selection byTurn).ModeSettled config styles := by
  intro inForce given
  rcases stickyMode_keepMode given with ⟨rfl, sticky⟩ | before
  · exact ⟨canonical, sticky, resolved⟩
  · exact settled inForce before

/-- The mode in force after a turn. -/
theorem mode_keepMode (session : Session) (selection : ModeSelection) (byTurn : Bool) :
    (session.keepMode config selection byTurn).mode =
      if config.isSticky selection.mode then selection
      else if byTurn then .plain
      else session.mode := by
  unfold Session.mode Session.keepMode modeInForce
  by_cases sticky : config.isSticky selection.mode = true
  · simp only [if_pos sticky, Option.getD_some]
  · simp only [if_neg sticky]
    cases byTurn <;> rfl

theorem stickyMode_of_apply {changed : Session} {action : PlanAction}
    (applied : session.apply action = .ok changed) : changed.stickyMode = session.stickyMode := by
  rcases apply_cases applied with ⟨_, _, -, -, rfl⟩ | ⟨-, -, rfl⟩ | ⟨-, -, rfl⟩ | ⟨-, rfl⟩ <;> rfl

end Session

/-! ## Whole turns -/

namespace Turn

variable {config : Config} {request : TurnRequest} {session after : Session} {course : Course}
  {result : TurnResult}

/-- The mode in which a turn of a session is answered. -/
def modeOf (styles : String → Except Failure (Option Style)) (request : TurnRequest)
    (session : Session) : ModeSelection :=
  (request.requested session).selection.resolved styles

/-- **A turn that ends well reports the mode that it asked for, and what it leaves in force.** -/
theorem mode_of_takes
    (taken : (Turn.run config request session).Takes course (.done (result, after)))
    (follows : ∀ step ∈ course, step.FollowsStyles styles) :
    result.mode = modeOf styles request session ∧
      after.stickyMode = (session.keepMode config.turn (modeOf styles request session)
        request.named?.isSome).stickyMode ∧
      result.stickyMode = after.stickyMode.map ModeSelection.render := by
  obtain ⟨styling, referring, answering, selected, references, reply, rfl, styled, -, routed, rfl⟩ :=
    run_takes_done taken
  have isStyled := (StyledSelection.resolve_takes_done styled).eq_styledBy fun step member =>
    follows step (List.mem_append_left _ member)
  subst isStyled
  have byTurn : (request.requested session).byTurn = request.named?.isSome := by
    rw [request.requested_eq]
  refine ⟨rfl, ?_, rfl⟩
  rw [← byTurn]
  exact routed.preserves (fun current => current.stickyMode = _) rfl
    (fun same applied => (Session.stickyMode_of_apply applied).trans same) fun _ _ => rfl

theorem modeOf_eq (settled : session.ModeSettled config.turn styles) (request : TurnRequest) :
    modeOf styles request session =
      match request.named? with
      | some selection => selection.resolved styles
      | none => session.mode := by
  unfold modeOf
  rw [request.requested_eq]
  cases request.named? with
  | some selection => rfl
  | none => exact settled.resolved_mode

theorem canonical_modeOf (settled : session.ModeSettled config.turn styles) (request : TurnRequest) :
    (modeOf styles request session).Canonical :=
  (request.canonical_requested settled.modeCanonical).resolved

/-- A turn that ends well leaves a mode in force that stays so as it is. -/
theorem modeSettled_of_takes (settled : session.ModeSettled config.turn styles)
    (taken : (Turn.run config request session).Takes course (.done (result, after)))
    (follows : ∀ step ∈ course, step.FollowsStyles styles) : after.ModeSettled config.turn styles := by
  obtain ⟨-, inForce, -⟩ := mode_of_takes taken follows
  have kept := settled.keepMode (canonical_modeOf settled request)
    (ModeSelection.resolved_resolved _) request.named?.isSome
  intro selection isInForce
  exact kept selection (inForce ▸ isInForce)

/-- Looking up the style that a turn asks for is broken off or comes to the mode of the turn. -/
theorem run_resolve_requested (answers : world.AnswersStyles styles) (request : TurnRequest)
    (session : Session) (state : σ) :
    let resolving := (StyledSelection.resolve (request.requested session).selection).run world state
    resolving.1 = .brokenOff ∨ ∃ style, resolving.1 = .done ⟨modeOf styles request session, style⟩ := by
  intro resolving
  rcases StyledSelection.run_resolve answers (request.requested session).selection state with
    broken | done
  · exact .inl broken
  · exact .inr ⟨_, done⟩

/-! ## A mode that the caller hands back -/

/-- What follows in a turn when the style has been looked up. -/
def continueStyled (config : Config) (request : TurnRequest) (session : Session) (byTurn : Bool)
    (selected : StyledSelection) : Interaction (TurnResult × Session) :=
  (Turn.references config.turn request request.mentions).andThen fun references =>
    (route config request selected (session.keepMode config.turn selected.selection byTurn) references
      request.question).andThen fun (reply, after) =>
        .done (TurnResult.ofReply reply selected.selection references after, after)

theorem run_eq_continueStyled (config : Config) (request : TurnRequest) (session : Session) :
    Turn.run config request session =
      (StyledSelection.resolve (request.requested session).selection).andThen
        (continueStyled config request session (request.requested session).byTurn) := rfl

/-- Only the mode of a turn depends on what the caller has kept. -/
theorem continueStyled_keeping (kept : Option String) :
    continueStyled config { request with sessionMode := kept } session =
      continueStyled config request session := rfl

/-- **A mode in force may as well be handed back by the caller.**  A caller that names no mode and one that
hands back what the session has in force get the same turn: a directive overrules either of them, and
otherwise both ask for the mode in force, which then stays so. -/
theorem run_handingBack (answers : world.AnswersStyles styles)
    (settled : session.ModeSettled config.turn styles) (silent : request.sessionMode = none) (state : σ) :
    (Turn.run config
        { request with sessionMode := session.stickyMode.map ModeSelection.render } session).run world
        state =
      (Turn.run config request session).run world state := by
  rw [run_eq_continueStyled, run_eq_continueStyled, continueStyled_keeping]
  by_cases explicit : (Directive.ofUtterance request.text).explicit = true
  · have same : TurnRequest.requested
        { request with sessionMode := session.stickyMode.map ModeSelection.render } session =
        request.requested session := by
      simp only [TurnRequest.requested, requestedMode, if_pos explicit]
    rw [same]
  · cases inForce : session.stickyMode with
    | none =>
        have same : { request with sessionMode := none } = request := by
          rw [← silent]
        rw [Option.map_none, same]
    | some selection =>
        obtain ⟨canonical, sticky, resolved⟩ := settled selection inForce
        have handing : TurnRequest.requested
            { request with sessionMode := some selection.render } session = ⟨selection, true⟩ := by
          simp only [TurnRequest.requested, requestedMode, if_neg explicit,
            keptSelection?_render canonical]
        have saying : request.requested session = ⟨selection, false⟩ := by
          simp only [TurnRequest.requested, requestedMode, if_neg explicit, silent, keptSelection?,
            inForce, Option.getD_some]
        rw [Option.map_some, handing, saying]
        refine run_andThen_congr world _ fun selected later resolves => ?_
        have found : selected = selection.styledBy styles := by
          rcases StyledSelection.run_resolve answers selection state with broken | done
          · rw [resolves] at broken
            cases broken
          · rw [resolves] at done
            cases done
            rfl
        have same : selected.selection = selection := by
          rw [found]
          exact resolved
        have kept : session.keepMode config.turn selected.selection true =
            session.keepMode config.turn selected.selection false := by
          rw [same]
          simp only [Session.keepMode, modeInForce, if_pos sticky]
        simp only [continueStyled, kept]

end Turn

end NoteDialogue
