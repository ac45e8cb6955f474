import NoteDialogue.Proofs.Conversation.Calls
import NoteDialogue.Proofs.Notes.QueryCache
import NoteDialogue.Proofs.Notes.World
import NoteDialogue.Proofs.Turn.Recall

/-!
# Independent sessions

Calls on different sessions share nothing but the remembered embeddings of queries.  A call does the same
to the session under its identifier from any truthful cache (`visitOne_alike`).  So two services are alike
for some identifiers when these lead to the same sessions and both caches are truthful (`Alike`): a call on
one of the identifiers keeps them alike when both serve it, and any other call when only one of them does.

It follows that what comes of the calls on a session is what comes of them alone, and that neighbouring
calls on different sessions may change places (`sessions_are_independent`).
-/

set_option autoImplicit false

namespace NoteDialogue

open Interaction
open QueryCache (Truthful Apart)

namespace Conversation

variable {τ : Type} {config : Config} {own : World τ}
  {embedder : String → Nat → TimedAnswer Vector32} {digest : String → String} {asked : String → Prop}
  {call : Call τ} {calls : List (Call τ)} {ids : String → Prop} {id : String}
  {store otherStore : SessionStore} {cache otherCache : QueryCache}

/-- What is remembered are embeddings of queries that were asked. -/
abbrev Faithful (config : Config) (embedder : String → Nat → TimedAnswer Vector32)
    (digest : String → String) (asked : String → Prop) : QueryCache → Prop :=
  Truthful digest asked (madeBy embedder config.retrieval.embeddingTimeout)

/-- Two visits that come to the same, but for what is in the caches. -/
structure AlikeVisits (faithful : QueryCache → Prop) (one other : Visit QueryCache) : Prop where
  ending : other.ending = one.ending
  stored : other.stored = one.stored
  queries : recalledQueries other.course = recalledQueries one.course
  kept : faithful one.shared
  otherKept : faithful other.shared

/-- **A call does the same to its session from any truthful cache.** -/
theorem visitOne_alike (apart : Apart digest asked) (call : Call τ) (found : Option Session)
    (faithful : Faithful config embedder digest asked cache)
    (otherFaithful : Faithful config embedder digest asked otherCache)
    (asks : ∀ query ∈ recalledQueries
      (visitOne config (own.remembering embedder) call found cache).course, asked query) :
    AlikeVisits (Faithful config embedder digest asked)
      (visitOne config (own.remembering embedder) call found cache)
      (visitOne config (own.remembering embedder) call found otherCache) := by
  cases call with
  | ended id => exact ⟨rfl, rfl, rfl, faithful, otherFaithful⟩
  | turn request cancelled brought =>
      cases fits : objection? request cancelled with
      | some failure =>
          simp only [visitOne, visit_of_objection fits]
          exact ⟨rfl, rfl, rfl, faithful, otherFaithful⟩
      | none =>
          by_cases foreign : ∃ session, found = some session ∧ session.userId ≠ request.userId
          · obtain ⟨session, rfl, notOwn⟩ := foreign
            simp only [visitOne, visit_of_foreign fits notOwn]
            exact ⟨rfl, rfl, rfl, faithful, otherFaithful⟩
          · have isOwn : (found.getD (Session.start request.sessionId request.userId)).userId =
                request.userId := by
              cases found with
              | none => rfl
              | some session => exact not_not.mp fun notOwn => foreign ⟨session, rfl, notOwn⟩
            simp only [visitOne, visit_of_own fits rfl isOwn, run_recorded_eq_trace,
              List.nil_append] at asks ⊢
            have alike := (Turn.run_recalls config request _).trace_alike apart brought faithful
              otherFaithful asks
            refine ⟨?_, ?_, alike.queries, alike.kept, alike.otherKept⟩
            · rw [alike.ending]
            · rw [alike.ending]

/-! ## Two services -/

/-- Two services that have the same sessions under some identifiers, and remember embeddings of queries
that were asked. -/
structure Alike (faithful : QueryCache → Prop) (ids : String → Prop) (store : SessionStore)
    (cache : QueryCache) (otherStore : SessionStore) (otherCache : QueryCache) : Prop where
  rest : store.AtRest
  otherRest : otherStore.AtRest
  sessions : ∀ id, ids id → otherStore.session? id = store.session? id
  kept : faithful cache
  otherKept : faithful otherCache

theorem Alike.symm {faithful : QueryCache → Prop}
    (alike : Alike faithful ids store cache otherStore otherCache) :
    Alike faithful ids otherStore otherCache store cache :=
  ⟨alike.otherRest, alike.rest, fun id among => (alike.sessions id among).symm, alike.otherKept,
    alike.kept⟩

theorem Alike.mono {faithful : QueryCache → Prop} {fewer : String → Prop}
    (alike : Alike faithful ids store cache otherStore otherCache) (among : ∀ id, fewer id → ids id) :
    Alike faithful fewer store cache otherStore otherCache :=
  { alike with sessions := fun id isOne => alike.sessions id (among id isOne) }

/-- All that a service was asked is among the queries. -/
def AsksAmong (asked : String → Prop) (course : Course) : Prop :=
  ∀ query ∈ recalledQueries course, asked query

theorem AsksAmong.of_append {first second : Course} (asks : AsksAmong asked (first ++ second)) :
    AsksAmong asked first ∧ AsksAmong asked second := by
  unfold AsksAmong at asks
  rw [recalledQueries_append] at asks
  exact List.forall_mem_append.mp asks

theorem AsksAmong.congr {one other : Course} (asks : AsksAmong asked one)
    (same : recalledQueries other = recalledQueries one) : AsksAmong asked other := by
  unfold AsksAmong
  rw [same]
  exact asks

section Steps

variable (apart : Apart digest asked)
  (alike : Alike (Faithful config embedder digest asked) ids store cache otherStore otherCache)

include apart alike

/-- A call on one of the identifiers, which both serve. -/
theorem Alike.both
    (asks : AsksAmong asked (serveOne config (own.remembering embedder) call store cache).course)
    (concerned : ids call.sessionId) :
    let one := serveOne config (own.remembering embedder) call store cache
    let other := serveOne config (own.remembering embedder) call otherStore otherCache
    other.reports = one.reports ∧ recalledQueries other.course = recalledQueries one.course ∧
      Alike (Faithful config embedder digest asked) ids one.store one.shared other.store
        other.shared := by
  intro one other
  have serves := serveOne_visits config (own.remembering embedder) call alike.rest cache
  have otherServes := serveOne_visits config (own.remembering embedder) call alike.otherRest otherCache
  rw [alike.sessions _ concerned] at otherServes
  rw [serves.course] at asks
  have visits := visitOne_alike apart call _ alike.kept alike.otherKept asks
  refine ⟨?_, ?_, serves.rest, otherServes.rest, fun id isOne => ?_, ?_, ?_⟩
  · rw [serves.reports, otherServes.reports, visits.ending, visits.stored]
  · rw [serves.course, otherServes.course, visits.queries]
  · by_cases here : id = call.sessionId
    · rw [here, serves.stored, otherServes.stored, visits.stored]
    · rw [serves.others id here, otherServes.others id here, alike.sessions id isOne]
  · rw [serves.shared]
    exact visits.kept
  · rw [otherServes.shared]
    exact visits.otherKept

/-- A call on another identifier, which only one serves. -/
theorem Alike.onlyOne
    (asks : AsksAmong asked (serveOne config (own.remembering embedder) call store cache).course)
    (unconcerned : ¬ ids call.sessionId) :
    let one := serveOne config (own.remembering embedder) call store cache
    Alike (Faithful config embedder digest asked) ids one.store one.shared otherStore otherCache := by
  intro one
  have serves := serveOne_visits config (own.remembering embedder) call alike.rest cache
  rw [serves.course] at asks
  have visits := visitOne_alike apart call _ alike.kept alike.kept asks
  refine ⟨serves.rest, alike.otherRest, fun id isOne => ?_, ?_, alike.otherKept⟩
  · have elsewhere : id ≠ call.sessionId := by
      rintro rfl
      exact unconcerned isOne
    rw [serves.others id elsewhere, alike.sessions id isOne]
  · rw [serves.shared]
    exact visits.kept

end Steps

/-- Calls on some identifiers, which both serve. -/
theorem Alike.serve_both (apart : Apart digest asked)
    (alike : Alike (Faithful config embedder digest asked) ids store cache otherStore otherCache)
    (asks : AsksAmong asked (serve config (own.remembering embedder) calls store cache).course)
    (concerned : ∀ call ∈ calls, ids call.sessionId) :
    let one := serve config (own.remembering embedder) calls store cache
    let other := serve config (own.remembering embedder) calls otherStore otherCache
    other.reports = one.reports ∧
      Alike (Faithful config embedder digest asked) ids one.store one.shared other.store
        other.shared := by
  induction calls generalizing store cache otherStore otherCache with
  | nil => exact ⟨rfl, alike⟩
  | cons call rest ih =>
      obtain ⟨thisConcerned, restConcerned⟩ := List.forall_mem_cons.mp concerned
      obtain ⟨asksFirst, asksRest⟩ := AsksAmong.of_append asks
      obtain ⟨sameFirst, -, after⟩ := alike.both apart asksFirst thisConcerned
      obtain ⟨sameRest, last⟩ := ih after asksRest restConcerned
      refine ⟨?_, last⟩
      simp only [serve, Service.followedBy, sameFirst, sameRest]

/-- Whether a report is about a session. -/
def Report.isAbout (id : String) (report : Report τ) : Bool :=
  report.call.sessionId == id

/-- Of all calls one serves those on one session alone. -/
theorem Alike.serve_alone (apart : Apart digest asked)
    (alike : Alike (Faithful config embedder digest asked) (· = id) store cache otherStore otherCache)
    (asks : AsksAmong asked (serve config (own.remembering embedder) calls store cache).course) :
    let whole := serve config (own.remembering embedder) calls store cache
    let alone := serve config (own.remembering embedder) (calls.filter (·.sessionId == id)) otherStore
      otherCache
    alone.reports = whole.reports.filter (Report.isAbout id) ∧
      alone.store.session? id = whole.store.session? id := by
  induction calls generalizing store cache otherStore otherCache with
  | nil => exact ⟨rfl, alike.sessions id rfl⟩
  | cons call rest ih =>
      have serves := serveOne_visits config (own.remembering embedder) call alike.rest cache
      obtain ⟨asksFirst, asksRest⟩ := AsksAmong.of_append asks
      by_cases here : call.sessionId = id
      · obtain ⟨sameFirst, -, after⟩ := alike.both apart asksFirst here
        obtain ⟨sameRest, sameSession⟩ := ih after asksRest
        have isIts : (call.sessionId == id) = true := beq_iff_eq.mpr here
        simp only [List.filter_cons, isIts, if_true, serve, Service.followedBy,
          List.filter_append]
        refine ⟨?_, sameSession⟩
        rw [sameFirst, sameRest, serves.reports]
        simp [Report.isAbout, isIts]
      · have after := alike.onlyOne apart asksFirst here
        obtain ⟨sameRest, sameSession⟩ := ih after asksRest
        have notIts : (call.sessionId == id) = false := beq_eq_false_iff_ne.mpr here
        simp only [List.filter_cons, notIts, Bool.false_eq_true, if_false, serve,
          Service.followedBy, List.filter_append]
        refine ⟨?_, sameSession⟩
        rw [sameRest, serves.reports]
        simp [Report.isAbout, notIts]

/-- Every session: both services have them all. -/
abbrev AlikeEverywhere (faithful : QueryCache → Prop) (store : SessionStore) (cache : QueryCache)
    (otherStore : SessionStore) (otherCache : QueryCache) : Prop :=
  Alike faithful (fun _ => True) store cache otherStore otherCache

theorem call_of_serveOne (rest : store.AtRest) (report : Report τ)
    (member : report ∈ (serveOne config (own.remembering embedder) call store cache).reports) :
    report.call = call := by
  rw [(serveOne_visits config _ call rest cache).reports] at member
  rw [List.mem_singleton.mp member]

/-- Among the reports on one session there are none on the other of two calls. -/
theorem reports_swapped {one other : List (Report τ)} {first second : Call τ}
    (different : second.sessionId ≠ first.sessionId)
    (ofFirst : ∀ report ∈ one, report.call = first) (ofSecond : ∀ report ∈ other, report.call = second)
    (id : String) :
    (other ++ one).filter (Report.isAbout id) = (one ++ other).filter (Report.isAbout id) := by
  rw [List.filter_append, List.filter_append]
  by_cases its : first.sessionId = id
  · have none : other.filter (Report.isAbout id) = [] := by
      refine List.filter_eq_nil_iff.mpr fun report member => ?_
      simp [Report.isAbout, ofSecond report member, ← its, different]
    rw [none, List.append_nil, List.nil_append]
  · have none : one.filter (Report.isAbout id) = [] := by
      refine List.filter_eq_nil_iff.mpr fun report member => ?_
      simp [Report.isAbout, ofFirst report member, its]
    rw [none, List.append_nil, List.nil_append]

/-- Two calls on different sessions, which two services serve the other way round. -/
theorem Alike.swapped {first second : Call τ} (apart : Apart digest asked)
    (alike : AlikeEverywhere (Faithful config embedder digest asked) store cache otherStore otherCache)
    (different : second.sessionId ≠ first.sessionId)
    (asks : AsksAmong asked
      (serve config (own.remembering embedder) [first, second] store cache).course) :
    let one := serve config (own.remembering embedder) [first, second] store cache
    let other := serve config (own.remembering embedder) [second, first] otherStore otherCache
    (∀ id, other.reports.filter (Report.isAbout id) = one.reports.filter (Report.isAbout id)) ∧
      AlikeEverywhere (Faithful config embedder digest asked) one.store one.shared other.store
        other.shared := by
  set one := serveOne config (own.remembering embedder) first store cache with isOne
  set oneLast := serveOne config (own.remembering embedder) second one.store one.shared with isOneLast
  set other := serveOne config (own.remembering embedder) second otherStore otherCache with isOther
  set otherLast := serveOne config (own.remembering embedder) first other.store other.shared
    with isOtherLast
  obtain ⟨asksOne, asksLater⟩ := AsksAmong.of_append asks
  have asksOneLast : AsksAmong asked oneLast.course := (AsksAmong.of_append asksLater).1
  -- The session of the first call and all the others are followed one at a time.
  have othersOne : Alike _ (· ≠ first.sessionId) one.store one.shared otherStore otherCache :=
    (alike.mono fun _ _ => trivial).onlyOne apart asksOne (not_not.mpr rfl)
  obtain ⟨sameSecond, secondQueries, othersBoth⟩ := othersOne.both apart asksOneLast different
  have asksOther : AsksAmong asked other.course := asksOneLast.congr secondQueries
  have itsOther : Alike _ (· = first.sessionId) store cache other.store other.shared :=
    ((alike.mono fun _ _ => trivial).symm.onlyOne apart asksOther different).symm
  obtain ⟨sameFirst, firstQueries, itsBoth⟩ := itsOther.both apart asksOne rfl
  have asksOtherLast : AsksAmong asked otherLast.course := asksOne.congr firstQueries
  have itsLast : Alike _ (· = first.sessionId) oneLast.store oneLast.shared otherLast.store
      otherLast.shared := itsBoth.onlyOne apart asksOneLast different
  have othersLast : Alike _ (· ≠ first.sessionId) oneLast.store oneLast.shared otherLast.store
      otherLast.shared := (othersBoth.symm.onlyOne apart asksOtherLast (not_not.mpr rfl)).symm
  refine ⟨fun id => ?_, { itsLast with sessions := fun id _ => ?_ }⟩
  · simp only [serve, Service.followedBy, List.append_nil, ← isOne, ← isOneLast, ← isOther,
      ← isOtherLast]
    rw [sameSecond, sameFirst]
    exact reports_swapped different (call_of_serveOne alike.rest) (call_of_serveOne othersOne.rest) id
  · by_cases its : id = first.sessionId
    · exact itsLast.sessions id its
    · exact othersLast.sessions id its

/-- Neighbouring calls on different sessions may change places among other calls. -/
theorem Alike.serve_swapped {before after : List (Call τ)} {first second : Call τ}
    (apart : Apart digest asked)
    (alike : AlikeEverywhere (Faithful config embedder digest asked) store cache otherStore otherCache)
    (different : second.sessionId ≠ first.sessionId)
    (asks : AsksAmong asked (serve config (own.remembering embedder)
      (before ++ first :: second :: after) store cache).course) (id : String) :
    let one := serve config (own.remembering embedder) (before ++ first :: second :: after) store cache
    let other := serve config (own.remembering embedder) (before ++ second :: first :: after) otherStore
      otherCache
    other.reports.filter (Report.isAbout id) = one.reports.filter (Report.isAbout id) ∧
      other.store.session? id = one.store.session? id := by
  have split (one other : Call τ) :
      before ++ one :: other :: after = before ++ ([one, other] ++ after) := rfl
  simp only [split, serve_append] at asks ⊢
  obtain ⟨asksBefore, asksRest⟩ := AsksAmong.of_append asks
  obtain ⟨asksPair, asksAfter⟩ := AsksAmong.of_append asksRest
  obtain ⟨sameBefore, alikeThen⟩ := alike.serve_both apart asksBefore fun _ _ => trivial
  obtain ⟨samePair, alikeAfter⟩ := alikeThen.swapped apart different asksPair
  obtain ⟨sameAfter, alikeLast⟩ := alikeAfter.serve_both apart asksAfter fun _ _ => trivial
  refine ⟨?_, alikeLast.sessions id trivial⟩
  simp only [Service.followedBy, List.filter_append, sameBefore, samePair, sameAfter]

/-! ## New services -/

/-- What a new service makes of some calls. -/
def serveAnew (config : Config) (own : World τ) (embedder : String → Nat → TimedAnswer Vector32)
    (digest : String → String) (capacity : Nat) (calls : List (Call τ)) : Service τ QueryCache :=
  serve config (own.remembering embedder) calls {} { capacity, digest }

theorem alike_anew (config : Config) (embedder : String → Nat → TimedAnswer Vector32)
    (digest : String → String) (asked ids : String → Prop) (capacity otherCapacity : Nat) :
    Alike (Faithful config embedder digest asked) ids {} { capacity, digest } {}
      { capacity := otherCapacity, digest } where
  rest := SessionStore.atRest_empty
  otherRest := SessionStore.atRest_empty
  sessions := fun _ _ => rfl
  kept := QueryCache.truthful_empty capacity
  otherKept := QueryCache.truthful_empty otherCapacity

/-- **Sessions are independent.**  What the model, the notes, the styles and the settings say may depend on
what else a call has asked, but not on other calls, and every query is embedded in a fixed way.  Then, as
long as no two queries have the same digest, the reports on a session and the session in the end are those
of a new service that serves the calls on this session alone, and neighbouring calls on different sessions
may change places.  It does not matter for how many queries there is room. -/
theorem sessions_are_independent {capacity : Nat}
    (apart : ∀ one ∈ recalledQueries (serveAnew config own embedder digest capacity calls).course,
      ∀ other ∈ recalledQueries (serveAnew config own embedder digest capacity calls).course,
        digest one = digest other → one = other)
    (otherCapacity : Nat) :
    (∀ id,
      let whole := serveAnew config own embedder digest capacity calls
      let alone := serveAnew config own embedder digest otherCapacity
        (calls.filter (·.sessionId == id))
      alone.reports = whole.reports.filter (Report.isAbout id) ∧
        alone.store.session? id = whole.store.session? id) ∧
    ∀ before first second after, calls = before ++ first :: second :: after →
      second.sessionId ≠ first.sessionId →
      let whole := serveAnew config own embedder digest capacity calls
      let swapped := serveAnew config own embedder digest otherCapacity
        (before ++ second :: first :: after)
      ∀ id, swapped.reports.filter (Report.isAbout id) = whole.reports.filter (Report.isAbout id) ∧
        swapped.store.session? id = whole.store.session? id := by
  have asks : AsksAmong (· ∈ recalledQueries (serveAnew config own embedder digest capacity calls).course)
      (serveAnew config own embedder digest capacity calls).course := fun _ member => member
  have alike ids := alike_anew config embedder digest
    (· ∈ recalledQueries (serveAnew config own embedder digest capacity calls).course) ids capacity
    otherCapacity
  have distinct : Apart digest
      (· ∈ recalledQueries (serveAnew config own embedder digest capacity calls).course) :=
    fun one other isOne isOther => apart one isOne other isOther
  refine ⟨fun id => (alike (· = id)).serve_alone distinct asks, ?_⟩
  rintro before first second after rfl different whole swapped id
  exact (alike fun _ => True).serve_swapped distinct different asks id

/-- Two users take turns, one of them with the same question twice; every turn has a script of its own. -/
def turnsOfTwo : List (Call Rehearsal) :=
  [.turn { userId := "u", sessionId := "s", text := "tall trees" } false Rehearsal.withOneNote,
    .turn { userId := "v", sessionId := "t", text := "deep sea" } false Rehearsal.withOneNote,
    .turn { userId := "u", sessionId := "s", text := "tall trees" } false Rehearsal.withOneNote]

/-- The first letter of a text for its digest. -/
def firstLetter (text : String) : String :=
  String.ofList (text.toList.take 1)

/-- With room for one embedding, which the turn in between takes, the turns of the one user come to what
they come to alone and with room for two. -/
theorem sessions_are_independent_of_two :
    let embedder (_ : String) (_ : Nat) : TimedAnswer Vector32 := .inTime (.ok [])
    let whole := serveAnew {} Rehearsal.world embedder firstLetter 1 turnsOfTwo
    let alone := serveAnew {} Rehearsal.world embedder firstLetter 2
      (turnsOfTwo.filter (·.sessionId == "s"))
    recalledQueries whole.course = ["tall trees", "deep sea", "tall trees"] ∧
      alone.reports = whole.reports.filter (Report.isAbout "s") ∧
      alone.store.session? "s" = whole.store.session? "s" := by
  intro embedder whole alone
  have queries : recalledQueries whole.course = ["tall trees", "deep sea", "tall trees"] := by
    decide +kernel
  have apart : ∀ one ∈ recalledQueries whole.course, ∀ other ∈ recalledQueries whole.course,
      firstLetter one = firstLetter other → one = other := by
    rw [queries]
    decide
  exact ⟨queries, (sessions_are_independent apart 2).1 "s"⟩

end Conversation

end NoteDialogue
