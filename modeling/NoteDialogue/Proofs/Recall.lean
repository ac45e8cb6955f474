import NoteDialogue.Proofs.Retrieval

/-!
# How embeddings are recalled

The embedding of a query is recalled: it is remembered, or made and then remembered (`recalling`).  An
interaction recalls embeddings when it asks for them in no other way, always of trimmed queries, and when
its other questions are of some kind (`Recalls`).  What is put together from such interactions is one, and
so is a search (`search_recalls`), whose other questions are about the notes of one owner.
-/

set_option autoImplicit false

namespace NoteDialogue

/-- A question that is no part of recalling an embedding.  If it is about notes, it is about those of
this owner. -/
def Ask.Concerns (ownerId : String) : Ask → Prop
  | .generate _ _ _ _ | .lookUp (.style _) | .lookUp (.setting _) => True
  | .embedQuery _ _ | .embedPassages _ | .lookUp (.recollect _) | .lookUp (.remember _ _) => False
  | .lookUp (.noteById owner _) | .lookUp (.notesByTitle owner _)
  | .lookUp (.notesByText owner _ _) | .lookUp (.notesByTerms owner _ _ _)
  | .lookUp (.similarChunks owner _ _ _) => owner = ownerId

namespace Interaction

variable {α β : Type}

/-- Recall the embedding of a query and go on with it, or with the failure to make it. -/
def recalling (query : String) (limit : Nat) (next : Except Failure Vector32 → Interaction α) :
    Interaction α :=
  .ask (.lookUp (.recollect query)) fun remembered =>
    match (remembered : Option Vector32) with
    | some embedding => next (.ok embedding)
    | none =>
        .ask (.embedQuery query limit) fun made =>
          match (made : TimedAnswer Vector32) with
          | .late => next (.error (.timeout "Query embedding"))
          | .inTime (.error failure) => next (.error failure)
          | .inTime (.ok embedding) =>
              .ask (.lookUp (.remember query embedding)) fun _ => next (.ok embedding)

theorem recalling_andThen (query : String) (limit : Nat)
    (next : Except Failure Vector32 → Interaction α) (last : α → Interaction β) :
    (recalling query limit next).andThen last =
      recalling query limit fun recalled => (next recalled).andThen last := by
  refine congrArg (ask _) (funext fun remembered => ?_)
  cases remembered with
  | some embedding => rfl
  | none =>
      refine congrArg (ask _) (funext fun made => ?_)
      rcases made with (failure | embedding) | _ <;> rfl

theorem recalling_attempt (query : String) (limit : Nat)
    (next : Except Failure Vector32 → Interaction α) :
    (recalling query limit next).attempt =
      recalling query limit fun recalled => (next recalled).attempt := by
  refine congrArg (ask _) (funext fun remembered => ?_)
  cases remembered with
  | some embedding => rfl
  | none =>
      refine congrArg (ask _) (funext fun made => ?_)
      rcases made with (failure | embedding) | _ <;> rfl

/-- Embeddings are asked for only to recall those of trimmed queries, within a limit of time; all other
questions are of some kind.  A crash may come only under a condition. -/
inductive Recalls (kind : Ask → Prop) (limit : Nat) (mayCrash : Prop) : Interaction α → Prop where
  | done (result : α) : Recalls kind limit mayCrash (.done result)
  | failed (failure : Failure) : Recalls kind limit mayCrash (.failed failure)
  | crashed (may : mayCrash) : Recalls kind limit mayCrash .crashed
  | ask {question : Ask} {next : question.Answer → Interaction α} (isKind : kind question) :
      (∀ answer, Recalls kind limit mayCrash (next answer)) →
        Recalls kind limit mayCrash (.ask question next)
  | recalling {query : String} {next : Except Failure Vector32 → Interaction α}
      (trimmed : Text.trim query = query) :
      (∀ recalled, Recalls kind limit mayCrash (next recalled)) →
        Recalls kind limit mayCrash (.recalling query limit next)

section Recalls

variable {kind : Ask → Prop} {limit : Nat} {mayCrash : Prop}

theorem Recalls.andThen {first : Interaction α} {next : α → Interaction β}
    (recalls : first.Recalls kind limit mayCrash)
    (nextRecalls : ∀ value, (next value).Recalls kind limit mayCrash) :
    (first.andThen next).Recalls kind limit mayCrash := by
  induction recalls with
  | done result => exact nextRecalls result
  | failed failure => exact .failed failure
  | crashed may => exact .crashed may
  | ask isKind _ ih => exact .ask isKind ih
  | recalling trimmed _ ih =>
      rw [recalling_andThen]
      exact .recalling trimmed ih

theorem Recalls.attempt {interaction : Interaction α}
    (recalls : interaction.Recalls kind limit mayCrash) :
    interaction.attempt.Recalls kind limit mayCrash := by
  induction recalls with
  | done | failed => exact .done _
  | crashed may => exact .crashed may
  | ask isKind _ ih => exact .ask isKind ih
  | recalling trimmed _ ih =>
      rw [recalling_attempt]
      exact .recalling trimmed ih

theorem Recalls.ofExcept (result : Except Failure α) :
    (Interaction.ofExcept result).Recalls kind limit mayCrash := by
  cases result with
  | ok value => exact .done value
  | error failure => exact .failed failure

theorem Recalls.request {question : Ask} (isKind : kind question) :
    (Interaction.request question).Recalls kind limit mayCrash :=
  .ask isKind .done

theorem AsksOnly.recalls {interaction : Interaction α} (asks : interaction.AsksOnly kind) :
    interaction.Recalls kind limit mayCrash := by
  induction interaction with
  | done result => exact .done result
  | failed failure => exact .failed failure
  | crashed => exact asks.elim
  | ask question next ih => exact .ask asks.1 fun answer => ih answer (asks.2 answer)

/-- Unless a crash may come, none does. -/
theorem Recalls.asksOnly {interaction : Interaction α}
    (recalls : interaction.Recalls kind limit mayCrash) (calm : ¬ mayCrash) :
    interaction.AsksOnly fun _ => True := by
  induction recalls with
  | done | failed => trivial
  | crashed may => exact absurd may calm
  | ask _ _ ih => exact ⟨trivial, ih⟩
  | recalling _ _ ih =>
      refine ⟨trivial, fun remembered => ?_⟩
      cases remembered with
      | some embedding => exact ih _
      | none =>
          refine ⟨trivial, fun made => ?_⟩
          rcases made with (failure | embedding) | _
          · exact ih _
          · exact ⟨trivial, fun _ => ih _⟩
          · exact ih _

end Recalls

end Interaction

/-! ## Searches -/

namespace Retrieval

open Interaction

variable {config : RetrievalConfig} {ownerId query : String} {filter : NoteFilter} {mayCrash : Prop}

theorem queryEmbedding_eq (config : RetrievalConfig) (query : String) :
    queryEmbedding config query = recalling query config.embeddingTimeout ofExcept := by
  refine congrArg (ask _) (funext fun remembered => ?_)
  cases remembered with
  | some embedding => rfl
  | none =>
      refine congrArg (ask _) (funext fun made => ?_)
      rcases made with (failure | embedding) | _ <;> rfl

theorem literal_concerns (terms : String) :
    (literal config ownerId terms filter).AsksOnly (Ask.Concerns ownerId) := by
  refine AsksOnly.andThen (.lookUp rfl) fun answer => ?_
  exact AsksOnly.andThen (.ofExcept answer) fun notes => trivial

theorem lookUpHit_concerns (hit : ChunkHit) :
    (lookUpHit ownerId hit).AsksOnly (Ask.Concerns ownerId) := by
  refine AsksOnly.andThen (.lookUp rfl) fun answer => ?_
  exact AsksOnly.andThen (.ofExcept answer) fun note => trivial

/-- A search by words is about the notes of one owner alone. -/
theorem search_of_words_concerns {words : WordSearch}
    (byWords : wordSearch? query filter = some words) :
    (search config ownerId query filter).AsksOnly (Ask.Concerns ownerId) := by
  rw [search_eq, find_of_words byWords]
  refine AsksOnly.andThen ?_ fun found => AsksOnly.andThen (.lookUp trivial) fun live => trivial
  exact (literal_concerns words.terms).andThen fun documents => trivial

theorem semantic_recalling (config : RetrievalConfig) (ownerId query : String) :
    ∃ next, semantic config ownerId query = recalling query config.embeddingTimeout next ∧
      ∀ recalled, (next recalled).AsksOnly (Ask.Concerns ownerId) := by
  have same : semantic config ownerId query = (queryEmbedding config query).andThen _ := rfl
  rw [same, queryEmbedding_eq, recalling_andThen]
  refine ⟨_, rfl, fun recalled => ?_⟩
  refine AsksOnly.andThen (.ofExcept recalled) fun embedding => ?_
  refine AsksOnly.andThen (.lookUp trivial) fun live => ?_
  refine AsksOnly.andThen (.lookUp rfl) fun answer => ?_
  refine AsksOnly.andThen (.ofExcept answer) fun hits => ?_
  exact AsksOnly.andThen (.forEach lookUpHit_concerns _) fun found => trivial

/-- A search by meaning recalls the embedding of its query, and is then about the notes of one owner. -/
theorem search_of_meaning_recalling (config : RetrievalConfig) (ownerId : String)
    (byMeaning : wordSearch? query filter = none) :
    ∃ next, search config ownerId query filter = recalling query config.embeddingTimeout next ∧
      ∀ recalled, (next recalled).AsksOnly (Ask.Concerns ownerId) := by
  obtain ⟨next, same, later⟩ := semantic_recalling config ownerId query
  rw [search_eq, find_of_meaning byMeaning, same, recalling_andThen, recalling_andThen]
  refine ⟨_, rfl, fun recalled => ?_⟩
  refine AsksOnly.andThen ?_ fun found => AsksOnly.andThen (.lookUp trivial) fun live => trivial
  exact (later recalled).andThen fun documents => trivial

/-- **A search recalls the embedding of its query and is else about the notes of one owner.** -/
theorem search_recalls (trimmed : Text.trim query = query) :
    (search config ownerId query filter).Recalls (Ask.Concerns ownerId) config.embeddingTimeout
      mayCrash := by
  cases called : wordSearch? query filter with
  | some words => exact (search_of_words_concerns called).recalls
  | none =>
      obtain ⟨next, same, later⟩ := search_of_meaning_recalling config ownerId called
      rw [same]
      exact .recalling trimmed fun recalled => (later recalled).recalls

end Retrieval

end NoteDialogue
