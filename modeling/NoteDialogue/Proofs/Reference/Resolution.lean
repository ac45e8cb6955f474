import NoteDialogue.Proofs.Ending
import NoteDialogue.Reference.Resolution

/-!
# Looking up each mention by itself

Two references are about the same when they name one note, or when neither has a note and both were asked for in
the same words (`ResolvedReference.SameAs`).  Of references that are about the same the first is kept, in order
(`ResolvedReference.KeepsFirsts`), so that dropping repetitions once more changes nothing, and leaving a
reference out changes nothing for those that are about something else
(`ResolvedReference.filter_dedupe_without`).

Mentions are looked up one after the other, each by itself, and the repetitions are dropped from all answers at
the end.  The same comes out when each answer is compared with the notes and the words so far as soon as it is
there (`Mention.resolveAll_eq_pass`).  A lookup that fails is an answer like any other, so the mentions are always
resolved, and a mention whose note is missing changes nothing for the others (`Mention.resolves_each_by_itself`).
-/

set_option autoImplicit false

namespace NoteDialogue

open Interaction
open Retrieval (firstOfEach firstOfEach_cons firstOfEach_sublist nodup_firstOfEach firstOfEach_of_nodup
  filter_firstOfEach exists_firstOfEach exists_before_of_firstOfEach)

/-! ## What references are about -/

namespace ResolvedReference

variable {one other reference entry : ResolvedReference} {references : List ResolvedReference}

/-- Whether a reference was found and has a note. -/
def HasNote (reference : ResolvedReference) : Prop :=
  reference.found = true ∧ reference.noteId ≠ none

instance (reference : ResolvedReference) : Decidable reference.HasNote :=
  inferInstanceAs (Decidable (_ ∧ _))

/-- The words in which a reference was asked for, blanks around them and letter case apart. -/
def words (reference : ResolvedReference) : String :=
  Text.lowercase (Text.trim reference.requested)

/-- Two references have the same note, or neither has one and they were asked for in the same words. -/
def SameAs (one other : ResolvedReference) : Prop :=
  one.HasNote ∧ other.HasNote ∧ one.noteId = other.noteId ∨
    ¬ one.HasNote ∧ ¬ other.HasNote ∧ one.words = other.words

instance (one other : ResolvedReference) : Decidable (one.SameAs other) :=
  inferInstanceAs (Decidable (_ ∨ _))

theorem key_of_hasNote {id : String} (found : reference.found = true) (isNote : reference.noteId = some id) :
    reference.key = .note id := by
  unfold key
  rw [found, isNote]

theorem key_of_not_hasNote (lacks : ¬ reference.HasNote) : reference.key = .request reference.words := by
  unfold key
  cases found : reference.found with
  | false => rfl
  | true =>
      cases isNote : reference.noteId with
      | none => rfl
      | some id => exact absurd ⟨found, by simp [isNote]⟩ lacks

/-- A reference has a note exactly if the note is its key. -/
theorem hasNote_iff_key (reference : ResolvedReference) :
    reference.HasNote ↔ ∃ id, reference.key = .note id := by
  by_cases hasNote : reference.HasNote
  · obtain ⟨id, isNote⟩ := Option.ne_none_iff_exists'.mp hasNote.2
    exact iff_of_true hasNote ⟨id, key_of_hasNote hasNote.1 isNote⟩
  · rw [key_of_not_hasNote hasNote]
    exact iff_of_false hasNote (by simp)

theorem HasNote.of_key (hasNote : reference.HasNote) (same : other.key = reference.key) : other.HasNote := by
  obtain ⟨id, isNote⟩ := reference.hasNote_iff_key.mp hasNote
  exact other.hasNote_iff_key.mpr ⟨id, same.trans isNote⟩

/-- **References have the same key exactly if they are about the same.** -/
theorem key_eq_iff : one.key = other.key ↔ one.SameAs other := by
  unfold SameAs
  by_cases hasNote : one.HasNote
  · by_cases otherHasNote : other.HasNote
    · obtain ⟨id, isNote⟩ := Option.ne_none_iff_exists'.mp hasNote.2
      obtain ⟨otherId, otherIsNote⟩ := Option.ne_none_iff_exists'.mp otherHasNote.2
      rw [key_of_hasNote hasNote.1 isNote, key_of_hasNote otherHasNote.1 otherIsNote, isNote, otherIsNote]
      simp [hasNote, otherHasNote]
    · refine iff_of_false (fun same => otherHasNote (hasNote.of_key same.symm)) ?_
      simp [hasNote, otherHasNote]
  · by_cases otherHasNote : other.HasNote
    · refine iff_of_false (fun same => hasNote (otherHasNote.of_key same)) ?_
      simp [hasNote, otherHasNote]
    · rw [key_of_not_hasNote hasNote, key_of_not_hasNote otherHasNote]
      simp [hasNote, otherHasNote]

/-! ## Dropping repetitions -/

theorem dedupeFrom_eq (seen : List ReferenceKey) (references : List ResolvedReference) :
    dedupeFrom seen references = (firstOfEach key references).filter fun reference => !seen.contains reference.key := by
  induction references generalizing seen with
  | nil => rfl
  | cons first rest ih =>
      rw [dedupeFrom, firstOfEach_cons, List.filter_cons]
      by_cases before : seen.contains first.key = true
      · rw [if_pos before, if_neg (by rw [before]; exact Bool.false_ne_true), ih, List.filter_filter]
        refine List.filter_congr fun reference _ => ?_
        by_cases same : first.key = reference.key
        · rw [← same, before]
          rfl
        · rw [beq_eq_false_iff_ne.mpr same, Bool.not_false, Bool.and_true]
      · rw [if_neg before, if_pos (by rw [Bool.not_eq_true] at before; rw [before]; rfl), ih, List.filter_filter]
        refine congrArg (first :: ·) (List.filter_congr fun reference _ => ?_)
        rw [List.contains_cons, Bool.not_or, Bool.and_comm, Bool.beq_comm]

theorem dedupe_eq (references : List ResolvedReference) : dedupe references = firstOfEach key references := by
  rw [dedupe, dedupeFrom_eq]
  exact List.filter_eq_self.mpr fun _ _ => rfl

/-- Some references are the first ones of others: no two of them are about the same, all of them are the first
about what they are about, and they cover all others. -/
structure KeepsFirsts (references kept : List ResolvedReference) : Prop where
  sublist : kept.Sublist references
  notes : ((kept.filter fun entry => entry.HasNote).map (·.noteId)).Nodup
  requests : ((kept.filter fun entry => ¬ entry.HasNote).map (·.words)).Nodup
  first : ∀ entry ∈ kept, ∃ before after, references = before ++ entry :: after ∧
    ∀ other ∈ before, ¬ other.SameAs entry
  covers : ∀ reference ∈ references, ∃ entry ∈ kept, entry.SameAs reference

theorem nodup_of_keys {α : Type} (view : ResolvedReference → α) (group : ResolvedReference → Prop)
    [DecidablePred group] (distinct : (references.map key).Nodup)
    (tells : ∀ one other, group one → group other → view one = view other → one.key = other.key) :
    ((references.filter fun entry => group entry).map view).Nodup := by
  refine List.pairwise_map.mpr (List.pairwise_filter.mpr ?_)
  refine (List.pairwise_map.mp distinct).imp fun {one other} differ isOne isOther same => differ ?_
  exact tells one other (of_decide_eq_true isOne) (of_decide_eq_true isOther) same

/-- **Of references that are about the same the first is kept.** -/
theorem keepsFirsts_dedupe (references : List ResolvedReference) : KeepsFirsts references (dedupe references) := by
  rw [dedupe_eq]
  have distinct : ((firstOfEach key references).map key).Nodup := nodup_firstOfEach key references
  refine ⟨firstOfEach_sublist references, ?_, ?_, fun entry kept => ?_, fun reference given => ?_⟩
  · exact nodup_of_keys _ _ distinct fun one other hasNote otherHasNote same =>
      key_eq_iff.mpr (.inl ⟨hasNote, otherHasNote, same⟩)
  · exact nodup_of_keys _ _ distinct fun one other lacks otherLacks same =>
      key_eq_iff.mpr (.inr ⟨lacks, otherLacks, same⟩)
  · obtain ⟨before, after, split, differ⟩ := exists_before_of_firstOfEach kept
    exact ⟨before, after, split, fun other earlier same => differ other earlier (key_eq_iff.mpr same)⟩
  · have anyOrder : references.Pairwise fun _ _ => True := List.pairwise_of_forall fun _ _ => trivial
    obtain ⟨kept, isKept, same, -⟩ := exists_firstOfEach key (fun _ => trivial) anyOrder given
    exact ⟨kept, isKept, key_eq_iff.mp same⟩

/-- Dropping repetitions once more changes nothing. -/
theorem dedupe_dedupe (references : List ResolvedReference) : dedupe (dedupe references) = dedupe references := by
  rw [dedupe_eq (dedupe references), dedupe_eq]
  exact firstOfEach_of_nodup (nodup_firstOfEach key references)

theorem filter_dedupe (reference : ResolvedReference) (references : List ResolvedReference) :
    (dedupe references).filter (fun entry => ¬ entry.SameAs reference) =
      dedupe (references.filter fun entry => ¬ entry.SameAs reference) := by
  have byKey (entry : ResolvedReference) :
      decide (¬ entry.SameAs reference) = (entry.key != reference.key) := by
    rw [Bool.eq_iff_iff, decide_eq_true_iff, bne_iff_ne, ← key_eq_iff]
  simp only [byKey, dedupe_eq]
  exact filter_firstOfEach (· != reference.key) references

/-- **Leaving a reference out changes nothing for what is about something else.** -/
theorem filter_dedupe_without (reference : ResolvedReference) (before after : List ResolvedReference) :
    (dedupe (before ++ reference :: after)).filter (fun entry => ¬ entry.SameAs reference) =
      (dedupe (before ++ after)).filter fun entry => ¬ entry.SameAs reference := by
  have itself : reference.SameAs reference := key_eq_iff.mp rfl
  rw [filter_dedupe, filter_dedupe, List.filter_append, List.filter_append,
    List.filter_cons_of_neg (by simpa using itself)]

/-- Dropping repetitions loses no note. -/
theorem exists_hasNote_dedupe (references : List ResolvedReference) :
    (∃ reference ∈ dedupe references, reference.HasNote) ↔
      ∃ reference ∈ references, reference.HasNote := by
  have firsts := keepsFirsts_dedupe references
  constructor
  · rintro ⟨reference, kept, hasNote⟩
    exact ⟨reference, firsts.sublist.subset kept, hasNote⟩
  · rintro ⟨reference, given, hasNote⟩
    obtain ⟨kept, member, same⟩ := firsts.covers reference given
    exact ⟨kept, member, hasNote.of_key (key_eq_iff.mpr same)⟩

end ResolvedReference

/-! ## Mentions -/

namespace Mention

open ResolvedReference (KeepsFirsts HasNote dedupe dedupeFrom)

variable {ownerId : String} {mentions : List Mention} {course : Course}

/-- A mention is resolved whatever its lookups come to. -/
theorem lookUp_ends (ownerId : String) (mention : Mention) :
    (Mention.lookUp ownerId mention).Ends (fun _ => True) (fun _ => True) (fun _ => False) := by
  have byText : (Mention.lookUpText ownerId mention.value).Ends (fun _ => True) (fun _ => True)
      (fun _ => False) := by
    intro answer _
    cases answer <;> trivial
  unfold Mention.lookUp
  cases mention.kind with
  | exactId => exact fun _ _ => trivial
  | freeText => exact byText
  | quotedTitle =>
      intro answer _
      rcases answer with failure | _ | ⟨note, others⟩
      · trivial
      · exact byText
      · trivial

/-- A mention that is resolved as found has a note. -/
theorem hasNote_resolved (mention : Mention) (answer : Except Failure (Option Note))
    (found : (mention.resolved answer).found = true) : (mention.resolved answer).HasNote := by
  rcases answer with failure | _ | note
  · cases found
  · cases found
  · exact ⟨rfl, nofun⟩

/-- **Of the references that are looked up, those that are found have a note**, whatever the lookups come
to. -/
theorem resolveAll_hasNotes (ownerId : String) (mentions : List Mention) :
    (Mention.resolveAll ownerId mentions).Ends (fun _ => True)
      (fun references => ∀ reference ∈ references, reference.found = true → reference.HasNote)
      (fun _ => False) := by
  have each (mention : Mention) : (Mention.resolve ownerId mention).Ends (fun _ => True)
      (fun reference => reference.found = true → reference.HasNote) (fun _ => False) :=
    (lookUp_ends ownerId mention).andThen fun answer _ => mention.hasNote_resolved answer
  refine (Ends.forEach each mentions).andThen fun references haveNotes => ?_
  exact fun reference kept =>
    haveNotes reference ((ResolvedReference.keepsFirsts_dedupe references).sublist.subset kept)

theorem resolveAll_ends (ownerId : String) (mentions : List Mention) :
    (Mention.resolveAll ownerId mentions).Ends (fun _ => True) (fun _ => True) (fun _ => False) := by
  have each (mention : Mention) : (Mention.resolve ownerId mention).Ends (fun _ => True)
      (fun _ => True) (fun _ => False) := (lookUp_ends ownerId mention).andThen fun _ _ => trivial
  exact (Ends.forEach each mentions).andThen fun _ _ => trivial

/-! ## One pass -/

/-- Look up mentions one after the other, given the notes that were found so far and the words in which missing
ones were asked for.  An answer about one of them is dropped. -/
def resolvePass (ownerId : String) (notes requests : List String) :
    List Mention → Interaction (List ResolvedReference)
  | [] => .done []
  | mention :: rest =>
      let words := Text.lowercase (Text.trim mention.value)
      (mention.lookUp ownerId).andThen fun
        | .ok (some note) =>
            if notes.contains note.id then resolvePass ownerId notes requests rest
            else
              (resolvePass ownerId (note.id :: notes) requests rest).andThen fun others =>
                .done (.present note.id note.title note.plainContent mention.value :: others)
        | .ok none =>
            if requests.contains words then resolvePass ownerId notes requests rest
            else
              (resolvePass ownerId notes (words :: requests) rest).andThen fun others =>
                .done (.missing mention.value ResolvedReference.noteNotFound :: others)
        | .error failure =>
            if requests.contains words then resolvePass ownerId notes requests rest
            else
              (resolvePass ownerId notes (words :: requests) rest).andThen fun others =>
                .done (.missing mention.value ("lookup failed: " ++ failure.message) :: others)

/-- The notes and the words so far are those in the keys so far. -/
structure SeenAlike (seen : List ReferenceKey) (notes requests : List String) : Prop where
  notes : ∀ id, seen.contains (.note id) = notes.contains id
  requests : ∀ words, seen.contains (.request words) = requests.contains words

section SeenAlike

variable {seen : List ReferenceKey} {notes requests : List String}

theorem SeenAlike.note (alike : SeenAlike seen notes requests) (id : String) :
    SeenAlike (.note id :: seen) (id :: notes) requests where
  notes := fun other => by rw [List.contains_cons, List.contains_cons, alike.notes, Bool.eq_iff_iff]; simp
  requests := fun words => by rw [List.contains_cons, alike.requests]; simp

theorem SeenAlike.request (alike : SeenAlike seen notes requests) (words : String) :
    SeenAlike (.request words :: seen) notes (words :: requests) where
  notes := fun id => by rw [List.contains_cons, alike.notes]; simp
  requests := fun other => by rw [List.contains_cons, List.contains_cons, alike.requests, Bool.eq_iff_iff]; simp

end SeenAlike

theorem dedupeFrom_cons (seen : List ReferenceKey) (reference : ResolvedReference)
    (rest : Interaction (List ResolvedReference)) :
    (rest.andThen fun others => .done (dedupeFrom seen (reference :: others))) =
      if seen.contains reference.key then rest.andThen fun others => .done (dedupeFrom seen others)
      else (rest.andThen fun others => .done (dedupeFrom (reference.key :: seen) others)).andThen fun kept =>
        .done (reference :: kept) := by
  simp only [dedupeFrom]
  split
  · rfl
  · rw [andThen_assoc]
    rfl

theorem resolvePass_eq {seen : List ReferenceKey} {notes requests : List String}
    (alike : SeenAlike seen notes requests) (mentions : List Mention) :
    resolvePass ownerId notes requests mentions =
      (forEach (resolve ownerId) mentions).andThen fun references => .done (dedupeFrom seen references) := by
  induction mentions generalizing seen notes requests with
  | nil => rfl
  | cons mention rest ih =>
      have opened : ((forEach (resolve ownerId) (mention :: rest)).andThen fun references =>
          .done (dedupeFrom seen references)) =
            (mention.lookUp ownerId).andThen fun answer =>
              (forEach (resolve ownerId) rest).andThen fun others =>
                .done (dedupeFrom seen (mention.resolved answer :: others)) := by
        simp only [forEach, resolve, bind_eq_andThen, andThen_assoc]
        rfl
      rw [opened, resolvePass]
      refine congrArg (mention.lookUp ownerId).andThen (funext fun answer => ?_)
      rw [dedupeFrom_cons]
      rcases answer with failure | _ | note
      · have isRequest : (mention.resolved (.error failure)).key =
            .request (Text.lowercase (Text.trim mention.value)) := rfl
        rw [isRequest, alike.requests, ← ih alike, ← ih (alike.request _)]
        rfl
      · have isRequest : (mention.resolved (.ok none)).key =
            .request (Text.lowercase (Text.trim mention.value)) := rfl
        rw [isRequest, alike.requests, ← ih alike, ← ih (alike.request _)]
        rfl
      · have isNote : (mention.resolved (.ok (some note))).key = .note note.id := rfl
        rw [isNote, alike.notes, ← ih alike, ← ih (alike.note _)]
        rfl

/-- **Dropping repetitions at the end is dropping them on the way.** -/
theorem resolveAll_eq_pass (ownerId : String) (mentions : List Mention) :
    resolveAll ownerId mentions = resolvePass ownerId [] [] mentions :=
  (resolvePass_eq ⟨fun _ => rfl, fun _ => rfl⟩ mentions).symm

/-! ## Each by itself -/

theorem resolveAll_singleton (ownerId : String) (mention : Mention) :
    resolveAll ownerId [mention] = (resolve ownerId mention).andThen fun reference => .done [reference] := by
  simp only [resolveAll, bind_eq_andThen, forEach, andThen_assoc, andThen]
  rfl

/-- All mentions are resolved like lists of one mention each, put together. -/
theorem resolveAll_eq_parts (ownerId : String) (mentions : List Mention) :
    resolveAll ownerId mentions =
      (forEach (fun mention => resolveAll ownerId [mention]) mentions).andThen fun parts =>
        .done (dedupe parts.flatten) := by
  have joined (answers : List ResolvedReference) : (answers.map fun answer => [answer]).flatten = answers := by
    rw [← List.flatMap_def, List.flatMap_singleton']
  simp only [resolveAll_singleton, forEach_andThen_done, andThen_assoc, andThen, joined]
  rfl

theorem resolveAll_takes_done {entries : List ResolvedReference} :
    (resolveAll ownerId mentions).Takes course (.done entries) ↔
      ∃ answers, (forEach (resolve ownerId) mentions).Takes course (.done answers) ∧ entries = dedupe answers := by
  constructor
  · intro taken
    obtain ⟨lookups, rest, answers, rfl, looked, dropped⟩ := takes_andThen_done.mp taken
    obtain ⟨rfl, isEntries⟩ := takes_done.mp dropped
    exact ⟨answers, by rwa [List.append_nil], Ending.done.inj isEntries⟩
  · rintro ⟨answers, looked, rfl⟩
    exact takes_andThen_done.mpr ⟨course, [], answers, (List.append_nil _).symm, looked, .done _⟩

/-- What mentions are resolved to on a course.  The references are the first ones of the answers, and those that
count as found have a note.  A mention has a stretch of the course to itself, and one of the references is about
what it came to.  Without it the rest of the course resolves the other mentions, to the same references about
anything else. -/
structure ResolvesEach (ownerId : String) (mentions : List Mention) (course : Course)
    (entries : List ResolvedReference) : Prop where
  firsts : ∃ answers, (forEach (resolve ownerId) mentions).Takes course (.done answers) ∧
    KeepsFirsts answers entries
  found_iff : ∀ entry ∈ entries, entry.found = true ↔ entry.HasNote
  apart : ∀ earlier mention later, mentions = earlier ++ mention :: later →
    ∃ before own after answer others, course = before ++ (own ++ after) ∧
      (resolve ownerId mention).Takes own (.done answer) ∧
      (∃ entry ∈ entries, entry.SameAs answer) ∧
      (resolveAll ownerId (earlier ++ later)).Takes (before ++ after) (.done others) ∧
      (entries.filter fun entry => ¬ entry.SameAs answer) = others.filter fun entry => ¬ entry.SameAs answer

theorem resolvesEach_of_takes {entries : List ResolvedReference}
    (taken : (resolveAll ownerId mentions).Takes course (.done entries)) :
    ResolvesEach ownerId mentions course entries := by
  have haveNotes : ∀ entry ∈ entries, entry.found = true → entry.HasNote :=
    (resolveAll_hasNotes ownerId mentions).of_takes taken fun _ _ => trivial
  obtain ⟨answers, looked, rfl⟩ := resolveAll_takes_done.mp taken
  have firsts := ResolvedReference.keepsFirsts_dedupe answers
  refine ⟨⟨answers, looked, firsts⟩, fun entry kept => ⟨haveNotes entry kept, And.left⟩, ?_⟩
  rintro earlier mention later rfl
  rw [forEach_append] at looked
  obtain ⟨before, rest, some, rfl, first, looked⟩ := takes_andThen_done.mp looked
  obtain ⟨rest, none, more, rfl, second, looked⟩ := takes_andThen_done.mp looked
  obtain ⟨rfl, isAnswers⟩ := takes_done.mp looked
  obtain ⟨own, after, answer, rfl, itself, second⟩ := takes_andThen_done.mp second
  obtain ⟨after, none, others, rfl, third, second⟩ := takes_andThen_done.mp second
  obtain ⟨rfl, isMore⟩ := takes_done.mp second
  cases isMore
  cases isAnswers
  have without : (forEach (resolve ownerId) (earlier ++ later)).Takes (before ++ after)
      (.done (some ++ others)) := by
    rw [forEach_append]
    exact takes_andThen_done.mpr ⟨before, after, some, rfl, first,
      takes_andThen_done.mpr ⟨after, [], others, (List.append_nil _).symm, third, .done _⟩⟩
  refine ⟨before, own, after, answer, dedupe (some ++ others), by simp, itself,
    firsts.covers answer (by simp), resolveAll_takes_done.mpr ⟨_, without, rfl⟩, ?_⟩
  exact ResolvedReference.filter_dedupe_without answer some others

/-- **Mentions are resolved each by itself.**  Resolving them all is resolving lists of one mention each, joining
what that gives and dropping repetitions; it is also one pass that drops them on the way.  Dropping repetitions
twice is dropping them once, and it keeps the first of all references that are about the same.  Whatever the
lookups come to, the mentions are resolved, and no mention matters for the references that are about something
else. -/
theorem resolves_each_by_itself (ownerId : String) (mentions : List Mention) :
    resolveAll ownerId mentions =
        ((forEach (fun mention => resolveAll ownerId [mention]) mentions).andThen fun parts =>
          .done (dedupe parts.flatten)) ∧
      resolveAll ownerId mentions = resolvePass ownerId [] [] mentions ∧
      (∀ references, dedupe (dedupe references) = dedupe references ∧
        KeepsFirsts references (dedupe references)) ∧
      ∀ course ending, (resolveAll ownerId mentions).Takes course ending → ending ≠ .brokenOff →
        ∃ entries, ending = .done entries ∧ ResolvesEach ownerId mentions course entries := by
  refine ⟨resolveAll_eq_parts ownerId mentions, resolveAll_eq_pass ownerId mentions, fun references =>
    ⟨ResolvedReference.dedupe_dedupe references, ResolvedReference.keepsFirsts_dedupe references⟩, ?_⟩
  intro course ending taken finished
  have ends := (resolveAll_ends ownerId mentions).of_takes taken fun _ _ => trivial
  cases ending with
  | done entries => exact ⟨entries, rfl, resolvesEach_of_takes taken⟩
  | failed failure => exact ends.elim
  | crashed => exact ends.elim
  | brokenOff => exact absurd rfl finished

/-- A note. -/
def rentNote : Note :=
  { id := "n", ownerId := "u", title := "Rent", plainContent := "1200", updatedAt := ⟨0, 0⟩ }

/-- A note by its title, a lookup that fails, the note by its identifier, and the text of the failed lookup once
more, in another letter case. -/
def mixedMentions : List Mention :=
  [⟨.quotedTitle, "Rent", "[[Rent]]"⟩, ⟨.freeText, "lost", "@lost"⟩, ⟨.exactId, "n", "@n"⟩,
    ⟨.freeText, "Lost", "@Lost"⟩]

/-- The lookups for them. -/
def mixedCourse : Course :=
  [⟨.lookUp (.notesByTitle "u" "Rent"), (.ok [rentNote] : Except Failure (List Note))⟩,
    ⟨.lookUp (.notesByText "u" "lost" 1), (.error (.noteStore "down") : Except Failure (List Note))⟩,
    ⟨.lookUp (.noteById "u" "n"), (.ok (some rentNote) : Except Failure (Option Note))⟩,
    ⟨.lookUp (.notesByText "u" "Lost" 1), (.ok [] : Except Failure (List Note))⟩]

/-- What they are resolved to. -/
def mixedEntries : List ResolvedReference :=
  [.present "n" "Rent" "1200" "Rent", .missing "lost" ("lookup failed: " ++ (Failure.noteStore "down").message)]

theorem resolves_each_of_mixed :
    (resolveAll "u" mixedMentions).Takes mixedCourse (.done mixedEntries) ∧
      ∃ entries, Ending.done mixedEntries = .done entries ∧
        ResolvesEach "u" mixedMentions mixedCourse entries := by
  have dropped : mixedEntries = dedupe [.present "n" "Rent" "1200" "Rent",
      .missing "lost" ("lookup failed: " ++ (Failure.noteStore "down").message),
      .present "n" "Rent" "1200" "n", .missing "Lost" ResolvedReference.noteNotFound] := by
    decide +kernel
  have taken : (resolveAll "u" mixedMentions).Takes mixedCourse (.done mixedEntries) :=
    resolveAll_takes_done.mpr ⟨_, .ask _ _ _ (.ask _ _ _ (.ask _ _ _ (.ask _ _ _ (.done _)))), dropped⟩
  exact ⟨taken, (resolves_each_by_itself "u" mixedMentions).2.2.2 mixedCourse _ taken nofun⟩

end Mention

end NoteDialogue
