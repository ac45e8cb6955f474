import NoteDialogue.Proofs.Json.Natural
import NoteDialogue.Proofs.Json.Record
import NoteDialogue.Proofs.Plan

/-!
# Reading back what a plan was written as

A validated plan may be written as a JSON object in many ways: its members in any order, the ones without a
value left out or `null`, the index as a number or as its digits, and all of it in any spelling of JSON
(`ActionPlan.Encodes`, `Json.SpellsText`).  Reading it gives the plan back (`ActionPlan.ofText_encoded`),
since the object is all that is left of the text when fences and prose are stripped: a text that starts with
a brace opens no block of code, and what its strings contain lies between the first brace and the last one
(`objectText_of_spells`).
-/

set_option autoImplicit false

namespace NoteDialogue

/-! ## The object in the text -/

namespace Json

variable {members : List (JsonText × Json)} {written : List Char}

theorem SpellsMembers.exists_concat (spells : SpellsMembers members written) :
    ∃ inside, written = inside ++ [closeBrace] := by
  induction members generalizing written with
  | nil => cases spells
  | cons member members ih =>
      cases spells with
      | last => exact ⟨_, (List.append_assoc _ _ _).symm⟩
      | @cons _ _ written before after more _ _ _ further =>
          obtain ⟨inside, rfl⟩ := ih further
          exact ⟨written ++ (before ++ ',' :: (after ++ inside)), by simp⟩

/-- An object stands between braces. -/
theorem Spells.exists_braces (spells : Spells (.object members) written) :
    ∃ inside, written = openBrace :: (inside ++ [closeBrace]) := by
  cases spells with
  | noMembers => exact ⟨_, rfl⟩
  | object _ spells =>
      obtain ⟨inside, rfl⟩ := spells.exists_concat
      exact ⟨_ ++ inside, by rw [List.append_assoc]; rfl⟩

end Json

theorem insideFence_of_brace (text : List Char) : insideFence (openBrace :: text) = openBrace :: text := by
  have different : (Char.ofNat 0x60 == openBrace) = false := by decide
  have noFence : codeFence.isPrefixOf (openBrace :: text) = false := by
    simp only [codeFence, List.replicate_succ, List.isPrefixOf_cons_cons, different, Bool.false_and]
  rw [insideFence, noFence, if_neg Bool.false_ne_true]

theorem betweenBraces_of_braces (inside : List Char) :
    betweenBraces (openBrace :: (inside ++ [closeBrace])) = openBrace :: (inside ++ [closeBrace]) := by
  have opened : (openBrace :: (inside ++ [closeBrace])).dropWhile (· != openBrace) =
      openBrace :: (inside ++ [closeBrace]) :=
    List.dropWhile_cons_of_neg (by simp)
  have reversed : (openBrace :: (inside ++ [closeBrace])).reverse =
      closeBrace :: (openBrace :: inside).reverse := by
    simp
  have closed : (closeBrace :: (openBrace :: inside).reverse).dropWhile (· != closeBrace) =
      closeBrace :: (openBrace :: inside).reverse :=
    List.dropWhile_cons_of_neg (by simp)
  simp only [betweenBraces, opened, reversed, closed]
  simp

theorem isBlank_of_token {c : Char} (blank : Json.isTokenBlank c = true) : Text.isBlank c = true := by
  simp only [Json.isTokenBlank, Bool.or_eq_true, decide_eq_true_eq] at blank
  rcases blank with ((rfl | rfl) | rfl) | rfl <;> rfl

/-- **Nothing is stripped of an object.** -/
theorem objectText_of_spells {members : List (JsonText × Json)} {raw : List Char}
    (spells : Json.SpellsText (.object members) raw) :
    Json.Spells (.object members) (objectText raw) := by
  obtain ⟨before, written, after, blankBefore, spells, blankAfter, rfl⟩ := spells
  obtain ⟨inside, rfl⟩ := spells.exists_braces
  have bareEnds : Text.HasBareEnds (openBrace :: (inside ++ [closeBrace])) := by
    refine ⟨fun c first => ?_, fun c last => ?_⟩
    · obtain rfl := Option.some.inj first
      rfl
    · rw [← List.cons_append, List.getLast?_concat] at last
      obtain rfl := Option.some.inj last
      rfl
  have trimmed := Text.trimChars_surrounded (fun c member => isBlank_of_token (blankBefore c member))
    (fun c member => isBlank_of_token (blankAfter c member)) bareEnds (List.cons_ne_nil _ _)
  rwa [objectText, trimmed, insideFence_of_brace, betweenBraces_of_braces]

/-! ## Written plans -/

/-- How an index is written. -/
inductive WrittenIndex : Option Nat → Option Json → Prop
  | absent : WrittenIndex none none
  | number (index : Nat) : WrittenIndex (some index) (some (.nat index))
  | digits (index : Nat) : WrittenIndex (some index) (some (.str (toString index)))

/-- How a reasoning is written, which is empty where it is missing. -/
inductive WrittenReasoning : String → Option Json → Prop
  | given (reasoning : String) : WrittenReasoning reasoning (some (.str reasoning))
  | absent : WrittenReasoning "" none

/-- The members of an object that encodes a plan. -/
inductive ActionPlan.Encodes (plan : ActionPlan) (members : List (JsonText × Json)) : Prop
  | mk {query index reasoning : List (JsonText × Json)} {indexValue reasoningValue : Option Json}
      (queryShown : Json.OptionalMember "search_query" (plan.action.searchQuery?.map Json.str) query)
      (indexWritten : WrittenIndex plan.action.targetIndex? indexValue)
      (indexShown : Json.OptionalMember "target_index" indexValue index)
      (reasoningWritten : WrittenReasoning plan.reasoning reasoningValue)
      (reasoningShown : Json.OptionalMember "reasoning" reasoningValue reasoning)
      (inAnyOrder : members.Perm
        ((.plain "action", .str plan.action.kind.name) :: (query ++ (index ++ reasoning))))

theorem WrittenIndex.read_text {digits : String} {index : Nat}
    (natural : Numeral.natural? Numeral.maxWord (Text.trim digits) = some index) :
    Json.possible (Json.kept? 1) (some (.str digits)) = some (some (.str digits)) ∧
      (some (Json.str digits)).bind WrittenPlan.indexOf? = some index := by
  have sound : Json.isSound (.str digits) = true := by
    simp [Json.str, Json.isSound]
  refine ⟨Json.possible_kept nofun rfl sound, ?_⟩
  rw [Option.bind_some, Json.str, WrittenPlan.indexOf?, natural]

theorem WrittenIndex.read {index : Option Nat} {value : Option Json} (written : WrittenIndex index value)
    (fits : ∀ number ∈ index, number ≤ Numeral.maxWord) :
    Json.possible (Json.kept? 1) value = some value ∧ value.bind WrittenPlan.indexOf? = index := by
  cases written with
  | absent => exact ⟨rfl, rfl⟩
  | number index =>
      have word := NumberLiteral.word?_ofNat (fits index rfl)
      have sound : Json.isSound (.nat index) = true := by
        simp [Json.nat, Json.isSound, NumberLiteral.inRange, word]
      exact ⟨Json.possible_kept nofun rfl sound, word⟩
  | digits index => exact read_text (natural?_toString (fits index rfl))

theorem WrittenReasoning.read {reasoning : String} {value : Option Json}
    (written : WrittenReasoning reasoning value) :
    ∃ text, Json.possible Json.text? value = some text ∧ text.getD "" = reasoning := by
  cases written with
  | given => exact ⟨_, rfl, rfl⟩
  | absent => exact ⟨none, rfl, rfl⟩

section Encoded

variable {plan : ActionPlan} {members : List (JsonText × Json)}

/-- The record of a plan, in whichever order it is written. -/
theorem ActionPlan.Encodes.exists_record (encodes : plan.Encodes members) :
    ∃ (query index reasoning indexValue reasoningValue : Option Json),
      Json.record? WrittenPlan.fields (.object members) =
        some [some (.str plan.action.kind.name), query, index, reasoning] ∧
      Json.possible Json.text? query = some plan.action.searchQuery? ∧
      WrittenIndex plan.action.targetIndex? indexValue ∧
      Json.possible (Json.kept? 1) index = Json.possible (Json.kept? 1) indexValue ∧
      WrittenReasoning plan.reasoning reasoningValue ∧
      Json.possible Json.text? reasoning = Json.possible Json.text? reasoningValue := by
  obtain @⟨query, index, reasoning, indexValue, reasoningValue, queryShown, indexWritten, indexShown,
    reasoningWritten, reasoningShown, inAnyOrder⟩ := encodes
  have texts : Json.namesAreTexts members = true := by
    refine Json.namesAreTexts_of_perm inAnyOrder ?_
    have others : Json.namesAreTexts (query ++ (index ++ reasoning)) = true := by
      simp only [Json.namesAreTexts_append, queryShown.namesAreTexts, indexShown.namesAreTexts,
        reasoningShown.namesAreTexts, Bool.and_self]
    exact others
  obtain ⟨foundQuery, queryNamed, readsQuery⟩ := queryShown.exists_found
  obtain ⟨foundIndex, indexNamed, readsIndex⟩ := indexShown.exists_found
  obtain ⟨foundReasoning, reasoningNamed, readsReasoning⟩ := reasoningShown.exists_found
  have actionField : Json.fieldOfMembers? members (.plain "action") =
      some (some (.str plan.action.kind.name)) := by
    refine Json.fieldOfMembers?_of_perm inAnyOrder ?_
    rw [Json.Field.plain, Json.membersNamed_cons_same, Json.membersNamed_append, Json.membersNamed_append,
      queryShown.membersNamed_other (by decide), indexShown.membersNamed_other (by decide),
      reasoningShown.membersNamed_other (by decide)]
    rfl
  have queryField : Json.fieldOfMembers? members (.withDefault "search_query") = some foundQuery := by
    refine Json.fieldOfMembers?_of_perm inAnyOrder ?_
    rw [Json.Field.withDefault, Json.membersNamed_cons_other (by decide), Json.membersNamed_append,
      Json.membersNamed_append, queryNamed, indexShown.membersNamed_other (by decide),
      reasoningShown.membersNamed_other (by decide), List.append_nil, List.append_nil]
  have indexField : Json.fieldOfMembers? members (.withDefault "target_index") = some foundIndex := by
    refine Json.fieldOfMembers?_of_perm inAnyOrder ?_
    rw [Json.Field.withDefault, Json.membersNamed_cons_other (by decide), Json.membersNamed_append,
      Json.membersNamed_append, queryShown.membersNamed_other (by decide), indexNamed,
      reasoningShown.membersNamed_other (by decide), List.append_nil, List.nil_append]
  have reasoningField : Json.fieldOfMembers? members (.withDefault "reasoning") = some foundReasoning := by
    refine Json.fieldOfMembers?_of_perm inAnyOrder ?_
    rw [Json.Field.withDefault, Json.membersNamed_cons_other (by decide), Json.membersNamed_append,
      Json.membersNamed_append, queryShown.membersNamed_other (by decide),
      indexShown.membersNamed_other (by decide), reasoningNamed, List.nil_append, List.nil_append]
  refine ⟨foundQuery, foundIndex, foundReasoning, indexValue, reasoningValue, ?_, ?_, indexWritten,
    readsIndex _, reasoningWritten, readsReasoning _⟩
  · rw [Json.record?, if_pos texts]
    simp [WrittenPlan.fields, actionField, queryField, indexField, reasoningField]
  · rw [readsQuery]
    cases plan.action.searchQuery? <;> rfl

/-- What is read from the record are the data of the plan. -/
theorem WrittenPlan.ofJson?_of_encodes (encodes : plan.Encodes members)
    (fits : ∀ index ∈ plan.action.targetIndex?, index ≤ Numeral.maxWord) :
    ∃ written, WrittenPlan.ofJson? (.object members) = some written ∧
      written.action = plan.action.kind.name ∧ written.searchQuery = plan.action.searchQuery? ∧
      written.targetIndex.bind WrittenPlan.indexOf? = plan.action.targetIndex? ∧
      written.reasoning.getD "" = plan.reasoning := by
  obtain ⟨query, index, reasoning, indexValue, reasoningValue, record, readsQuery, indexWritten, readsIndex,
    reasoningWritten, readsReasoning⟩ := encodes.exists_record
  obtain ⟨kept, points⟩ := indexWritten.read fits
  obtain ⟨text, given, reason⟩ := reasoningWritten.read
  rw [kept] at readsIndex
  rw [given] at readsReasoning
  refine ⟨⟨plan.action.kind.name, plan.action.searchQuery?, indexValue, text⟩, ?_, rfl, rfl, points, reason⟩
  rw [WrittenPlan.ofJson?, record]
  simp [Json.required, Json.str, Json.text?, readsQuery, readsIndex, readsReasoning]

end Encoded

theorem ActionKind.ofText_name (kind : ActionKind) : ActionKind.ofText kind.name = .ok kind := by
  have named : ActionKind.ofName? (ActionKind.spelling kind.name) = some kind := by
    cases kind <;> decide +kernel
  rw [ActionKind.ofText, named]

/-- Checking the record of a validated plan gives the plan back. -/
theorem WrittenPlan.check_eq {plan : ActionPlan} {written : WrittenPlan} {candidates : Nat}
    (validated : plan.action.Validated candidates) (action : written.action = plan.action.kind.name)
    (query : written.searchQuery = plan.action.searchQuery?)
    (index : written.targetIndex.bind WrittenPlan.indexOf? = plan.action.targetIndex?)
    (reasoning : written.reasoning.getD "" = plan.reasoning) : written.check candidates = plan := by
  obtain ⟨planned, reason⟩ := plan
  obtain rfl : written.reasoning.getD "" = reason := reasoning
  rw [check, action, ActionKind.ofText_name]
  cases validated with
  | @search text trimmed some =>
      have asks : written.query? = .some text := by
        rw [query?, query]
        simp [PlanAction.searchQuery?, trimmed, some]
      simp [PlanAction.kind, asks]
  | @select chosen inside =>
      have points : written.candidate? candidates = some chosen := by
        rw [candidate?, index]
        simp [PlanAction.targetIndex?, inside]
      simp [PlanAction.kind, points]
  | @switch chosen inside =>
      have points : written.candidate? candidates = some chosen := by
        rw [candidate?, index]
        simp [PlanAction.targetIndex?, inside]
      simp [PlanAction.kind, points]
  | answerCurrent | answerAll | clarify => rfl

theorem PlanAction.Validated.fits {action : PlanAction} {candidates : Nat}
    (validated : action.Validated candidates) (word : candidates ≤ Numeral.maxWord) :
    ∀ index ∈ action.targetIndex?, index ≤ Numeral.maxWord :=
  fun _ points => Nat.le_trans (Nat.le_of_lt (validated.lt points)) word

/-- **Plans are decoded.**  Whatever text a plan is read from, it is validated.  If the candidates can be
counted in sixty-four bits, a validated plan is read back from every text that it is written as. -/
theorem ActionPlan.ofText_encoded (candidates : Nat) :
    (∀ raw, (ofText raw candidates).action.Validated candidates) ∧
      ∀ (plan : ActionPlan) (members : List (JsonText × Json)) (raw : String),
        candidates ≤ Numeral.maxWord → plan.action.Validated candidates → plan.Encodes members →
        Json.SpellsText (.object members) raw.toList → ofText raw candidates = plan := by
  refine ⟨fun raw => validated_ofText raw candidates, ?_⟩
  intro plan members raw word validated encodes spells
  have read : Json.ofChars? (objectText raw.toList) = some (.object members) :=
    Json.ofChars?_of_spells (objectText_of_spells spells).spellsText
  obtain ⟨written, record, action, query, index, reasoning⟩ :=
    WrittenPlan.ofJson?_of_encodes encodes (validated.fits word)
  rw [ofText, read, Option.bind_some, record]
  exact WrittenPlan.check_eq validated action query index reasoning

/-- A plan whose texts hold quotes, braces, a code fence and a line break. -/
def ActionPlan.quoting : ActionPlan :=
  ⟨.search "the note \"\x7b x \x7d\" with\n``` in it", "it says \x7d\n```\nand \"\x7b"⟩

/-- The members that it is written with, the action last. -/
def ActionPlan.quotingMembers : List (JsonText × Json) :=
  [(.plain "action", .str quoting.action.kind.name),
    (.plain "search_query", .str "the note \"\x7b x \x7d\" with\n``` in it"), (.plain "target_index", .null),
    (.plain "reasoning", .str quoting.reasoning)].reverse

/-- The plan is read back from its compact written form. -/
theorem ActionPlan.ofText_encoded_quoting :
    2 ≤ Numeral.maxWord ∧ quoting.action.Validated 2 ∧ quoting.Encodes quotingMembers ∧
      Json.SpellsText (.object quotingMembers) (Json.render (.object quotingMembers)).toList ∧
      ofText (Json.render (.object quotingMembers)) 2 = quoting := by
  have word : 2 ≤ Numeral.maxWord := by decide
  have validated : quoting.action.Validated 2 := .search (by decide +kernel) (by decide)
  have encodes : quoting.Encodes quotingMembers :=
    .mk (.given _) .absent .null (.given _) (.given _) (List.reverse_perm _)
  have written : (Json.object quotingMembers).Written := by
    simp [quotingMembers, Json.Written, Json.MembersAreWritten, Json.str]
  have spells : Json.SpellsText (.object quotingMembers) (Json.render (.object quotingMembers)).toList :=
    (Json.spells_render _ written).spellsText
  exact ⟨word, validated, encodes, spells, (ofText_encoded 2).2 quoting _ _ word validated encodes spells⟩

end NoteDialogue
