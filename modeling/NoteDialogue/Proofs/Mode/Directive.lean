import NoteDialogue.Mode.Directive
import NoteDialogue.Proofs.Mode
import NoteDialogue.Proofs.Text.LetterCase

/-!
# The parts of an utterance with a directive

An utterance opens with a directive when it begins with a spelling of one of the openings, and the opening either
names a style or ends a word there (`Opening.Begins`).  There are four openings (`Directive.Opens`).  It begins with one
opening at most, although one opening is another with a colon after it (`Opening.Begins.unique`).  So the order in which
openings are tried does not matter.

Such an utterance is the opening, the key of the style, blanks and the clean text (`Opening.LaysOut`), and any other
is its own clean text (`directive_grammar`).  As a key has no blank, what a directive selects is canonical
(`canonical_selection`).
-/

set_option autoImplicit false

namespace NoteDialogue

open Text

variable {opening other : Opening} {text rest : List Char} {directive : Directive}

/-! ## Openings -/

namespace Opening

/-- The text begins with a spelling of the opening; a plain opening ends a word there. -/
def Begins (opening : Opening) (text : List Char) : Prop :=
  ∃ spelled rest, text = spelled ++ rest ∧ sameIgnoringAsciiCase spelled opening.text.toList = true ∧
    (opening.mode.isStyled = true ∨ endsWord rest = true)

/-- Of two openings one begins the other only by the colon that asks for a key. -/
theorem eq_or_colon (member : opening ∈ openings) (also : other ∈ openings)
    (within : opening.text.toList.map asciiLower <+: other.text.toList.map asciiLower) :
    opening = other ∨ opening.mode.isStyled = false ∧
      other.text.toList.map asciiLower = opening.text.toList.map asciiLower ++ [':'] := by
  have all : ∀ opening ∈ openings, ∀ other ∈ openings,
      opening.text.toList.map asciiLower <+: other.text.toList.map asciiLower →
        opening = other ∨ opening.mode.isStyled = false ∧
          other.text.toList.map asciiLower = opening.text.toList.map asciiLower ++ [':'] := by
    decide +kernel
  exact all opening member other also within

/-- What comes before a colon ends no word. -/
theorem not_endsWord_of_colon (colon : [':'] <+: rest.map asciiLower) : endsWord rest = false := by
  cases rest with
  | nil => cases List.prefix_nil.mp colon
  | cons c later =>
      have lower : asciiLower c = ':' := (List.cons_prefix_cons.mp colon).1.symm
      obtain rfl : c = ':' := eq_of_asciiLower_eq lower (by decide)
      rfl

theorem Begins.eq_of_prefix (member : opening ∈ openings) (also : other ∈ openings) (one : opening.Begins text)
    (two : other.Begins text)
    (within : opening.text.toList.map asciiLower <+: other.text.toList.map asciiLower) : opening = other := by
  rcases eq_or_colon member also within with same | ⟨plain, colon⟩
  · exact same
  · obtain ⟨spelled, rest, rfl, spells, styled | ends⟩ := one
    · rw [plain] at styled
      cases styled
    · obtain ⟨longer, later, split, spellsLonger, -⟩ := two
      have lowered : opening.text.toList.map asciiLower ++ rest.map asciiLower =
          opening.text.toList.map asciiLower ++ ([':'] ++ later.map asciiLower) := by
        rw [← List.append_assoc, ← colon, ← beq_iff_eq.mp spells, ← beq_iff_eq.mp spellsLonger, ← List.map_append,
          ← List.map_append, split]
      have next : [':'] <+: rest.map asciiLower := ⟨later.map asciiLower, (List.append_cancel_left lowered).symm⟩
      rw [not_endsWord_of_colon next] at ends
      cases ends

/-- **A text begins with one opening at most.** -/
theorem Begins.unique (member : opening ∈ openings) (also : other ∈ openings) (one : opening.Begins text)
    (two : other.Begins text) : opening = other := by
  have prefixOf {each : Opening} (begins : each.Begins text) :
      each.text.toList.map asciiLower <+: text.map asciiLower := by
    obtain ⟨spelled, rest, rfl, spells, -⟩ := begins
    rw [List.map_append, beq_iff_eq.mp spells]
    exact List.prefix_append _ _
  rcases List.prefix_or_prefix_of_prefix (prefixOf one) (prefixOf two) with within | beyond
  · exact one.eq_of_prefix member also two within
  · exact (two.eq_of_prefix also member one beyond).symm

/-! ## What is read after an opening -/

/-- The key after an opening, which has one only if it names a style. -/
def keyIn (opening : Opening) (rest : List Char) : List Char :=
  if opening.mode.isStyled then rest.takeWhile fun c => !isBlank c else []

/-- The directive of an opening that goes on in this way. -/
def reading (opening : Opening) (rest : List Char) : Directive :=
  let key := opening.keyIn rest
  { mode := if key = [] then opening.mode.base else opening.mode
    styleKey := if key = [] then none else some (String.ofList key)
    cleanText := String.ofList (trimChars (rest.drop key.length))
    explicit := true }

theorem complete?_eq (opening : Opening) (rest : List Char) :
    opening.complete? rest =
      if opening.mode.isStyled = true ∨ endsWord rest = true then some (opening.reading rest) else none := by
  unfold complete? reading keyIn
  by_cases styled : opening.mode.isStyled = true
  · by_cases none : (rest.takeWhile fun c => !isBlank c) = []
    · simp [styled, none]
    · simp [styled, none]
  · have plain : opening.mode.isStyled = false := Bool.eq_false_iff.mpr styled
    by_cases ends : endsWord rest = true
    · simp [plain, ends, ChatMode.base_eq_self plain]
    · simp [plain, ends]

theorem directive?_eq_some_iff :
    opening.directive? text = some directive ↔
      ∃ spelled rest, text = spelled ++ rest ∧ sameIgnoringAsciiCase spelled opening.text.toList = true ∧
        (opening.mode.isStyled = true ∨ endsWord rest = true) ∧ opening.reading rest = directive := by
  unfold directive? sameIgnoringAsciiCase
  constructor
  · intro reads
    cases opened : afterOpening? opening.text.toList text with
    | none => simp [opened] at reads
    | some rest =>
        obtain ⟨spelled, split, same⟩ := afterOpening?_eq_some_iff.mp opened
        rw [opened] at reads
        simp only [complete?_eq, Option.ite_none_right_eq_some, Option.some.injEq] at reads
        exact ⟨spelled, rest, split, beq_iff_eq.mpr same, reads⟩
  · rintro ⟨spelled, rest, split, same, goesOn, rfl⟩
    rw [afterOpening?_eq_some_iff.mpr ⟨spelled, split, beq_iff_eq.mp same⟩]
    simp only [complete?_eq, if_pos goesOn]

/-- **An opening has a directive to read exactly if the text begins with it.** -/
theorem begins_iff : opening.Begins text ↔ ∃ directive, opening.directive? text = some directive := by
  constructor
  · rintro ⟨spelled, rest, split, spells, goesOn⟩
    exact ⟨_, directive?_eq_some_iff.mpr ⟨spelled, rest, split, spells, goesOn, rfl⟩⟩
  · rintro ⟨directive, reads⟩
    obtain ⟨spelled, rest, split, spells, goesOn, -⟩ := directive?_eq_some_iff.mp reads
    exact ⟨spelled, rest, split, spells, goesOn⟩

/-! ## The parts after an opening -/

/-- A trimmed text with a directive: a spelling of the opening, the key of a style, blanks and the clean text. -/
structure LaysOut (opening : Opening) (text : List Char) (directive : Directive) (spelled key blanks : List Char) :
    Prop where
  split : text = spelled ++ (key ++ (blanks ++ directive.cleanText.toList))
  spells : sameIgnoringAsciiCase spelled opening.text.toList = true
  visible : ∀ c ∈ key, isBlank c = false
  blank : ∀ c ∈ blanks, isBlank c = true
  /-- The key is as long as it can be: where no blank follows it, nothing does. -/
  longest : blanks = [] → directive.cleanText = ""
  /-- Only an opening that names a style has a key. -/
  keyless : opening.mode.isStyled = false → key = []
  bare : HasBareEnds directive.cleanText.toList
  mode_eq : directive.mode = if key = [] then opening.mode.base else opening.mode
  styleKey_eq : directive.styleKey = if key = [] then none else some (String.ofList key)
  explicit : directive.explicit = true

/-- After the key a word ends. -/
theorem endsWord_after_keyIn (goesOn : opening.mode.isStyled = true ∨ endsWord rest = true) :
    rest = opening.keyIn rest ++ rest.drop (opening.keyIn rest).length ∧
      endsWord (rest.drop (opening.keyIn rest).length) = true := by
  unfold keyIn
  by_cases styled : opening.mode.isStyled = true
  · let word := rest.takeWhile fun c => !isBlank c
    let later := rest.dropWhile fun c => !isBlank c
    have whole : word ++ later = rest := List.takeWhile_append_dropWhile
    have after : rest.drop word.length = later := by
      have cut : (word ++ later).drop word.length = later := List.drop_left
      rwa [whole] at cut
    have ends : endsWord later = true := by
      have stops := List.head?_dropWhile_not (fun c => !isBlank c) rest
      cases kept : rest.dropWhile fun c => !isBlank c with
      | nil => simp only [later, kept, endsWord]
      | cons c others =>
          rw [kept] at stops
          simpa [later, kept, endsWord] using stops
    rw [if_pos styled, after]
    exact ⟨whole.symm, ends⟩
  · rw [if_neg styled]
    exact ⟨rfl, goesOn.resolve_left styled⟩

/-- Where a word ends, there are blanks and a trimmed text, up to blanks at its end. -/
theorem exists_blanks (ends : endsWord rest = true) (last : ∀ c ∈ rest.getLast?, isBlank c = false) :
    ∃ blanks, rest = blanks ++ trimChars rest ∧ (∀ c ∈ blanks, isBlank c = true) ∧
      (blanks = [] → trimChars rest = []) := by
  have trimmed : trimChars rest = rest.dropWhile isBlank := by
    refine dropTrailing_eq_self fun c member => last c ?_
    have split : rest.takeWhile isBlank ++ trimLeftChars rest = rest := List.takeWhile_append_dropWhile
    rw [← split, List.getLast?_append, Option.mem_def.mp member]
    rfl
  refine ⟨rest.takeWhile isBlank, ?_, fun c member => List.all_eq_true.mp List.all_takeWhile c member, ?_⟩
  · rw [trimmed, List.takeWhile_append_dropWhile]
  · intro none
    cases rest with
    | nil => rfl
    | cons c later =>
        have first : isBlank c = true := ends
        rw [List.takeWhile_cons_of_pos first] at none
        cases none

/-- **What is read after an opening lays out the text.** -/
theorem exists_laysOut (bare : HasBareEnds text) (reads : opening.directive? text = some directive) :
    ∃ spelled key blanks, opening.LaysOut text directive spelled key blanks := by
  obtain ⟨spelled, rest, rfl, spells, goesOn, rfl⟩ := directive?_eq_some_iff.mp reads
  obtain ⟨split, ends⟩ := endsWord_after_keyIn goesOn
  have last : ∀ c ∈ (rest.drop (opening.keyIn rest).length).getLast?, isBlank c = false := by
    intro c member
    refine bare.2 c ?_
    rw [split, ← List.append_assoc, List.getLast?_append, Option.mem_def.mp member]
    rfl
  obtain ⟨blanks, parted, blank, longest⟩ := exists_blanks ends last
  have clean : (opening.reading rest).cleanText.toList = trimChars (rest.drop (opening.keyIn rest).length) :=
    String.toList_ofList
  refine ⟨spelled, opening.keyIn rest, blanks, ?_, spells, ?_, blank, ?_, ?_, ?_, rfl, rfl, rfl⟩
  · rw [clean, ← parted, ← split]
  · intro c member
    unfold keyIn at member
    split at member
    · simpa using List.all_eq_true.mp List.all_takeWhile c member
    · cases member
  · intro none
    exact String.toList_eq_nil_iff.mp (clean.trans (longest none))
  · intro plain
    rw [keyIn, plain, if_neg Bool.false_ne_true]
  · rw [clean]
    exact hasBareEnds_trimChars _

namespace LaysOut

variable {spelled key blanks : List Char}

/-- There is a key exactly if the mode is a styled one. -/
theorem isSome_styleKey (laysOut : opening.LaysOut text directive spelled key blanks) :
    directive.styleKey.isSome = directive.mode.isStyled := by
  rw [laysOut.styleKey_eq, laysOut.mode_eq]
  by_cases none : key = []
  · rw [if_pos none, if_pos none, ChatMode.isStyled_base]
    rfl
  · have styled : opening.mode.isStyled = true :=
      Bool.of_not_eq_false fun plain => none (laysOut.keyless plain)
    rw [if_neg none, if_neg none, styled]
    rfl

theorem isWord_styleKey (laysOut : opening.LaysOut text directive spelled key blanks) {given : String}
    (named : directive.styleKey = some given) : IsWord given.toList := by
  rw [laysOut.styleKey_eq] at named
  by_cases none : key = []
  · rw [if_pos none] at named
    cases named
  · rw [if_neg none, Option.some.injEq] at named
    rw [← named, String.toList_ofList]
    exact ⟨none, laysOut.visible⟩

end LaysOut

end Opening

/-! ## Whole utterances -/

namespace Directive

/-- The four ways to open with a directive, and the mode that each asks for.  After an opening that names a style
anything may follow, and the other two are whole words. -/
inductive Opens : List Char → ChatMode → Prop where
  | bypassStyle {spelled : List Char} (spells : sameIgnoringAsciiCase spelled "/bypass:".toList = true)
      (rest : List Char) : Opens (spelled ++ rest) .bypassStyle
  | bypass {spelled rest : List Char} (spells : sameIgnoringAsciiCase spelled "/bypass".toList = true)
      (ends : endsWord rest = true) : Opens (spelled ++ rest) .bypass
  | ragStyle {spelled : List Char} (spells : sameIgnoringAsciiCase spelled "/style:".toList = true)
      (rest : List Char) : Opens (spelled ++ rest) .ragStyle
  | rag {spelled rest : List Char} (spells : sameIgnoringAsciiCase spelled "/rag".toList = true)
      (ends : endsWord rest = true) : Opens (spelled ++ rest) .rag

/-- **These are the openings that are tried.** -/
theorem opens_iff {mode : ChatMode} :
    Opens text mode ↔ ∃ opening ∈ openings, opening.mode = mode ∧ opening.Begins text := by
  constructor
  · rintro (⟨spells, rest⟩ | ⟨spells, ends⟩ | ⟨spells, rest⟩ | ⟨spells, ends⟩)
    · exact ⟨⟨"/bypass:", .bypassStyle⟩, by decide, rfl, _, rest, rfl, spells, .inl rfl⟩
    · exact ⟨⟨"/bypass", .bypass⟩, by decide, rfl, _, _, rfl, spells, .inr ends⟩
    · exact ⟨⟨"/style:", .ragStyle⟩, by decide, rfl, _, rest, rfl, spells, .inl rfl⟩
    · exact ⟨⟨"/rag", .rag⟩, by decide, rfl, _, _, rfl, spells, .inr ends⟩
  · rintro ⟨opening, member, rfl, spelled, rest, rfl, spells, goesOn⟩
    simp only [openings, List.mem_cons, List.not_mem_nil, or_false] at member
    rcases member with rfl | rfl | rfl | rfl
    · exact .bypassStyle spells rest
    · exact .bypass spells (goesOn.resolve_left Bool.false_ne_true)
    · exact .ragStyle spells rest
    · exact .rag spells (goesOn.resolve_left Bool.false_ne_true)

/-- A text is read after an opening, or it begins with none and is left as it is. -/
theorem ofTrimmed_cases (text : List Char) :
    (∃ opening ∈ openings, opening.directive? text = some (ofTrimmed text)) ∨
      (∀ opening ∈ openings, ¬ opening.Begins text) ∧ ofTrimmed text = ⟨.rag, none, String.ofList text, false⟩ := by
  unfold ofTrimmed
  cases found : openings.findSome? fun opening => opening.directive? text with
  | some directive => exact .inl (List.exists_of_findSome?_eq_some found)
  | none =>
      refine .inr ⟨fun opening member begins => ?_, rfl⟩
      obtain ⟨directive, reads⟩ := Opening.begins_iff.mp begins
      rw [List.findSome?_eq_none_iff.mp found opening member] at reads
      cases reads

/-- An opening that a text begins with is the one that is read. -/
theorem ofTrimmed_of_begins (member : opening ∈ openings) (begins : opening.Begins text) :
    opening.directive? text = some (ofTrimmed text) := by
  rcases ofTrimmed_cases text with ⟨other, also, reads⟩ | ⟨none, -⟩
  · have same : opening = other := begins.unique member also (Opening.begins_iff.mpr ⟨_, reads⟩)
    rwa [same]
  · exact absurd begins (none opening member)

/-- The directive of an opening that an utterance begins with lays out the utterance. -/
theorem exists_laysOut {utterance : String} (member : opening ∈ openings)
    (begins : opening.Begins (trimChars utterance.toList)) :
    ∃ spelled key blanks, opening.LaysOut (trimChars utterance.toList) (ofUtterance utterance) spelled key blanks :=
  Opening.exists_laysOut (hasBareEnds_trimChars _) (ofTrimmed_of_begins member begins)

/-- An utterance has the mode that its opening asks for, or the base of that mode where the key is missing. -/
theorem mode_of_opens {utterance : String} {mode : ChatMode} (opens : Opens (trimChars utterance.toList) mode) :
    (ofUtterance utterance).mode = if (ofUtterance utterance).styleKey = none then mode.base else mode := by
  obtain ⟨opening, member, rfl, begins⟩ := opens_iff.mp opens
  obtain ⟨spelled, key, blanks, laysOut⟩ := exists_laysOut member begins
  rw [laysOut.mode_eq, laysOut.styleKey_eq]
  by_cases keyless : key = []
  · rw [if_pos keyless, if_pos keyless, if_pos rfl]
  · rw [if_neg keyless, if_neg keyless, if_neg (Option.some_ne_none _)]

/-- An utterance is laid out by an opening that it begins with, or it begins with none and all of it is a question. -/
theorem ofUtterance_cases (utterance : String) :
    (∃ opening ∈ openings, opening.Begins (trimChars utterance.toList) ∧ ∃ spelled key blanks,
      opening.LaysOut (trimChars utterance.toList) (ofUtterance utterance) spelled key blanks) ∨
    (∀ opening ∈ openings, ¬ opening.Begins (trimChars utterance.toList)) ∧
      ofUtterance utterance = ⟨.rag, none, trim utterance, false⟩ := by
  rcases ofTrimmed_cases (trimChars utterance.toList) with ⟨opening, member, reads⟩ | nowhere
  · have begins : opening.Begins (trimChars utterance.toList) := Opening.begins_iff.mpr ⟨_, reads⟩
    exact .inl ⟨opening, member, begins, exists_laysOut member begins⟩
  · exact .inr nowhere

/-- The key of a style is a word. -/
theorem isWord_styleKey {utterance key : String} (named : (ofUtterance utterance).styleKey = some key) :
    IsWord key.toList := by
  rcases ofUtterance_cases utterance with ⟨opening, -, -, spelled, _, blanks, laysOut⟩ | ⟨-, plain⟩
  · exact laysOut.isWord_styleKey named
  · rw [plain] at named
    cases named

/-- What a directive selects is canonical. -/
theorem canonical_selection (utterance : String) : (ofUtterance utterance).selection.Canonical :=
  ModeSelection.canonical_of _ fun _ named => (isWord_styleKey named).hasBareEnds

/-- An utterance has a directive exactly if it begins with an opening, once trimmed. -/
theorem explicit_iff (utterance : String) :
    (ofUtterance utterance).explicit = true ↔ ∃ opening ∈ openings, opening.Begins (trimChars utterance.toList) := by
  rcases ofUtterance_cases utterance with ⟨opening, member, begins, _, _, _, laysOut⟩ | ⟨none, plain⟩
  · exact iff_of_true laysOut.explicit ⟨opening, member, begins⟩
  · rw [plain]
    refine iff_of_false Bool.false_ne_true ?_
    rintro ⟨opening, member, begins⟩
    exact none opening member begins

theorem explicit_iff_opens (utterance : String) :
    (ofUtterance utterance).explicit = true ↔ ∃ mode, Opens (trimChars utterance.toList) mode := by
  rw [explicit_iff]
  constructor
  · rintro ⟨opening, member, begins⟩
    exact ⟨opening.mode, opens_iff.mpr ⟨opening, member, rfl, begins⟩⟩
  · rintro ⟨mode, opens⟩
    obtain ⟨opening, member, -, begins⟩ := opens_iff.mp opens
    exact ⟨opening, member, begins⟩

theorem trim_cleanText (utterance : String) :
    trim (ofUtterance utterance).cleanText = (ofUtterance utterance).cleanText := by
  rcases ofUtterance_cases utterance with ⟨opening, -, -, spelled, key, blanks, laysOut⟩ | ⟨-, plain⟩
  · rw [trim, trimChars_eq_self laysOut.bare, String.ofList_toList]
  · rw [plain, trim_trim]

/-- There is a key of a style exactly if the mode is a styled one. -/
theorem isSome_styleKey (utterance : String) :
    (ofUtterance utterance).styleKey.isSome = (ofUtterance utterance).mode.isStyled := by
  rcases ofUtterance_cases utterance with ⟨opening, -, -, spelled, key, blanks, laysOut⟩ | ⟨-, plain⟩
  · exact laysOut.isSome_styleKey
  · rw [plain]
    rfl

/-- Without a directive all of an utterance is a question for the notes. -/
theorem eq_of_implicit {utterance : String} (implicit : (ofUtterance utterance).explicit = false) :
    ofUtterance utterance = ⟨.rag, none, trim utterance, false⟩ := by
  rcases ofUtterance_cases utterance with ⟨opening, -, -, spelled, key, blanks, laysOut⟩ | ⟨-, plain⟩
  · rw [laysOut.explicit] at implicit
    cases implicit
  · exact plain

/-- **Every utterance has the parts of its directive.**  There is one exactly if the trimmed utterance begins with an
opening, in any case of ASCII letters, and a plain opening ends a word there.  Then the trimmed utterance is the
opening, the key, blanks and the clean text, with nothing lost and whichever opening is meant.  There is a key exactly
if the mode is styled, and it is a word.  Without a directive all of the trimmed utterance is a question for the
notes.  The openings are the four of `Opens`, each with its mode. -/
theorem directive_grammar (utterance : String) :
    let text := trimChars utterance.toList
    let directive := ofUtterance utterance
    (directive.explicit = true ↔ ∃ opening ∈ openings, opening.Begins text) ∧
      (∀ opening ∈ openings, opening.Begins text →
        ∃ spelled key blanks, opening.LaysOut text directive spelled key blanks) ∧
      trim directive.cleanText = directive.cleanText ∧
      directive.styleKey.isSome = directive.mode.isStyled ∧
      (∀ key, directive.styleKey = some key → IsWord key.toList) ∧
      (directive.explicit = false → directive = ⟨.rag, none, trim utterance, false⟩) ∧
      (directive.explicit = true ↔ ∃ mode, Opens text mode) ∧
      ∀ mode, Opens text mode → directive.mode = if directive.styleKey = none then mode.base else mode := by
  intro text directive
  exact ⟨explicit_iff utterance, fun _ => exists_laysOut, trim_cleanText utterance, isSome_styleKey utterance,
    fun _ => isWord_styleKey, eq_of_implicit, explicit_iff_opens utterance, fun _ => mode_of_opens⟩

/-- An opening in capitals, a key that is not ASCII and a tab before the text. -/
example : ofUtterance " /BYPASS:é\tü " = ⟨.bypassStyle, some "é", "ü", true⟩ := by decide +kernel

end Directive

end NoteDialogue
