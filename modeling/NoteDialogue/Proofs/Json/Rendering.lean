import NoteDialogue.Json.Writer
import NoteDialogue.Proofs.Json.Spelling

/-!
# What is written is read back

The compact written form of a value is one of its spellings (`spells_render`), so reading it gives the value
back (`ofText?_render`), as long as its texts hold no half of a surrogate pair and its numbers are written
with digits (`Written`).
-/

set_option autoImplicit false

namespace NoteDialogue

/-- A number whose parts are digits, without zeros before the whole part. -/
def NumberLiteral.Written (literal : NumberLiteral) : Prop :=
  Json.IsWholePart literal.whole ∧ (literal.fraction = [] ∨ Json.AreDigits literal.fraction) ∧
    ∀ exponent ∈ literal.exponent, Json.AreDigits exponent.2

namespace Json

mutual

/-- Every text is plain and every number is written with digits. -/
def Written : Json → Prop
  | .number literal => literal.Written
  | .text content => content ≠ .unpaired
  | .list items => AreWritten items
  | .object members => MembersAreWritten members
  | .null | .bool _ => True

def AreWritten : List Json → Prop
  | [] => True
  | item :: rest => Written item ∧ AreWritten rest

def MembersAreWritten : List (JsonText × Json) → Prop
  | [] => True
  | (name, value) :: rest => name ≠ .unpaired ∧ Written value ∧ MembersAreWritten rest

end

/-! ## Strings -/

theorem hexDigit?_digitChar : ∀ digit < 16, hexDigit? (Nat.digitChar digit) = some digit := by
  decide

theorem spellsCode_hexDigits4 {code : Nat} (small : code < 65536) :
    SpellsCode code ('\\' :: 'u' :: hexDigits4 code) := by
  have digit (value : Nat) : hexDigit? (Nat.digitChar (value % 16)) = some (value % 16) :=
    hexDigit?_digitChar _ (Nat.mod_lt _ (by decide))
  have spelled :=
    SpellsCode.digits (digit (code / 4096)) (digit (code / 256)) (digit (code / 16)) (digit code)
  have whole : ((code / 4096 % 16 * 16 + code / 256 % 16) * 16 + code / 16 % 16) * 16 + code % 16 = code := by
    omega
  rwa [whole] at spelled

/-- A character is escaped where it has to be. -/
theorem spellsChars_escapeChar (c : Char) {content written : List Char}
    (spells : SpellsChars content written) : SpellsChars (c :: content) (escapeChar c ++ written) := by
  unfold escapeChar
  split
  case h_1 | h_2 | h_3 | h_4 | h_5 => exact .letter rfl spells
  case h_6 notQuote notBackslash _ _ _ =>
      have byCode {code : Nat} (same : c.toNat = code) : Char.ofNat code = c := by
        rw [← same, Char.ofNat_toNat]
      split
      case isTrue backspace => exact .letter (congrArg some (byCode backspace)) spells
      case isFalse =>
          split
          case isTrue formFeed => exact .letter (congrArg some (byCode formFeed)) spells
          case isFalse =>
              split
              case isTrue control => exact .code (spellsCode_hexDigits4 (by omega)) spells
              case isFalse printable => exact .plain (Nat.le_of_not_lt printable) notQuote notBackslash spells

theorem spellsChars_escaped (content : List Char) : SpellsChars content (content.flatMap escapeChar) := by
  induction content with
  | nil => exact .nil
  | cons c content ih =>
      rw [List.flatMap_cons]
      exact spellsChars_escapeChar c ih

theorem toList_quote (text : String) :
    (quote text).toList = '"' :: (text.toList.flatMap escapeChar ++ ['"']) := by
  simp [quote]

/-! ## Numbers -/

theorem spellsNumber_render {literal : NumberLiteral} (written : literal.Written) :
    SpellsNumber literal literal.render.toList := by
  obtain ⟨negative, whole, fraction, exponent⟩ := literal
  obtain ⟨isWhole, fractional, scaled⟩ := written
  have signed : SpellsSign negative (if negative then ['-'] else []) := by
    cases negative with
    | true => exact .minus
    | false => exact .none
  have spelledFraction : SpellsFraction fraction (if fraction.isEmpty then [] else '.' :: fraction) := by
    cases fraction with
    | nil => exact .none
    | cons => exact .digits (fractional.resolve_left nofun)
  rw [NumberLiteral.render, String.toList_ofList, List.append_assoc, List.append_assoc]
  refine .mk signed isWhole spelledFraction ?_
  cases exponent with
  | none => exact .none
  | some given =>
      obtain ⟨isNegative, digits⟩ := given
      have signedExponent : SpellsExponentSign isNegative (if isNegative then ['-'] else []) := by
        cases isNegative with
        | true => exact .minus
        | false => exact .none
      exact .given (.inl rfl) signedExponent (scaled _ rfl)

/-! ## Values -/

theorem toList_enclosed (opening closing : String) (parts : List String) :
    (opening ++ String.intercalate "," parts ++ closing).toList =
      opening.toList ++ ([','].intercalate (parts.map String.toList) ++ closing.toList) := by
  rw [String.toList_append, String.toList_append, String.toList_intercalate, List.append_assoc]
  rfl

theorem spellsMember_render {name : JsonText} {value : Json} (plain : name ≠ .unpaired)
    (spells : Spells value (render value).toList) :
    SpellsMember (name, value) (renderText name ++ ":" ++ render value).toList := by
  cases name with
  | unpaired => exact absurd rfl plain
  | plain name =>
      have member := SpellsMember.mk (spellsChars_escaped name.toList) noBlanks noBlanks spells
      simpa [renderText, toList_quote] using member

mutual

/-- **The written form of a value is one of its spellings.** -/
theorem spells_render : (json : Json) → Written json → Spells json (render json).toList
  | .null, _ => .null
  | .bool true, _ => .isTrue
  | .bool false, _ => .isFalse
  | .number literal, written => .number (spellsNumber_render written)
  | .text (.plain content), _ => by
      rw [render, renderText, toList_quote]
      exact .text (spellsChars_escaped content.toList)
  | .list [], _ => .noItems noBlanks
  | .list (item :: items), written => by
      rw [render, toList_enclosed]
      exact .list noBlanks (spells_renderItems (item :: items) nofun written)
  | .object [], _ => .noMembers noBlanks
  | .object (member :: members), written => by
      rw [render, toList_enclosed]
      exact .object noBlanks (spells_renderMembers (member :: members) nofun written)

theorem spells_renderItems : (items : List Json) → items ≠ [] → AreWritten items →
    SpellsItems items ([','].intercalate ((renderItems items).map String.toList) ++ [']'])
  | [], given, _ => absurd rfl given
  | [item], _, written => by
      rw [renderItems, renderItems, List.map_cons, List.map_nil, List.intercalate_singleton]
      exact .last noBlanks (spells_render item written.1)
  | item :: next :: items, _, written => by
      have later := spells_renderItems (next :: items) nofun written.2
      rw [renderItems] at later
      rw [renderItems, renderItems, List.map_cons, List.map_cons, List.intercalate_cons_cons,
        ← List.map_cons, List.append_assoc, List.append_assoc]
      exact .cons noBlanks noBlanks (spells_render item written.1) later

theorem spells_renderMembers : (members : List (JsonText × Json)) → members ≠ [] →
    MembersAreWritten members →
    SpellsMembers members ([','].intercalate ((renderMembers members).map String.toList) ++ ['}'])
  | [], given, _ => absurd rfl given
  | [(name, value)], _, written => by
      rw [renderMembers, renderMembers, List.map_cons, List.map_nil, List.intercalate_singleton]
      exact .last noBlanks (spellsMember_render written.1 (spells_render value written.2.1))
  | (name, value) :: (nextName, next) :: members, _, written => by
      have later := spells_renderMembers ((nextName, next) :: members) nofun written.2.2
      rw [renderMembers] at later
      rw [renderMembers, renderMembers, List.map_cons, List.map_cons, List.intercalate_cons_cons,
        ← List.map_cons, List.append_assoc, List.append_assoc]
      exact .cons noBlanks noBlanks (spellsMember_render written.1 (spells_render value written.2.1)) later

end

/-- **What is written is read back.** -/
theorem ofText?_render {json : Json} (written : json.Written) : ofText? json.render = some json :=
  ofChars?_of_spells (spells_render json written).spellsText

end Json

end NoteDialogue
