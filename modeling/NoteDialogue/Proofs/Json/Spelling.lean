import NoteDialogue.Json.Reader
import NoteDialogue.Proofs.Text.Trim

/-!
# Spellings of JSON values

A value can be written as JSON in many ways: with blanks between the tokens, and with characters of a string
as they are, escaped by a letter, or by their number in hexadecimal digits (`Json.Spells`).  The reader reads
every spelling (`ofChars?_of_spells`).

Each reading function is followed along the grammar, whatever text comes after what it reads.
-/

set_option autoImplicit false

namespace NoteDialogue.Json

open Numeral (isDigit)

/-! ## The grammar -/

/-- Blanks between tokens. -/
def TokenBlanks (blanks : List Char) : Prop :=
  ∀ c ∈ blanks, isTokenBlank c = true

/-- The escape of a sixteen-bit number. -/
inductive SpellsCode : Nat → List Char → Prop
  | digits {a b c d : Char} {p q r s : Nat} (first : hexDigit? a = some p) (second : hexDigit? b = some q)
      (third : hexDigit? c = some r) (fourth : hexDigit? d = some s) :
      SpellsCode (((p * 16 + q) * 16 + r) * 16 + s) ['\\', 'u', a, b, c, d]

/-- How the characters of a string may be written. -/
inductive SpellsChars : List Char → List Char → Prop
  | nil : SpellsChars [] []
  | plain {c : Char} {content written : List Char} (printable : 32 ≤ c.toNat) (notQuote : c ≠ '"')
      (notBackslash : c ≠ '\\') : SpellsChars content written → SpellsChars (c :: content) (c :: written)
  | letter {c mark : Char} {content written : List Char} (escapes : simpleEscape? mark = some c) :
      SpellsChars content written → SpellsChars (c :: content) ('\\' :: mark :: written)
  | code {c : Char} {content escape written : List Char} (escapes : SpellsCode c.toNat escape) :
      SpellsChars content written → SpellsChars (c :: content) (escape ++ written)
  | pair {c : Char} {high low : Nat} {content first second written : List Char}
      (isHigh : isHighSurrogate high = true) (isLow : isLowSurrogate low = true)
      (together : c.toNat = 0x10000 + (high - 0xD800) * 0x400 + (low - 0xDC00))
      (escapesHigh : SpellsCode high first) (escapesLow : SpellsCode low second) :
      SpellsChars content written → SpellsChars (c :: content) (first ++ (second ++ written))

/-- Some digits. -/
def AreDigits (digits : List Char) : Prop :=
  digits ≠ [] ∧ ∀ c ∈ digits, isDigit c = true

/-- A zero stands alone before the point. -/
def IsWholePart (digits : List Char) : Prop :=
  AreDigits digits ∧ (digits.head? = some '0' → digits = ['0'])

inductive SpellsSign : Bool → List Char → Prop
  | minus : SpellsSign true ['-']
  | none : SpellsSign false []

inductive SpellsFraction : List Char → List Char → Prop
  | none : SpellsFraction [] []
  | digits {digits : List Char} (are : AreDigits digits) : SpellsFraction digits ('.' :: digits)

inductive SpellsExponentSign : Bool → List Char → Prop
  | minus : SpellsExponentSign true ['-']
  | plus : SpellsExponentSign false ['+']
  | none : SpellsExponentSign false []

inductive SpellsExponent : Option (Bool × List Char) → List Char → Prop
  | none : SpellsExponent none []
  | given {mark : Char} {negative : Bool} {sign digits : List Char} (isMark : mark = 'e' ∨ mark = 'E')
      (signed : SpellsExponentSign negative sign) (are : AreDigits digits) :
      SpellsExponent (some (negative, digits)) (mark :: (sign ++ digits))

inductive SpellsNumber : NumberLiteral → List Char → Prop
  | mk {literal : NumberLiteral} {sign fraction exponent : List Char}
      (signed : SpellsSign literal.negative sign) (isWhole : IsWholePart literal.whole)
      (fractional : SpellsFraction literal.fraction fraction)
      (scaled : SpellsExponent literal.exponent exponent) :
      SpellsNumber literal (sign ++ (literal.whole ++ (fraction ++ exponent)))

mutual

/-- How a value may be written. -/
inductive Spells : Json → List Char → Prop
  | null : Spells .null "null".toList
  | isTrue : Spells (.bool true) "true".toList
  | isFalse : Spells (.bool false) "false".toList
  | number {literal : NumberLiteral} {written : List Char} (spells : SpellsNumber literal written) :
      Spells (.number literal) written
  | text {content : String} {written : List Char} (spells : SpellsChars content.toList written) :
      Spells (.text (.plain content)) ('"' :: (written ++ ['"']))
  | noItems {blanks : List Char} (blank : TokenBlanks blanks) : Spells (.list []) ('[' :: (blanks ++ [']']))
  | list {items : List Json} {blanks written : List Char} (blank : TokenBlanks blanks) :
      SpellsItems items written → Spells (.list items) ('[' :: (blanks ++ written))
  | noMembers {blanks : List Char} (blank : TokenBlanks blanks) :
      Spells (.object []) ('{' :: (blanks ++ ['}']))
  | object {members : List (JsonText × Json)} {blanks written : List Char} (blank : TokenBlanks blanks) :
      SpellsMembers members written → Spells (.object members) ('{' :: (blanks ++ written))

/-- How the items of a list may be written, up to the closing bracket. -/
inductive SpellsItems : List Json → List Char → Prop
  | last {item : Json} {written blanks : List Char} (blank : TokenBlanks blanks) :
      Spells item written → SpellsItems [item] (written ++ (blanks ++ [']']))
  | cons {item : Json} {items : List Json} {written before after more : List Char}
      (blankBefore : TokenBlanks before) (blankAfter : TokenBlanks after) :
      Spells item written → SpellsItems items more →
        SpellsItems (item :: items) (written ++ (before ++ ',' :: (after ++ more)))

/-- How the members of an object may be written, up to the closing brace. -/
inductive SpellsMembers : List (JsonText × Json) → List Char → Prop
  | last {member : JsonText × Json} {written blanks : List Char} (blank : TokenBlanks blanks) :
      SpellsMember member written → SpellsMembers [member] (written ++ (blanks ++ ['}']))
  | cons {member : JsonText × Json} {members : List (JsonText × Json)} {written before after more : List Char}
      (blankBefore : TokenBlanks before) (blankAfter : TokenBlanks after) :
      SpellsMember member written → SpellsMembers members more →
        SpellsMembers (member :: members) (written ++ (before ++ ',' :: (after ++ more)))

/-- How a member of an object may be written. -/
inductive SpellsMember : JsonText × Json → List Char → Prop
  | mk {name : String} {value : Json} {spelled before after written : List Char}
      (named : SpellsChars name.toList spelled) (blankBefore : TokenBlanks before)
      (blankAfter : TokenBlanks after) :
      Spells value written →
        SpellsMember (.plain name, value)
          ('"' :: (spelled ++ '"' :: (before ++ ':' :: (after ++ written))))

end

/-! ## Strings -/

variable {content written blanks rest : List Char}

theorem readUnits_code {code : Nat} {escape : List Char} (spells : SpellsCode code escape)
    (units : List Unit16) (rest : List Char) :
    readUnits units (escape ++ rest) = readUnits (.escaped code :: units) rest := by
  obtain ⟨first, second, third, fourth⟩ := spells
  simp only [List.cons_append, List.nil_append, readUnits, first, second, third, fourth]

theorem readUnits_letter {c mark : Char} (escapes : simpleEscape? mark = some c) (units : List Unit16)
    (rest : List Char) : readUnits units ('\\' :: mark :: rest) = readUnits (.char c :: units) rest := by
  have notCode : mark ≠ 'u' := by
    rintro rfl
    cases escapes
  rw [readUnits]
  · rw [escapes]
  · exact fun _ _ _ _ _ code => absurd code notCode

theorem readUnits_plain {c : Char} (printable : 32 ≤ c.toNat) (notQuote : c ≠ '"')
    (notBackslash : c ≠ '\\') (units : List Unit16) (rest : List Char) :
    readUnits units (c :: rest) = readUnits (.char c :: units) rest := by
  have kept : (decide (c.toNat < 32) || decide (c = '\\')) = false := by
    simp [notBackslash, printable]
  rw [readUnits, kept, if_neg Bool.false_ne_true]
  all_goals simp_all

/-- A unit that is no surrogate is a character of its own. -/
theorem textOfUnits_escaped {c : Char} (units : List Unit16) :
    textOfUnits (.escaped c.toNat :: units) = (textOfUnits units).map (c :: ·) := by
  have valid : c.toNat < 0xD800 ∨ 0xDFFF < c.toNat ∧ c.toNat < 0x110000 := c.valid
  have notHigh : isHighSurrogate c.toNat = false := by
    simp only [isHighSurrogate, Bool.and_eq_false_iff, decide_eq_false_iff_not]
    omega
  have notLow : isLowSurrogate c.toNat = false := by
    simp only [isLowSurrogate, Bool.and_eq_false_iff, decide_eq_false_iff_not]
    omega
  rcases units with _ | ⟨_ | low, units⟩ <;>
    simp [textOfUnits, notHigh, notLow, Char.ofNat_toNat]

/-- The units of a spelled string. -/
theorem exists_units (spells : SpellsChars content written) :
    ∃ units, textOfUnits units = some content ∧
      ∀ before rest, readUnits before (written ++ '"' :: rest) = some (units.reverse ++ before, rest) := by
  induction spells with
  | nil => exact ⟨[], rfl, fun before rest => by simp [readUnits]⟩
  | @plain c content written printable notQuote notBackslash _ ih =>
      obtain ⟨units, text, reads⟩ := ih
      refine ⟨.char c :: units, by rw [textOfUnits, text]; rfl, fun before rest => ?_⟩
      rw [List.cons_append, readUnits_plain printable notQuote notBackslash, reads]
      simp
  | @letter c mark content written escapes _ ih =>
      obtain ⟨units, text, reads⟩ := ih
      refine ⟨.char c :: units, by rw [textOfUnits, text]; rfl, fun before rest => ?_⟩
      rw [List.cons_append, List.cons_append, readUnits_letter escapes, reads]
      simp
  | @code c content escape written escapes _ ih =>
      obtain ⟨units, text, reads⟩ := ih
      refine ⟨.escaped c.toNat :: units, by rw [textOfUnits_escaped, text]; rfl, fun before rest => ?_⟩
      rw [List.append_assoc, readUnits_code escapes, reads]
      simp
  | @pair c high low content first second written isHigh isLow together escapesHigh escapesLow _ ih =>
      obtain ⟨units, text, reads⟩ := ih
      refine ⟨.escaped high :: .escaped low :: units, ?_, fun before rest => ?_⟩
      · rw [textOfUnits, if_pos isHigh, if_pos isLow, text, ← together, Char.ofNat_toNat]
        rfl
      · rw [List.append_assoc, readUnits_code escapesHigh, List.append_assoc, readUnits_code escapesLow,
          reads]
        simp

/-- **A spelled string is read back**, whatever comes after its closing quote. -/
theorem readText?_of_spells {content : String} (spells : SpellsChars content.toList written)
    (rest : List Char) : readText? (written ++ '"' :: rest) = some (.plain content, rest) := by
  obtain ⟨units, text, reads⟩ := exists_units spells
  rw [readText?, reads]
  simp [text]

/-! ## Numbers -/

/-- After a value a text ends or goes on with a blank or a mark between values. -/
def Delimited (rest : List Char) : Prop :=
  ∀ c ∈ rest.head?, isTokenBlank c = true ∨ c = ',' ∨ c = ']' ∨ c = '}'

/-- What a number does not go on with. -/
theorem Delimited.ends (delimited : Delimited rest) :
    ∀ c ∈ rest.head?, isDigit c = false ∧ c ≠ '.' ∧ c ≠ 'e' ∧ c ≠ 'E' := by
  intro c first
  have marks := delimited c first
  simp only [isTokenBlank, Bool.or_eq_true, decide_eq_true_eq] at marks
  rcases marks with (((rfl | rfl) | rfl) | rfl) | rfl | rfl | rfl <;> decide

theorem AreDigits.read {digits : List Char} (are : AreDigits digits)
    (stop : ∀ c ∈ rest.head?, isDigit c = false) :
    (digits ++ rest).takeWhile isDigit = digits ∧ (digits ++ rest).dropWhile isDigit = rest :=
  ⟨Text.takeWhile_append_of_stop are.2 stop, Text.dropWhile_append_of_stop are.2 stop⟩

/-- Digits do not start with a sign. -/
theorem AreDigits.head?_ne_sign {digits : List Char} (are : AreDigits digits) (rest : List Char) :
    (∀ more, digits ++ rest ≠ '-' :: more) ∧ ∀ more, digits ++ rest ≠ '+' :: more := by
  obtain ⟨d, digits, rfl⟩ := List.exists_cons_of_ne_nil are.1
  have digit : isDigit d = true := are.2 d List.mem_cons_self
  constructor <;>
  · rintro more starts
    obtain ⟨rfl, -⟩ := List.cons.inj starts
    exact absurd digit (by decide)

theorem readExponent?_of_spells {exponent : Option (Bool × List Char)}
    (scaled : SpellsExponent exponent written) (delimited : Delimited rest) :
    readExponent? (written ++ rest) = some (exponent, rest) := by
  have stop : ∀ c ∈ rest.head?, isDigit c = false := fun c first => (delimited.ends c first).1
  cases scaled with
  | none =>
      cases rest with
      | nil => rfl
      | cons c rest =>
          obtain ⟨-, -, notSmall, notCapital⟩ := delimited.ends c rfl
          simp [readExponent?, notSmall, notCapital]
  | @given mark negative sign digits isMark signed are =>
      obtain ⟨taken, dropped⟩ := are.read stop
      have some : digits ≠ [] := are.1
      cases signed with
      | minus | plus => simp [readExponent?, isMark, taken, dropped, some]
      | none =>
          have noSign := are.head?_ne_sign rest
          simp [readExponent?, isMark, taken, dropped, some, noSign]

theorem readFraction?_of_spells {fraction : List Char} (fractional : SpellsFraction fraction written)
    (stop : ∀ c ∈ rest.head?, isDigit c = false ∧ c ≠ '.') :
    readFraction? (written ++ rest) = some (fraction, rest) := by
  cases fractional with
  | none =>
      cases rest with
      | nil => rfl
      | cons c rest =>
          obtain ⟨-, notPoint⟩ := stop c rfl
          simp [readFraction?, notPoint]
  | digits are =>
      obtain ⟨taken, dropped⟩ := are.read fun c first => (stop c first).1
      rw [List.cons_append, readFraction?, taken, dropped]
      simp [are.1]

/-- **A spelled number is read back.** -/
theorem readNumber?_of_spells {literal : NumberLiteral} (spells : SpellsNumber literal written)
    (delimited : Delimited rest) : readNumber? (written ++ rest) = some (literal, rest) := by
  obtain ⟨negative, whole, fraction, exponent⟩ := literal
  obtain @⟨sign, writtenFraction, writtenExponent, signed, ⟨are, alone⟩, fractional, scaled⟩ := spells
  have stopExponent : ∀ c ∈ (writtenExponent ++ rest).head?, isDigit c = false ∧ c ≠ '.' := by
    cases scaled with
    | none => exact fun c first => ⟨(delimited.ends c first).1, (delimited.ends c first).2.1⟩
    | given isMark =>
        rintro c first
        obtain rfl := Option.some.inj first
        rcases isMark with rfl | rfl <;> decide
  have stopFraction : ∀ c ∈ (writtenFraction ++ (writtenExponent ++ rest)).head?, isDigit c = false := by
    cases fractional with
    | none => exact fun c first => (stopExponent c first).1
    | digits =>
        rintro c first
        obtain rfl := Option.some.inj first
        decide
  obtain ⟨taken, dropped⟩ := are.read stopFraction
  have readsFraction := readFraction?_of_spells fractional stopExponent
  have readsExponent := readExponent?_of_spells scaled delimited
  have noZero : ∀ d more, whole ≠ '0' :: d :: more := by
    rintro d more rfl
    cases alone rfl
  have some : whole ≠ [] := are.1
  simp only [List.append_assoc]
  cases signed with
  | minus => simp [readNumber?, taken, dropped, readsFraction, readsExponent]
  | none =>
      have noSign := are.head?_ne_sign (writtenFraction ++ (writtenExponent ++ rest))
      simp [readNumber?, taken, dropped, readsFraction, readsExponent, noSign]

/-! ## Values -/

theorem skipBlanks_append (blank : TokenBlanks blanks) (stop : ∀ c ∈ rest.head?, isTokenBlank c = false) :
    skipBlanks (blanks ++ rest) = rest :=
  Text.dropWhile_append_of_stop blank stop

/-- The blanks before a mark are passed. -/
theorem skipBlanks_mark {mark : Char} (blank : TokenBlanks blanks) (isMark : isTokenBlank mark = false)
    (rest : List Char) : skipBlanks (blanks ++ mark :: rest) = mark :: rest := by
  refine skipBlanks_append blank fun c first => ?_
  obtain rfl := Option.some.inj first
  exact isMark

theorem delimited_mark {mark : Char} (blank : TokenBlanks blanks)
    (isMark : mark = ',' ∨ mark = ']' ∨ mark = '}') (rest : List Char) :
    Delimited (blanks ++ mark :: rest) := by
  intro c first
  cases blanks with
  | nil =>
      obtain rfl := Option.some.inj first
      exact .inr isMark
  | cons d blanks =>
      obtain rfl := Option.some.inj first
      exact .inl (blank d List.mem_cons_self)

theorem SpellsNumber.exists_cons {literal : NumberLiteral} (spells : SpellsNumber literal written) :
    ∃ c more, written = c :: more ∧ (c = '-' ∨ isDigit c = true) := by
  obtain ⟨negative, whole, fraction, exponent⟩ := literal
  obtain ⟨signed, ⟨⟨some, all⟩, -⟩, -, -⟩ := spells
  cases signed with
  | minus => exact ⟨_, _, rfl, .inl rfl⟩
  | none =>
      obtain ⟨d, digits, rfl⟩ := List.exists_cons_of_ne_nil some
      exact ⟨d, _, rfl, .inr (all d List.mem_cons_self)⟩

/-- A number starts with none of the marks that have no part in numbers. -/
theorem ne_of_number {c mark : Char} (starts : c = '-' ∨ isDigit c = true) (notMinus : mark ≠ '-')
    (noDigit : isDigit mark = false) : c ≠ mark := by
  rintro rfl
  rcases starts with minus | digit
  · exact notMinus minus
  · exact Bool.false_ne_true (noDigit.symm.trans digit)

/-- A spelled value starts with neither a blank nor a closing bracket. -/
theorem Spells.exists_cons {value : Json} (spells : Spells value written) :
    ∃ c more, written = c :: more ∧ isTokenBlank c = false ∧ c ≠ ']' := by
  cases spells with
  | number spells =>
      obtain ⟨c, more, rfl, starts⟩ := spells.exists_cons
      have other {mark : Char} (notMinus : mark ≠ '-') (noDigit : isDigit mark = false) : c ≠ mark :=
        ne_of_number starts notMinus noDigit
      refine ⟨c, more, rfl, ?_, other (by decide) (by decide)⟩
      simp only [isTokenBlank, Bool.or_eq_false_iff, decide_eq_false_iff_not]
      exact ⟨⟨⟨other (by decide) (by decide), other (by decide) (by decide)⟩, other (by decide) (by decide)⟩,
        other (by decide) (by decide)⟩
  | _ => exact ⟨_, _, rfl, by decide, by decide⟩

theorem SpellsMembers.exists_cons {members : List (JsonText × Json)}
    (spells : SpellsMembers members written) : ∃ more, written = '"' :: more := by
  cases spells with
  | last _ spells | cons _ _ spells _ =>
      cases spells
      exact ⟨_, rfl⟩

theorem SpellsItems.exists_cons {items : List Json} (spells : SpellsItems items written) :
    ∃ c more, written = c :: more ∧ isTokenBlank c = false ∧ c ≠ ']' := by
  cases spells with
  | last _ spells | cons _ _ spells _ =>
      obtain ⟨c, more, rfl, starts⟩ := spells.exists_cons
      exact ⟨c, _, rfl, starts⟩

theorem afterWord?_append (word : String) (rest : List Char) :
    afterWord? word (word.toList ++ rest) = some rest := by
  have starts : word.toList.isPrefixOf (word.toList ++ rest) = true :=
    List.isPrefixOf_iff_prefix.mpr (List.prefix_append _ _)
  rw [afterWord?, if_pos starts, ← String.length_toList, List.drop_left]

/-- With so many steps the reader reads every spelled value, all items up to the closing bracket and all
members up to the closing brace. -/
structure ReadsSpelled (steps : Nat) : Prop where
  value {value : Json} {written rest : List Char} (spells : Spells value written) (delimited : Delimited rest)
    (enough : 2 * written.length ≤ steps) : readValue? steps (written ++ rest) = some (value, rest)
  items {items : List Json} {written rest : List Char} (spells : SpellsItems items written)
    (enough : 2 * written.length ≤ steps) : readItems? steps (written ++ rest) = some (items, rest)
  members {members : List (JsonText × Json)} {written rest : List Char}
    (spells : SpellsMembers members written) (enough : 2 * written.length ≤ steps) :
    readMembers? steps (written ++ rest) = some (members, rest)

/-- What a reader makes of a member and of what comes after its value. -/
def membersFrom? (steps : Nat) (member : JsonText × Json) (rest : List Char) :
    Option (List (JsonText × Json) × List Char) :=
  match skipBlanks rest with
  | '}' :: after => some ([member], after)
  | ',' :: more => (readMembers? steps (skipBlanks more)).map fun (members, after) =>
      (member :: members, after)
  | _ => none

namespace ReadsSpelled

variable {steps : Nat}

/-- One more step takes the reader to what a value is made of. -/
theorem value_succ (reads : ReadsSpelled steps) {value : Json} (spells : Spells value written)
    (delimited : Delimited rest) (enough : 2 * written.length ≤ steps + 1) :
    readValue? (steps + 1) (written ++ rest) = some (value, rest) := by
  cases spells with
  | null => exact congrArg (Option.map _) (afterWord?_append "null" rest)
  | isTrue => exact congrArg (Option.map _) (afterWord?_append "true" rest)
  | isFalse => exact congrArg (Option.map _) (afterWord?_append "false" rest)
  | number spells =>
      have number := readNumber?_of_spells spells delimited
      obtain ⟨c, more, rfl, starts⟩ := spells.exists_cons
      have other {mark : Char} (notMinus : mark ≠ '-') (noDigit : isDigit mark = false) : c ≠ mark :=
        ne_of_number starts notMinus noDigit
      rw [List.cons_append] at number ⊢
      rw [readValue?, number]
      · rfl
      all_goals exact fun _ same => other (by decide) (by decide) (List.cons.inj same).1
  | @text content written spells => simp [readValue?, readText?_of_spells spells]
  | noItems blank => simp [readValue?, skipBlanks_mark blank (show isTokenBlank ']' = false from rfl)]
  | @list items blanks written blank spells =>
      rw [List.length_cons, List.length_append] at enough
      have further : readItems? steps (written ++ rest) = some (items, rest) := reads.items spells (by omega)
      obtain ⟨c, more, rfl, notBlank, notClosed⟩ := spells.exists_cons
      rw [List.cons_append, List.append_assoc, readValue?, List.cons_append, skipBlanks_mark blank notBlank]
      rw [List.cons_append] at further
      simp [further, notClosed]
  | noMembers blank => simp [readValue?, skipBlanks_mark blank (show isTokenBlank '}' = false from rfl)]
  | @object members blanks written blank spells =>
      rw [List.length_cons, List.length_append] at enough
      have further : readMembers? steps (written ++ rest) = some (members, rest) :=
        reads.members spells (by omega)
      obtain ⟨more, rfl⟩ := spells.exists_cons
      have quote : isTokenBlank '"' = false := rfl
      rw [List.cons_append, List.append_assoc, readValue?, List.cons_append, skipBlanks_mark blank quote]
      rw [List.cons_append] at further
      simp [further]

/-- After an item comes the closing bracket, or a comma and the other items. -/
theorem items_succ (reads : ReadsSpelled steps) {items : List Json} (spells : SpellsItems items written)
    (enough : 2 * written.length ≤ steps + 1) (rest : List Char) :
    readItems? (steps + 1) (written ++ rest) = some (items, rest) := by
  cases spells with
  | @last item written blanks blank spells =>
      rw [List.length_append, List.length_append, List.length_singleton] at enough
      have value : readValue? steps (written ++ (blanks ++ ']' :: rest)) =
          some (item, blanks ++ ']' :: rest) :=
        reads.value spells (delimited_mark blank (.inr (.inl rfl)) rest) (by omega)
      have closed := skipBlanks_mark blank (show isTokenBlank ']' = false from rfl) rest
      simp [readItems?, value, closed]
  | @cons item items written before after more blankBefore blankAfter spells further =>
      simp only [List.length_append, List.length_cons] at enough
      have value : readValue? steps (written ++ (before ++ ',' :: (after ++ (more ++ rest)))) =
          some (item, before ++ ',' :: (after ++ (more ++ rest))) :=
        reads.value spells (delimited_mark blankBefore (.inl rfl) _) (by omega)
      have comma := skipBlanks_mark blankBefore (show isTokenBlank ',' = false from rfl)
        (after ++ (more ++ rest))
      have later : readItems? steps (more ++ rest) = some (items, rest) := reads.items further (by omega)
      have next : skipBlanks (after ++ (more ++ rest)) = more ++ rest := by
        obtain ⟨c, more, rfl, notBlank, -⟩ := further.exists_cons
        exact skipBlanks_mark blankAfter notBlank _
      simp [readItems?, value, comma, next, later]

/-- A member is read up to what comes after its value. -/
theorem member (reads : ReadsSpelled steps) {member : JsonText × Json} (spells : SpellsMember member written)
    (enough : 2 * written.length ≤ steps) (delimited : Delimited rest) :
    readMembers? (steps + 1) (written ++ rest) = membersFrom? steps member rest := by
  obtain @⟨name, value, spelled, before, after, written, named, blankBefore, blankAfter, spells⟩ := spells
  simp only [List.length_append, List.length_cons] at enough
  have text := readText?_of_spells named (before ++ ':' :: (after ++ (written ++ rest)))
  have colon := skipBlanks_mark blankBefore (show isTokenBlank ':' = false from rfl)
    (after ++ (written ++ rest))
  have next : skipBlanks (after ++ (written ++ rest)) = written ++ rest := by
    obtain ⟨c, more, rfl, notBlank, -⟩ := spells.exists_cons
    exact skipBlanks_mark blankAfter notBlank _
  have value : readValue? steps (written ++ rest) = some (value, rest) :=
    reads.value spells delimited (by omega)
  simp only [readMembers?, List.cons_append, List.append_assoc, text, colon, next, value]
  rfl

theorem members_succ (reads : ReadsSpelled steps) {members : List (JsonText × Json)}
    (spells : SpellsMembers members written) (enough : 2 * written.length ≤ steps + 1) (rest : List Char) :
    readMembers? (steps + 1) (written ++ rest) = some (members, rest) := by
  cases spells with
  | @last member written blanks blank spells =>
      rw [List.length_append, List.length_append, List.length_singleton] at enough
      have closed := skipBlanks_mark blank (show isTokenBlank '}' = false from rfl) rest
      have first := reads.member spells (by omega) (delimited_mark blank (.inr (.inr rfl)) rest)
      simp [first, membersFrom?, closed]
  | @cons member members written before after more blankBefore blankAfter spells further =>
      simp only [List.length_append, List.length_cons] at enough
      have first := reads.member spells (by omega)
        (delimited_mark blankBefore (.inl rfl) (after ++ (more ++ rest)))
      have comma := skipBlanks_mark blankBefore (show isTokenBlank ',' = false from rfl)
        (after ++ (more ++ rest))
      have later : readMembers? steps (more ++ rest) = some (members, rest) :=
        reads.members further (by omega)
      have next : skipBlanks (after ++ (more ++ rest)) = more ++ rest := by
        obtain ⟨more, rfl⟩ := further.exists_cons
        exact skipBlanks_mark blankAfter rfl _
      simp [first, membersFrom?, comma, next, later]

end ReadsSpelled

theorem readsSpelled (steps : Nat) : ReadsSpelled steps := by
  induction steps with
  | zero =>
      -- Nothing is spelled without a character.
      refine ⟨fun spells _ enough => ?_, fun spells enough => ?_, fun spells enough => ?_⟩
      · obtain ⟨_, _, rfl, -⟩ := spells.exists_cons
        cases enough
      · obtain ⟨_, _, rfl, -⟩ := spells.exists_cons
        cases enough
      · obtain ⟨_, rfl⟩ := spells.exists_cons
        cases enough
  | succ steps ih =>
      exact ⟨ih.value_succ, fun spells enough => ih.items_succ spells enough _,
        fun spells enough => ih.members_succ spells enough _⟩

/-- A value with blanks around it. -/
def SpellsText (value : Json) (text : List Char) : Prop :=
  ∃ before written after, TokenBlanks before ∧ Spells value written ∧ TokenBlanks after ∧
    text = before ++ (written ++ after)

theorem noBlanks : TokenBlanks [] := nofun

theorem Spells.spellsText {value : Json} (spells : Spells value written) : SpellsText value written :=
  ⟨[], written, [], noBlanks, spells, noBlanks, by rw [List.append_nil, List.nil_append]⟩

/-- **The reader reads every spelling of a value.** -/
theorem ofChars?_of_spells {value : Json} {text : List Char} (spells : SpellsText value text) :
    ofChars? text = some value := by
  obtain ⟨before, written, after, blankBefore, spells, blankAfter, rfl⟩ := spells
  have starts : skipBlanks (before ++ (written ++ after)) = written ++ after := by
    obtain ⟨c, more, rfl, notBlank, -⟩ := spells.exists_cons
    exact skipBlanks_mark blankBefore notBlank _
  have delimited : Delimited after := fun c first => .inl (blankAfter c (List.mem_of_head? first))
  have ends : skipBlanks after = [] := by
    have skipped : skipBlanks (after ++ []) = [] := skipBlanks_append blankAfter nofun
    rwa [List.append_nil] at skipped
  have reads := (readsSpelled (2 * (before ++ (written ++ after)).length + 2)).value spells delimited
    (by simp only [List.length_append]; omega)
  rw [ofChars?, starts, reads]
  simp [ends]

end NoteDialogue.Json
