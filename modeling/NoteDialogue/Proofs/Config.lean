import NoteDialogue.Config
import NoteDialogue.Proofs.Numeral.Written

/-!
# Thresholds in force

A threshold is read twice from the same settings: once as it stands, for the configuration, and at every
search trimmed and checked, with the configured one to fall back to.  A number is never padded, so both
readings see the same number or the first sees none.  Hence a setting that is a number as it stands is the
threshold in force, sensible or not, since what the check rejects is what it then falls back to.  Every other
setting leads to a sensible threshold (`thresholds_usable_iff`).
-/

set_option autoImplicit false

namespace NoteDialogue

/-! ## A value that falls back to a configured one -/

section Fallback

variable {α : Type} {read? : String → Option α} {usable : α → Prop} [DecidablePred usable]

/-- The number of a trimmed text if it can be used, or else the configured number. -/
def liveOr (read? : String → Option α) (usable : α → Prop) [DecidablePred usable]
    (value : Option String) (configured : α) : α :=
  match (value.map Text.trim).bind read? with
  | some number => if usable number then number else configured
  | none => configured

/-- The number in force when one text is both the configuration and the live value. -/
def inForce (read? : String → Option α) (usable : α → Prop) [DecidablePred usable] (standard : α)
    (value : Option String) : α :=
  liveOr read? usable value ((value.bind read?).getD standard)

/-- **A number is in force as it stands**, whether it can be used or not. -/
theorem inForce_of_read
    (unpadded : ∀ text number, read? text = some number → Text.trim text = text)
    {standard number : α} {value : Option String} (reads : value.bind read? = some number) :
    inForce read? usable standard value = number := by
  obtain ⟨text, rfl, reads⟩ := Option.bind_eq_some_iff.mp reads
  simp only [inForce, liveOr, Option.map_some, unpadded _ _ reads, reads, Option.getD_some,
    ite_self]

/-- Without a number as it stands, the one in force can be used. -/
theorem usable_inForce_of_none {standard : α} (sensible : usable standard) {value : Option String}
    (none : value.bind read? = none) : usable (inForce read? usable standard value) := by
  unfold inForce liveOr
  rw [none]
  split
  · split
    case isTrue can => exact can
    case isFalse => exact sensible
  · exact sensible

theorem usable_inForce_iff
    (unpadded : ∀ text number, read? text = some number → Text.trim text = text)
    {standard : α} (sensible : usable standard) (value : Option String) :
    usable (inForce read? usable standard value) ↔
      ∀ number, value.bind read? = some number → usable number := by
  cases reads : value.bind read? with
  | none => exact ⟨fun _ _ same => (nomatch same), fun _ => usable_inForce_of_none sensible reads⟩
  | some number =>
      rw [inForce_of_read unpadded reads]
      exact ⟨fun can other same => Option.some.inj same ▸ can, fun all => all number rfl⟩

end Fallback

/-! ## The two thresholds -/

/-- A similarity that a threshold may be. -/
abbrev IsSimilarity (number : Float32) : Prop :=
  (0 ≤ number && number ≤ 1) = true

theorem similarityThresholdOf_eq (value : Option String) (configured : Float32) :
    similarityThresholdOf value configured = liveOr Numeral.single? IsSimilarity value configured := by
  unfold similarityThresholdOf liveOr
  cases (value.map Text.trim).bind Numeral.single? <;> rfl

theorem multiDocThresholdOf_eq (value : Option String) (configured : Nat) :
    multiDocThresholdOf value configured =
      liveOr (Numeral.natural? Numeral.maxWord) (2 ≤ ·) value configured := by
  unfold multiDocThresholdOf liveOr
  cases (value.map Text.trim).bind (Numeral.natural? Numeral.maxWord) <;> rfl

namespace Settings

/-- A whole number of sixty-four bits under a name. -/
def word? (settings : Settings) (name : String) : Option Nat :=
  (settings.get? name).bind (Numeral.natural? Numeral.maxWord)

/-- The threshold of similarity in force when the settings are configured and read live. -/
def similarityThreshold (settings : Settings) : Float32 :=
  liveSimilarityThreshold settings (Config.ofSettings settings).retrieval.similarityThreshold

/-- The threshold of ambiguous results in force when the settings are configured and read live. -/
def multiDocThreshold (settings : Settings) : Nat :=
  liveMultiDocThreshold settings (Config.ofSettings settings).retrieval.multiDocThreshold

theorem similarityThreshold_eq (settings : Settings) :
    settings.similarityThreshold =
      inForce Numeral.single? IsSimilarity 0.35 (settings.get? similarityThresholdName) :=
  similarityThresholdOf_eq _ _

theorem multiDocThreshold_eq (settings : Settings) :
    settings.multiDocThreshold =
      inForce (Numeral.natural? Numeral.maxWord) (2 ≤ ·) 3 (settings.get? multiDocThresholdName) :=
  multiDocThresholdOf_eq _ _

/-- **The thresholds in force can be used unless a setting is a number that cannot.**  The threshold of
similarity is from zero to one exactly if its setting is no number outside, and the threshold of ambiguous
results is two or more exactly if its setting is no smaller number.  A setting that is a number as it stands is
the threshold. -/
theorem thresholds_usable_iff (settings : Settings) :
    (0 ≤ settings.similarityThreshold ∧ settings.similarityThreshold ≤ 1 ↔
        ∀ number, settings.single? similarityThresholdName = some number → 0 ≤ number ∧ number ≤ 1) ∧
      (2 ≤ settings.multiDocThreshold ↔
        ∀ number, settings.word? multiDocThresholdName = some number → 2 ≤ number) ∧
      (∀ number, settings.single? similarityThresholdName = some number →
        settings.similarityThreshold = number) ∧
      (∀ number, settings.word? multiDocThresholdName = some number →
        settings.multiDocThreshold = number) := by
  have decimals : ∀ text number, Numeral.single? text = some number → Text.trim text = text :=
    fun _ _ reads => Numeral.trim_of_visible (Numeral.single?_visible reads)
  have naturals : ∀ text number, Numeral.natural? Numeral.maxWord text = some number →
      Text.trim text = text :=
    fun _ _ reads => Numeral.trim_of_visible (Numeral.natural?_visible reads)
  rw [similarityThreshold_eq, multiDocThreshold_eq, single?]
  refine ⟨?_, ?_, fun number reads => inForce_of_read decimals reads,
    fun number reads => inForce_of_read naturals reads⟩
  · have usable : IsSimilarity (inForce Numeral.single? IsSimilarity 0.35 _) ↔ _ :=
      usable_inForce_iff decimals (by decide) (settings.get? similarityThresholdName)
    simpa only [IsSimilarity, Bool.and_eq_true, decide_eq_true_eq] using usable
  · exact usable_inForce_iff naturals (by decide) (settings.get? multiDocThresholdName)

/-- A similarity above one is rejected and comes back as what was configured; with a blank before it, it was
not configured either. -/
example :
    ({ entries := [(similarityThresholdName, "1.7")] } : Settings).similarityThreshold = 1.7 ∧
      ({ entries := [(similarityThresholdName, " 1.7")] } : Settings).similarityThreshold = 0.35 := by
  decide +kernel

end Settings

end NoteDialogue
