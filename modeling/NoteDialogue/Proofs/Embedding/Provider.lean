import NoteDialogue.Embedding.Client
import NoteDialogue.Proofs.Text.LetterCase
import NoteDialogue.Proofs.Text.Passage

/-!
# Providers of embeddings in any letter case

A provider stands before the first slash of the name of a model, in any letter case (`ofEmbedding_known`), and the
spelling does not count for where it is found (`defaultBaseUrl_known`).  It counts in one place: whether a key is
wanted is asked of the provider as it is spelled.  So another spelling leads to the same provider as the lower case,
except that it goes without a key where the lower case is turned down for want of one (`any_case_but_for_key`).
-/

set_option autoImplicit false

namespace NoteDialogue

open Text

variable {spelled : String}

/-! ## Names with a provider -/

namespace ModelName

theorem lowercase_of_mem {provider : String} (member : provider ∈ embeddingProviders) :
    lowercase provider = provider := by
  have all : ∀ provider ∈ embeddingProviders, lowercase provider = provider := by decide +kernel
  exact all provider member

theorem slash_notMem_of_mem {provider : String} (member : provider ∈ embeddingProviders) :
    '/' ∉ provider.toList := by
  have all : ∀ provider ∈ embeddingProviders, '/' ∉ provider.toList := by decide
  exact all provider member

/-- A spelling of a provider has no slash, as that would stay in lower case. -/
theorem slash_notMem_of_known (member : lowercase spelled ∈ embeddingProviders) : '/' ∉ spelled.toList := by
  intro inside
  refine slash_notMem_of_mem member ?_
  rw [lowercase, String.toList_ofList]
  exact mem_lowerFrom (by decide) (by decide) inside false

/-- **A name is cut after the provider, in any letter case**, which keeps its spelling. -/
theorem ofEmbedding_known (member : lowercase spelled ∈ embeddingProviders) (model : String) :
    ofEmbedding (spelled ++ "/" ++ model) = ⟨spelled, model⟩ := by
  have written : (spelled ++ "/" ++ model).toList = spelled.toList ++ '/' :: model.toList := by simp
  have isKnown : embeddingProviders.contains (lowercase spelled) = true := List.contains_iff_mem.mpr member
  rw [ofEmbedding, ofText, written, splitAtChar?_append (slash_notMem_of_known member)]
  simp only [String.ofList_toList, isKnown, if_true]

end ModelName

/-- A provider is found in the same place in any letter case. -/
theorem defaultBaseUrl_known (member : lowercase spelled ∈ ModelName.embeddingProviders) :
    defaultBaseUrl (lowercase spelled) = defaultBaseUrl spelled := by
  rw [defaultBaseUrl, defaultBaseUrl, ModelName.lowercase_of_mem member]

/-! ## Providers of a configuration -/

/-- The configuration for a model of a provider, as it is spelled. -/
def EmbeddingConfig.naming (config : EmbeddingConfig) (provider model : String) : EmbeddingConfig :=
  { config with model := provider ++ "/" ++ model }

namespace EmbeddingProvider

/-- The provider of a configuration for a model of some remote provider. -/
def remote (config : EmbeddingConfig) (provider model : String) : EmbeddingProvider where
  client :=
    { baseUrl := config.baseUrl.getD (defaultBaseUrl provider), apiKey := config.apiKey, model,
      maxRetries := config.maxRetries, inputStyle := InputStyle.ofConfig config model }
  dimensions := config.dimensions

variable (config : EmbeddingConfig) (model : String)

theorem ne_localProvider_of_known (member : lowercase spelled ∈ ModelName.generationProviders) :
    spelled ≠ ModelName.localProvider := by
  rintro rfl
  exact absurd member (by decide +kernel)

/-- **A remote provider is had in any letter case, unless a key is wanted for its spelling.** -/
theorem ofConfig_naming (member : lowercase spelled ∈ ModelName.generationProviders) :
    ofConfig (config.naming spelled model) =
      if config.apiKey.isNone && needsKey spelled then
        .error (.embedding ("EMBEDDING_API_KEY is required for provider " ++ spelled))
      else .ok (remote config (lowercase spelled) model) := by
  have isKnown : lowercase spelled ∈ ModelName.embeddingProviders := List.mem_append_left _ member
  rw [ofConfig, EmbeddingConfig.naming, ModelName.ofEmbedding_known isKnown model]
  simp only [if_neg (ne_localProvider_of_known member), remote, defaultBaseUrl_known isKnown]
  rfl

theorem ofConfig_naming_lowercase (member : lowercase spelled ∈ ModelName.generationProviders) :
    ofConfig (config.naming (lowercase spelled) model) =
      if config.apiKey.isNone && needsKey (lowercase spelled) then
        .error (.embedding ("EMBEDDING_API_KEY is required for provider " ++ lowercase spelled))
      else .ok (remote config (lowercase spelled) model) := by
  have same : lowercase (lowercase spelled) = lowercase spelled :=
    ModelName.lowercase_of_mem (List.mem_append_left _ member)
  rw [ofConfig_naming config model (by rwa [same]), same]

/-- The providers that want a key are told by their lower case only. -/
theorem lowercase_of_needsKey (wants : needsKey spelled = true) : lowercase spelled = spelled := by
  rw [needsKey, Bool.or_eq_true, beq_iff_eq, beq_iff_eq] at wants
  rcases wants with rfl | rfl
  · exact ModelName.lowercase_of_mem (by decide)
  · exact ModelName.lowercase_of_mem (by decide)

/-- **The letter case of a provider counts only where a key is missing.**  A provider that is had in lower case is had
in any other letter case, and is the same.  All spellings come to the same exactly if there is a key, or the provider
wants none, or it is spelled in lower case.  Where none of this holds, the lower case is turned down, and the other
spelling leads to the provider that the lower case leads to with a key, only without it. -/
theorem any_case_but_for_key (member : lowercase spelled ∈ ModelName.generationProviders) :
    (∀ provider, ofConfig (config.naming (lowercase spelled) model) = .ok provider →
      ofConfig (config.naming spelled model) = .ok provider) ∧
    (ofConfig (config.naming spelled model) = ofConfig (config.naming (lowercase spelled) model) ↔
      config.apiKey ≠ none ∨ needsKey (lowercase spelled) = false ∨ spelled = lowercase spelled) ∧
    (config.apiKey = none → needsKey (lowercase spelled) = true → spelled ≠ lowercase spelled →
      ofConfig (config.naming (lowercase spelled) model) =
          .error (.embedding ("EMBEDDING_API_KEY is required for provider " ++ lowercase spelled)) ∧
        ∃ provider, ofConfig (config.naming spelled model) = .ok provider ∧
          ∀ key, ofConfig (({ config with apiKey := some key } : EmbeddingConfig).naming (lowercase spelled) model) =
            .ok { provider with client := { provider.client with apiKey := some key } }) := by
  rw [ofConfig_naming config model member, ofConfig_naming_lowercase config model member]
  by_cases lower : spelled = lowercase spelled
  · rw [← lower]
    exact ⟨fun _ => id, iff_of_true rfl (.inr (.inr rfl)), fun _ _ differs => absurd rfl differs⟩
  · have keyless : needsKey spelled = false := by
      rw [Bool.eq_false_iff]
      intro wants
      exact lower (lowercase_of_needsKey wants).symm
    rw [keyless, Bool.and_false, if_neg Bool.false_ne_true]
    by_cases missing : (config.apiKey.isNone && needsKey (lowercase spelled)) = true
    · obtain ⟨none, wants⟩ := Bool.and_eq_true_iff.mp missing
      rw [if_pos missing]
      refine ⟨nofun, iff_of_false nofun ?_, fun _ _ _ => ⟨rfl, _, rfl, fun key => ?_⟩⟩
      · rintro (given | free | same)
        · exact given (Option.isNone_iff_eq_none.mp none)
        · exact absurd wants (Bool.eq_false_iff.mp free)
        · exact lower same
      · rw [ofConfig_naming_lowercase _ model member]
        rfl
    · rw [if_neg missing]
      refine ⟨fun _ => id, iff_of_true rfl ?_, fun none wants _ => absurd ?_ missing⟩
      · rw [Bool.not_eq_true, Bool.and_eq_false_iff] at missing
        rcases missing with given | free
        · exact .inl fun none => Bool.eq_false_iff.mp given (Option.isNone_iff_eq_none.mpr none)
        · exact .inr (.inl free)
      · rw [none, wants]
        rfl

/-- Without a key the provider is had in capitals, and turned down in lower case. -/
theorem any_case_but_for_key_of_capitals :
    lowercase "OpenAI" ∈ ModelName.generationProviders ∧
      ofConfig (({} : EmbeddingConfig).naming "openai" "m") =
        .error (.embedding "EMBEDDING_API_KEY is required for provider openai") ∧
      ∃ provider, ofConfig (({} : EmbeddingConfig).naming "OpenAI" "m") = .ok provider ∧
        ofConfig (({ apiKey := some "k" } : EmbeddingConfig).naming "openai" "m") =
          .ok { provider with client := { provider.client with apiKey := some "k" } } := by
  have lower : lowercase "OpenAI" = "openai" := by decide +kernel
  have member : lowercase "OpenAI" ∈ ModelName.generationProviders := by
    rw [lower]
    decide
  obtain ⟨-, -, without⟩ := any_case_but_for_key {} "m" member
  rw [lower] at without
  obtain ⟨refused, provider, had, withKey⟩ := without rfl rfl (by decide)
  exact ⟨member, refused, provider, had, withKey "k"⟩

end EmbeddingProvider

end NoteDialogue
