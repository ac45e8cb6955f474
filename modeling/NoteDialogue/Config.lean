import NoteDialogue.Mode
import NoteDialogue.Numeral.Written

/-!
# Configuration

Settings are texts under names, as an environment holds them.  The configuration is read from them
once: a number that cannot be read, or does not fit, is replaced by its default.  Two thresholds are
also read live, at every search, so that an operator can change them while the program runs; a live
value that makes no sense falls back to the configured one.
-/

set_option autoImplicit false

namespace NoteDialogue

/-- Texts under names; a name occurs once. -/
structure Settings where
  entries : List (String × String) := []
  deriving Inhabited, Repr

namespace Settings

/-- The text under a name. -/
def get? (settings : Settings) (name : String) : Option String :=
  (settings.entries.find? (fun entry => entry.1 == name)).map (·.2)

/-- The settings without a name. -/
def remove (settings : Settings) (name : String) : Settings :=
  { entries := settings.entries.filter (fun entry => entry.1 != name) }

/-- The settings with a text under a name. -/
def set (settings : Settings) (name value : String) : Settings :=
  { entries := (name, value) :: (settings.remove name).entries }

/-- A whole number up to a limit, or the default. -/
def natural (settings : Settings) (limit : Nat) (name : String) (default : Nat) : Nat :=
  ((settings.get? name).bind (Numeral.natural? limit)).getD default

/-- A decimal number. -/
def single? (settings : Settings) (name : String) : Option Float32 :=
  (settings.get? name).bind Numeral.single?

end Settings

/-! ## The parts of the configuration -/

/-- How turns are run. -/
structure TurnConfig where
  /-- The references that one message may hold. -/
  maxReferences : Nat := 5
  /-- The earlier turns that a model is shown. -/
  historyTurns : Nat := 10
  /-- The modes that stay in force for the following turns. -/
  stickyModes : List ChatMode := [.bypass, .bypassStyle, .ragStyle]
  plannerTimeout : Nat := 15
  generationTimeout : Nat := 60
  deriving Repr, Inhabited

/-- How notes are searched. -/
structure RetrievalConfig where
  /-- The notes that a search returns. -/
  topK : Nat := 10
  similarityThreshold : Float32 := 0.35
  multiDocThreshold : Nat := 3
  /-- The notes that are looked up at the same time. -/
  fanout : Nat := 8
  embeddingTimeout : Nat := 15
  embeddingCacheSize : Nat := 256
  deriving Inhabited

/-- Where embeddings come from. -/
structure EmbeddingConfig where
  model : String := "BAAI/bge-small-en-v1.5"
  apiKey : Option String := none
  baseUrl : Option String := none
  dimensions : Nat := 384
  batchSize : Nat := 256
  timeout : Nat := 15
  maxRetries : Nat := 3
  inputStyle : Option String := none
  queryPrefix : Option String := none
  documentPrefix : Option String := none
  deriving Repr, Inhabited

/-- Where generated text comes from. -/
structure GenerationConfig where
  model : String
  apiKey : Option String := none
  baseUrl : Option String := none
  timeout : Nat := 30
  maxRetries : Nat := 3
  temperature : Option Float32 := none
  deriving Inhabited

/-- The whole configuration; without a model no text is generated. -/
structure Config where
  turn : TurnConfig := {}
  retrieval : RetrievalConfig := {}
  embedding : EmbeddingConfig := {}
  generation : Option GenerationConfig := none
  deriving Inhabited

namespace TurnConfig

/-- Whether a mode stays in force. -/
def isSticky (config : TurnConfig) (mode : ChatMode) : Bool :=
  config.stickyModes.contains mode

end TurnConfig

/-! ## Reading the configuration -/

/-- The name of the threshold of similarity. -/
def similarityThresholdName : String := "RAG_SIMILARITY_THRESHOLD"

/-- The name of the threshold of ambiguous results. -/
def multiDocThresholdName : String := "RAG_MULTI_DOC_THRESHOLD"

/-- The modes of a list with commas; a text that names no mode is passed over. -/
def modesOfList (written : String) : List ChatMode :=
  (Text.pieces (· = ',') written.toList).filterMap (fun piece =>
    (ChatMode.ofText (String.ofList piece)).toOption)

/-- The modes that stay in force; a blank setting counts as missing. -/
def stickyModesOf (settings : Settings) : List ChatMode :=
  match settings.get? "CHAT_STICKY_MODES" with
  | some written =>
      if Text.isBlankText written then ({} : TurnConfig).stickyModes else modesOfList written
  | none => ({} : TurnConfig).stickyModes

namespace Config

/-- The names of all settings. -/
def settingNames : List String :=
  ["CHAT_MAX_REFERENCES", "CHAT_HISTORY_TURNS", "CHAT_STICKY_MODES", "CHAT_PLANNER_TIMEOUT_SECS",
    "CHAT_GENERATION_TIMEOUT_SECS", "RETRIEVAL_TOP_K", similarityThresholdName,
    multiDocThresholdName, "RETRIEVAL_FANOUT", "RETRIEVAL_EMBEDDING_CACHE_SIZE", "EMBEDDING_MODEL",
    "EMBEDDING_API_KEY", "EMBEDDING_BASE_URL", "EMBEDDING_DIMENSIONS", "EMBEDDING_BATCH_SIZE",
    "EMBEDDING_TIMEOUT", "EMBEDDING_MAX_RETRIES", "EMBEDDING_INPUT_STYLE", "EMBEDDING_QUERY_PREFIX",
    "EMBEDDING_DOCUMENT_PREFIX", "LLM_MODEL", "LLM_API_KEY", "LLM_BASE_URL", "LLM_TIMEOUT",
    "LLM_MAX_RETRIES", "LLM_TEMPERATURE"]

/-- The configuration of generated text for a model. -/
def generationOf (settings : Settings) (model : String) : GenerationConfig :=
  { model
    apiKey := settings.get? "LLM_API_KEY"
    baseUrl := settings.get? "LLM_BASE_URL"
    timeout := settings.natural Numeral.maxWord "LLM_TIMEOUT" 30
    maxRetries := settings.natural Numeral.maxHalfWord "LLM_MAX_RETRIES" 3
    temperature := settings.single? "LLM_TEMPERATURE" }

/-- The configuration that settings give. -/
def ofSettings (settings : Settings) : Config :=
  let word (name : String) (default : Nat) : Nat := settings.natural Numeral.maxWord name default
  { turn :=
      { maxReferences := word "CHAT_MAX_REFERENCES" 5
        historyTurns := word "CHAT_HISTORY_TURNS" 10
        stickyModes := stickyModesOf settings
        plannerTimeout := word "CHAT_PLANNER_TIMEOUT_SECS" 15
        generationTimeout := word "CHAT_GENERATION_TIMEOUT_SECS" 60 }
    retrieval :=
      { topK := word "RETRIEVAL_TOP_K" 10
        similarityThreshold := (settings.single? similarityThresholdName).getD 0.35
        multiDocThreshold := word multiDocThresholdName 3
        fanout := word "RETRIEVAL_FANOUT" 8
        embeddingTimeout := word "EMBEDDING_TIMEOUT" 15
        embeddingCacheSize := word "RETRIEVAL_EMBEDDING_CACHE_SIZE" 256 }
    embedding :=
      { model := (settings.get? "EMBEDDING_MODEL").getD "BAAI/bge-small-en-v1.5"
        apiKey := settings.get? "EMBEDDING_API_KEY"
        baseUrl := settings.get? "EMBEDDING_BASE_URL"
        dimensions := word "EMBEDDING_DIMENSIONS" 384
        batchSize := word "EMBEDDING_BATCH_SIZE" 256
        timeout := word "EMBEDDING_TIMEOUT" 15
        maxRetries := settings.natural Numeral.maxHalfWord "EMBEDDING_MAX_RETRIES" 3
        inputStyle := settings.get? "EMBEDDING_INPUT_STYLE"
        queryPrefix := settings.get? "EMBEDDING_QUERY_PREFIX"
        documentPrefix := settings.get? "EMBEDDING_DOCUMENT_PREFIX" }
    generation := (settings.get? "LLM_MODEL").map (generationOf settings) }

end Config

/-! ## Live thresholds -/

/-- The threshold of similarity from a live value: a number from zero to one, or the default. -/
def similarityThresholdOf (value : Option String) (default : Float32) : Float32 :=
  match (value.map Text.trim).bind Numeral.single? with
  | some threshold => if 0 ≤ threshold && threshold ≤ 1 then threshold else default
  | none => default

/-- The threshold of ambiguous results from a live value: a whole number of two or more, or the
default. -/
def multiDocThresholdOf (value : Option String) (default : Nat) : Nat :=
  match (value.map Text.trim).bind (Numeral.natural? Numeral.maxWord) with
  | some threshold => if 2 ≤ threshold then threshold else default
  | none => default

/-- The live threshold of similarity. -/
def liveSimilarityThreshold (settings : Settings) (default : Float32) : Float32 :=
  similarityThresholdOf (settings.get? similarityThresholdName) default

/-- The live threshold of ambiguous results. -/
def liveMultiDocThreshold (settings : Settings) (default : Nat) : Nat :=
  multiDocThresholdOf (settings.get? multiDocThresholdName) default

end NoteDialogue
