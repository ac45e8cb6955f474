import NoteDialogue.Config
import NoteDialogue.Json.Member

/-!
# Configurations in JSON

A configuration is written part by part.  The parts about turns and retrieval can be read back from one
object that holds the values of both; a value that is left out keeps its default.
-/

set_option autoImplicit false

namespace NoteDialogue

/-- A single value; one that is not finite is written by its name. -/
def Json.singleOrName (value : Float32) : Json :=
  if Numeral.isFiniteSingle value then .single value else .str (Numeral.renderSingle value)

/-- The JSON form of how turns are run. -/
def TurnConfig.toJson (config : TurnConfig) : Json :=
  .ofMembers
    [("maxReferences", .nat config.maxReferences), ("historyTurns", .nat config.historyTurns),
      ("stickyModes", .list (config.stickyModes.map (fun mode => .str mode.name))),
      ("plannerTimeoutSecs", .nat config.plannerTimeout),
      ("generationTimeoutSecs", .nat config.generationTimeout)]

/-- How turns are run, from a JSON form; a name of no mode is passed over. -/
def TurnConfig.ofJson (json : Json) : TurnConfig :=
  let base : TurnConfig := {}
  { maxReferences := json.natAt "maxReferences" base.maxReferences
    historyTurns := json.natAt "historyTurns" base.historyTurns
    stickyModes := match json.given? "stickyModes" with
      | some modes => modes.items.filterMap (fun mode => (ChatMode.ofText mode.content).toOption)
      | none => base.stickyModes
    plannerTimeout := json.natAt "plannerTimeoutSecs" base.plannerTimeout
    generationTimeout := json.natAt "generationTimeoutSecs" base.generationTimeout }

/-- The JSON form of how notes are searched. -/
def RetrievalConfig.toJson (config : RetrievalConfig) : Json :=
  .ofMembers
    [("topK", .nat config.topK),
      ("similarityThreshold", .singleOrName config.similarityThreshold),
      ("multiDocThreshold", .nat config.multiDocThreshold), ("fanout", .nat config.fanout),
      ("embeddingTimeoutSecs", .nat config.embeddingTimeout),
      ("embeddingCacheSize", .nat config.embeddingCacheSize)]

/-- How notes are searched, from a JSON form. -/
def RetrievalConfig.ofJson (json : Json) : RetrievalConfig :=
  let base : RetrievalConfig := {}
  { topK := json.natAt "topK" base.topK
    similarityThreshold := (json.singleAt? "similarityThreshold").getD base.similarityThreshold
    multiDocThreshold := json.natAt "multiDocThreshold" base.multiDocThreshold
    fanout := json.natAt "fanout" base.fanout
    embeddingTimeout := json.natAt "embeddingTimeoutSecs" base.embeddingTimeout
    embeddingCacheSize := json.natAt "embeddingCacheSize" base.embeddingCacheSize }

/-- The JSON form of where embeddings come from. -/
def EmbeddingConfig.toJson (config : EmbeddingConfig) : Json :=
  .ofMembers
    [("model", .str config.model), ("apiKey", .optional .str config.apiKey),
      ("baseUrl", .optional .str config.baseUrl), ("dimensions", .nat config.dimensions),
      ("batchSize", .nat config.batchSize), ("timeoutSecs", .nat config.timeout),
      ("maxRetries", .nat config.maxRetries), ("inputStyle", .optional .str config.inputStyle),
      ("queryPrefix", .optional .str config.queryPrefix),
      ("documentPrefix", .optional .str config.documentPrefix)]

/-- The JSON form of where generated text comes from. -/
def GenerationConfig.toJson (config : GenerationConfig) : Json :=
  .ofMembers
    [("model", .str config.model), ("apiKey", .optional .str config.apiKey),
      ("baseUrl", .optional .str config.baseUrl), ("timeoutSecs", .nat config.timeout),
      ("maxRetries", .nat config.maxRetries),
      ("temperature", .optional .singleOrName config.temperature)]

namespace Config

/-- The JSON forms of the parts of a configuration, each under a name. -/
def partsJson (config : Config) : List (String × Json) :=
  [("chat", config.turn.toJson), ("retrieval", config.retrieval.toJson),
    ("embeddings", config.embedding.toJson),
    ("llm", .optional GenerationConfig.toJson config.generation)]

/-- A configuration from the values for turns and retrieval. -/
def ofJson (json : Json) : Config :=
  { turn := .ofJson json, retrieval := .ofJson json }

end Config

end NoteDialogue
