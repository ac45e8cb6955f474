import NoteDialogue.Ambiguity
import NoteDialogue.Archive
import NoteDialogue.Config
import NoteDialogue.Console
import NoteDialogue.Console.Arguments
import NoteDialogue.Conversation
import NoteDialogue.Embedding.Client
import NoteDialogue.Embedding.InputStyle
import NoteDialogue.Encoding.Config
import NoteDialogue.Encoding.Failure
import NoteDialogue.Encoding.Message
import NoteDialogue.Encoding.Name
import NoteDialogue.Encoding.Note
import NoteDialogue.Encoding.Reference
import NoteDialogue.Encoding.Session
import NoteDialogue.Encoding.Style
import NoteDialogue.Encoding.Turn
import NoteDialogue.Failure
import NoteDialogue.Generation.Client
import NoteDialogue.Generation.Completion
import NoteDialogue.History
import NoteDialogue.Interaction
import NoteDialogue.Json
import NoteDialogue.Json.Member
import NoteDialogue.Json.Reader
import NoteDialogue.Json.Record
import NoteDialogue.Json.Shape
import NoteDialogue.Json.Writer
import NoteDialogue.Main
import NoteDialogue.Message
import NoteDialogue.Mode
import NoteDialogue.Mode.Directive
import NoteDialogue.ModelName
import NoteDialogue.Network.Exchange
import NoteDialogue.Network.Status
import NoteDialogue.Network.Wire
import NoteDialogue.Note
import NoteDialogue.Notes.Chunk
import NoteDialogue.Notes.Indexing
import NoteDialogue.Notes.QueryCache
import NoteDialogue.Notes.Record
import NoteDialogue.Notes.Similarity
import NoteDialogue.Notes.Store
import NoteDialogue.Numeral.Binary
import NoteDialogue.Numeral.Shortest
import NoteDialogue.Numeral.Written
import NoteDialogue.Plan
import NoteDialogue.Plan.Decoding
import NoteDialogue.Plan.Prompt
import NoteDialogue.Prompt
import NoteDialogue.Proofs.Ambiguity
import NoteDialogue.Proofs.Ambiguity.Overlap
import NoteDialogue.Proofs.Calls
import NoteDialogue.Proofs.Config
import NoteDialogue.Proofs.Conversation
import NoteDialogue.Proofs.Conversation.Answer
import NoteDialogue.Proofs.Conversation.Bypass
import NoteDialogue.Proofs.Conversation.Calls
import NoteDialogue.Proofs.Conversation.Containment
import NoteDialogue.Proofs.Conversation.Effects
import NoteDialogue.Proofs.Conversation.Independence
import NoteDialogue.Proofs.Conversation.Mode
import NoteDialogue.Proofs.Conversation.Ownership
import NoteDialogue.Proofs.Conversation.Reachable
import NoteDialogue.Proofs.Conversation.Reference
import NoteDialogue.Proofs.Conversation.Visit
import NoteDialogue.Proofs.Course
import NoteDialogue.Proofs.Embedding.Client
import NoteDialogue.Proofs.Embedding.Order
import NoteDialogue.Proofs.Embedding.Provider
import NoteDialogue.Proofs.Ending
import NoteDialogue.Proofs.Generation.Client
import NoteDialogue.Proofs.History
import NoteDialogue.Proofs.History.Window
import NoteDialogue.Proofs.Json.Natural
import NoteDialogue.Proofs.Json.Record
import NoteDialogue.Proofs.Json.Rendering
import NoteDialogue.Proofs.Json.Spelling
import NoteDialogue.Proofs.Keyed
import NoteDialogue.Proofs.Mode
import NoteDialogue.Proofs.Mode.Directive
import NoteDialogue.Proofs.Mode.Kept
import NoteDialogue.Proofs.Mode.Repetition
import NoteDialogue.Proofs.Network.Attempts
import NoteDialogue.Proofs.Notes.Chunk
import NoteDialogue.Proofs.Notes.Distinct
import NoteDialogue.Proofs.Notes.Indexing
import NoteDialogue.Proofs.Notes.Isolation
import NoteDialogue.Proofs.Notes.QueryCache
import NoteDialogue.Proofs.Notes.Remembered
import NoteDialogue.Proofs.Notes.Versions
import NoteDialogue.Proofs.Notes.Words
import NoteDialogue.Proofs.Notes.World
import NoteDialogue.Proofs.Numeral.Order
import NoteDialogue.Proofs.Numeral.Written
import NoteDialogue.Proofs.Plan
import NoteDialogue.Proofs.Plan.Decoding
import NoteDialogue.Proofs.Plan.Decoration
import NoteDialogue.Proofs.Prompt
import NoteDialogue.Proofs.Query
import NoteDialogue.Proofs.Recall
import NoteDialogue.Proofs.Recency
import NoteDialogue.Proofs.Reference.Conservation
import NoteDialogue.Proofs.Reference.Cut
import NoteDialogue.Proofs.Reference.Grammar
import NoteDialogue.Proofs.Reference.Layout
import NoteDialogue.Proofs.Reference.LeftOver
import NoteDialogue.Proofs.Reference.Recognisers
import NoteDialogue.Proofs.Reference.Resolution
import NoteDialogue.Proofs.Reference.Segments
import NoteDialogue.Proofs.Retrieval
import NoteDialogue.Proofs.Retrieval.Meaning
import NoteDialogue.Proofs.Retrieval.Ranking
import NoteDialogue.Proofs.Retrieval.Restricted
import NoteDialogue.Proofs.Retrieval.Series
import NoteDialogue.Proofs.Session
import NoteDialogue.Proofs.Session.Owner
import NoteDialogue.Proofs.Session.Rest
import NoteDialogue.Proofs.Session.Store
import NoteDialogue.Proofs.Session.Tasks
import NoteDialogue.Proofs.Style
import NoteDialogue.Proofs.Text.Collapse
import NoteDialogue.Proofs.Text.LetterCase
import NoteDialogue.Proofs.Text.LetterCase.Blank
import NoteDialogue.Proofs.Text.Passage
import NoteDialogue.Proofs.Text.Trim
import NoteDialogue.Proofs.Turn.Bypass
import NoteDialogue.Proofs.Turn.Calls
import NoteDialogue.Proofs.Turn.Containment
import NoteDialogue.Proofs.Turn.Course
import NoteDialogue.Proofs.Turn.Crash
import NoteDialogue.Proofs.Turn.Effects
import NoteDialogue.Proofs.Turn.Grounding
import NoteDialogue.Proofs.Turn.Mode
import NoteDialogue.Proofs.Turn.Recall
import NoteDialogue.Proofs.Turn.Reference
import NoteDialogue.Proofs.Turn.Refusal
import NoteDialogue.Proofs.Turn.Route
import NoteDialogue.Proofs.Turn.Search
import NoteDialogue.Providers
import NoteDialogue.Query
import NoteDialogue.Reference
import NoteDialogue.Reference.Mentions
import NoteDialogue.Reference.Resolution
import NoteDialogue.Rehearsal
import NoteDialogue.Rehearsal.Script
import NoteDialogue.Rehearsal.Service
import NoteDialogue.Retrieval
import NoteDialogue.Session
import NoteDialogue.Session.Store
import NoteDialogue.Style
import NoteDialogue.Text.Alphabetic
import NoteDialogue.Text.Blank
import NoteDialogue.Text.Grapheme
import NoteDialogue.Text.Grapheme.Table
import NoteDialogue.Text.LetterCase
import NoteDialogue.Text.LetterCase.Table
import NoteDialogue.Text.Passage
import NoteDialogue.Text.RangeTable
import NoteDialogue.Text.Sentence
import NoteDialogue.Text.Sentence.Table
import NoteDialogue.Time.Timestamp
import NoteDialogue.Turn
import NoteDialogue.Turn.Dialogue
import NoteDialogue.Turn.Planning
import NoteDialogue.Turn.Reply
import NoteDialogue.Turn.Request
import NoteDialogue.Turn.Selection
import NoteDialogue.UniqueId
