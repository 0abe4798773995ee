import GrammarSieve.Vine.Inquiry
import GrammarSieve.Session
import GrammarSieve.Manager.Crew
import GrammarSieve.Manager.Office
import GrammarSieve.Console
import GrammarSieve.Service
import GrammarSieve.Proofs.Json.Parts
import GrammarSieve.Proofs.Json.StoredText
import GrammarSieve.Proofs.Json.RoundTrip
import GrammarSieve.Proofs.Edge.Anchor
import GrammarSieve.Proofs.Edge.Grammar
import GrammarSieve.Proofs.Edge.RoundTrip
import GrammarSieve.Proofs.Edge.Endpoint
import GrammarSieve.Proofs.Vine.FlatStar
import GrammarSieve.Proofs.Token
import GrammarSieve.Proofs.Vine.Reading
import GrammarSieve.Proofs.Vine.Refusal
import GrammarSieve.Proofs.Vine.Log
import GrammarSieve.Proofs.Filter.Meaning
import GrammarSieve.Proofs.Filter.Definition
import GrammarSieve.Proofs.Filter.Section
import GrammarSieve.Proofs.Manager.Trial
import GrammarSieve.Proofs.Manager.Crew
import GrammarSieve.Proofs.Manager.Evaluation
import GrammarSieve.Proofs.Manager.Clearing
import GrammarSieve.Proofs.Manager.Office
import GrammarSieve.Proofs.Vine.Rereading
import GrammarSieve.Proofs.Dataset.RoundTrip
import GrammarSieve.Proofs.Filter.Monotone
import GrammarSieve.Proofs.Vine.Inquiry
import GrammarSieve.Proofs.Manager.Configuration
import GrammarSieve.Proofs.Manager.Registration
import GrammarSieve.Proofs.Manager.Removal
import GrammarSieve.Proofs.Manager.Failure
import GrammarSieve.Proofs.Edge.Flaw
import GrammarSieve.Proofs.Edge.Conversion
import GrammarSieve.Proofs.Dataset.Lines
import GrammarSieve.Proofs.Dataset.Reading
import GrammarSieve.Proofs.Manager.Succession
import GrammarSieve.Proofs.Json.Locality
import GrammarSieve.Proofs.Dataset.Agreement
import GrammarSieve.Proofs.Filter.Fault
import GrammarSieve.Proofs.Filter.Breadth
import GrammarSieve.Proofs.Vine.Resolution
import GrammarSieve.Proofs.Vine.Cycle
import GrammarSieve.Proofs.Text.Words
import GrammarSieve.Proofs.Text.Lowercase
import GrammarSieve.Proofs.Vine.Word
import GrammarSieve.Proofs.Vine.WrongField
import GrammarSieve.Proofs.Vine.TagEntries
import GrammarSieve.Manager.Saved
import GrammarSieve.Proofs.Manager.Substitute
import GrammarSieve.Proofs.Manager.Handover
import GrammarSieve.Proofs.Json.StrictText
import GrammarSieve.Proofs.Manager.WrittenForm
import GrammarSieve.Proofs.Edge.Governor
import GrammarSieve.Proofs.Edge.Dependent
import GrammarSieve.Proofs.Console
import GrammarSieve.Proofs.Service
