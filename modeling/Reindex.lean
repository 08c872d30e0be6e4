import Reindex.Main
import Reindex.Search.Engine
import Reindex.Search.Fault
import Reindex.Proofs.Batches
import Reindex.Proofs.Conversation.Load
import Reindex.Proofs.Engine.Load
import Reindex.Proofs.Keyed
import Reindex.Proofs.Trace.Ingest
import Reindex.Proofs.Trace.Load
import Reindex.Proofs.Trace.Order
import Reindex.Proofs.Trace.Readiness
import Reindex.Proofs.Trace.Reset
import Reindex.Proofs.Json.Spelling
import Reindex.Proofs.Json.Scalars
import Reindex.Proofs.Json.Values
import Reindex.Proofs.Json.Wire
import Reindex.Proofs.Search.Bulk
import Reindex.Proofs.Search.Confined
import Reindex.Proofs.Alike
import Reindex.Proofs.Engine.Independence
import Reindex.Proofs.Agreement
import Reindex.Proofs.Search.Reading
import Reindex.Proofs.Search.Replies
import Reindex.Proofs.Trace.Entries
import Reindex.Proofs.Engine.OverHttp
import Reindex.Proofs.Engine.History
import Reindex.Proofs.Failure.Fault
import Reindex.Proofs.Failure.Load
import Reindex.Proofs.Program.Exit
import Reindex.Proofs.Json.Respelling
import Reindex.Proofs.Dataset.Texts
import Reindex.Proofs.Forwarding
import Reindex.Proofs.Text.Decoding
import Reindex.Proofs.Json.ScalarTexts
import Reindex.Proofs.Json.ValueTexts
import Reindex.Proofs.Dataset.Grammar
import Reindex.Proofs.Dataset.Delivery
import Reindex.Proofs.Dataset.CutOff
import Reindex.Proofs.Dataset.Places
import Reindex.Proofs.Marks
import Reindex.Proofs.Trace.Course
import Reindex.Proofs.Trace.Series
import Reindex.Proofs.Search.Accounting
import Reindex.Proofs.Search.Consistency
import Reindex.Proofs.Journal.Batching
import Reindex.Proofs.Journal.Rejections
import Reindex.Proofs.Journal.Readiness
import Reindex.Proofs.Journal.Pauses
import Reindex.Proofs.Report
