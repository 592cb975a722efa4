import BoundQuery.Builder.Call
import BoundQuery.Builder.Filter
import BoundQuery.Builder.Select
import BoundQuery.Builder.Write
import BoundQuery.Cache.Adapter
import BoundQuery.Cache.Index
import BoundQuery.Cache.Key
import BoundQuery.Cache.Memory
import BoundQuery.Cache.Options
import BoundQuery.Cache.Pattern
import BoundQuery.Cache.Result
import BoundQuery.Cache.Stats
import BoundQuery.Cache.Tables
import BoundQuery.Calendar.Date
import BoundQuery.Calendar.Reading
import BoundQuery.Decimal.Binary
import BoundQuery.Decimal.Format
import BoundQuery.Decimal.Reading
import BoundQuery.Decimal.Shortest
import BoundQuery.Dialect
import BoundQuery.Digest.Sha256
import BoundQuery.Engine.Basic
import BoundQuery.Engine.Decrypt
import BoundQuery.Engine.Executor
import BoundQuery.Engine.Paging
import BoundQuery.Engine.Read
import BoundQuery.Engine.Write
import BoundQuery.Error
import BoundQuery.Identifier
import BoundQuery.Json.Basic
import BoundQuery.Json.Reader
import BoundQuery.Json.Writer
import BoundQuery.Operator
import BoundQuery.Page
import BoundQuery.Rehearsal
import BoundQuery.Settings.Config
import BoundQuery.Settings.Environment
import BoundQuery.Settings.Logging
import BoundQuery.Statement.Clauses
import BoundQuery.Statement.Compile
import BoundQuery.Statement.Fragment
import BoundQuery.Statement.Placeholders
import BoundQuery.Text.Blank
import BoundQuery.Text.CaseTable
import BoundQuery.Text.Letters
import BoundQuery.Text.Quoted
import BoundQuery.Text.Search
import BoundQuery.Text.UnprintedTable
import BoundQuery.Value
import BoundQuery.Word
import BoundQuery.Proofs.Draft
import BoundQuery.Proofs.Spans
import BoundQuery.Proofs.Simulation
import BoundQuery.Proofs.Numbering
import BoundQuery.Proofs.Alignment
import BoundQuery.Proofs.Reading
import BoundQuery.Proofs.Storage
import BoundQuery.Proofs.Site
import BoundQuery.Proofs.Serving
import BoundQuery.Proofs.Provenance
import BoundQuery.Proofs.Transparency
import BoundQuery.Proofs.TableNames
import BoundQuery.Proofs.Headings
import BoundQuery.Proofs.NamedTables
import BoundQuery.Proofs.Freshness
import BoundQuery.Proofs.ConditionReader
import BoundQuery.Proofs.Phrases
import BoundQuery.Proofs.Outline
import BoundQuery.Proofs.Conditions
import BoundQuery.Proofs.Legibility
import BoundQuery.Proofs.CursorScope
import BoundQuery.Proofs.Redaction
import BoundQuery.Proofs.ValueBlindness
import BoundQuery.Proofs.CleanText
import BoundQuery.Proofs.TidyFrame
import BoundQuery.Proofs.SingleStatement
import BoundQuery.Proofs.Sending
import BoundQuery.Proofs.Chunks
import BoundQuery.Proofs.CursorWalk
import BoundQuery.Proofs.Nesting
import BoundQuery.Proofs.ScalarText
import BoundQuery.Proofs.KeyText
import BoundQuery.Proofs.Deposits
import BoundQuery.Proofs.Tagging
import BoundQuery.Proofs.WriteTarget
import BoundQuery.Proofs.ClauseOrder
import BoundQuery.Proofs.ReadThrough
import BoundQuery.Proofs.Outage
import BoundQuery.Proofs.DistinctKeys
import BoundQuery.Proofs.Eviction
import BoundQuery.Proofs.Capacity
import BoundQuery.Proofs.Chronicle
import BoundQuery.Proofs.Operations
import BoundQuery.Proofs.Lifetimes
import BoundQuery.Proofs.CachedWrites
import BoundQuery.Proofs.Correspondence
import BoundQuery.Proofs.PlaceholderCount
import BoundQuery.Proofs.SilentText
import BoundQuery.Proofs.PlaceholderBindings
import BoundQuery.Proofs.Portability
import BoundQuery.Proofs.Conjunction
import BoundQuery.Proofs.HavingScope
import BoundQuery.Proofs.IndexRelation
import BoundQuery.Proofs.BoundedMap
import BoundQuery.Proofs.OrderlySession
import BoundQuery.Proofs.Segments
import BoundQuery.Proofs.Invalidation
import BoundQuery.Proofs.Patterns
import BoundQuery.Proofs.Sweep
import BoundQuery.Proofs.FailedLookUp
import BoundQuery.Proofs.PageArithmetic
import BoundQuery.Proofs.NumberedPages
import BoundQuery.Proofs.RawPages
import BoundQuery.Proofs.PendingWrites
import BoundQuery.Proofs.InsertedRows
import BoundQuery.Proofs.Decryption
import BoundQuery.Proofs.Presence
import BoundQuery.Proofs.NamelessText
import BoundQuery.Proofs.NamelessPieces
import BoundQuery.Proofs.ExactTables
import BoundQuery.Proofs.NextCursor
import BoundQuery.Proofs.ResultNames
import BoundQuery.Proofs.PrefixedWrites
import BoundQuery.Proofs.Quoting
import BoundQuery.Proofs.LosslessCuts
import BoundQuery.Proofs.IndexHistory
import BoundQuery.Proofs.DayCount
import BoundQuery.Proofs.WrittenDates
import BoundQuery.Proofs.ColumnLists
