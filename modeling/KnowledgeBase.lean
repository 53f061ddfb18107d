import KnowledgeBase.Text.Blank
import KnowledgeBase.Text.Ascii
import KnowledgeBase.Text.Alphanumeric
import KnowledgeBase.Number.Shortest
import KnowledgeBase.Digest
import KnowledgeBase.Uuid
import KnowledgeBase.Timestamp
import KnowledgeBase.Json.Parser
import KnowledgeBase.Json.Printer
import KnowledgeBase.LabelPath
import KnowledgeBase.Search.Fusion
import KnowledgeBase.Graph.Edge
import KnowledgeBase.Memory.Episode
import KnowledgeBase.Catalog.Entry
import KnowledgeBase.Trace.Record
import KnowledgeBase.News.Item
import KnowledgeBase.Search.Request
import KnowledgeBase.Sql.Statement
import KnowledgeBase.Connection.Operation
import KnowledgeBase.Connection.Script
import KnowledgeBase.Schema.Upkeep
import KnowledgeBase.Graph.Store
import KnowledgeBase.Search.Hybrid
import KnowledgeBase.Memory.Store
import KnowledgeBase.Catalog.Store
import KnowledgeBase.Trace.Store
import KnowledgeBase.News.Store
import KnowledgeBase.Toml.Parser
import KnowledgeBase.Settings.Service
import KnowledgeBase.Url.Options
import KnowledgeBase.Call
import KnowledgeBase.Service.Basic
import KnowledgeBase.Proofs.Sql.Placeholder
import KnowledgeBase.Proofs.Connection.Traffic
import KnowledgeBase.Proofs.Graph.Validation
import KnowledgeBase.Proofs.Store.Inventory
import KnowledgeBase.Proofs.Store.TenantScope
import KnowledgeBase.Proofs.Connection.Transaction
import KnowledgeBase.Proofs.Connection.Lifetime
import KnowledgeBase.Proofs.Connection.Atomicity
import KnowledgeBase.Proofs.Store.Writes
import KnowledgeBase.Proofs.Text.ByteOrder
import KnowledgeBase.Proofs.Number.Bits
import KnowledgeBase.Proofs.Number.Sum
import KnowledgeBase.Proofs.Search.Ranking
import KnowledgeBase.Proofs.Search.Exactness
import KnowledgeBase.Proofs.Connection.Exchange
import KnowledgeBase.Proofs.Search.Pipeline
import KnowledgeBase.Proofs.Embedding.Transparency
import KnowledgeBase.Proofs.Embedding.Room
import KnowledgeBase.Proofs.Embedding.Freshness
import KnowledgeBase.Proofs.Connection.Attempts
import KnowledgeBase.Proofs.Schema.Plan
import KnowledgeBase.Proofs.Schema.Texts
import KnowledgeBase.Proofs.Schema.Resumption
import KnowledgeBase.Proofs.Connection.Overhead
import KnowledgeBase.Proofs.Connection.Stops
import KnowledgeBase.Proofs.Store.Categories
import KnowledgeBase.Proofs.Connection.Gate
import KnowledgeBase.Proofs.Store.Gates
import KnowledgeBase.Proofs.Connection.Control
import KnowledgeBase.Proofs.Store.Vocabulary
import KnowledgeBase.Proofs.Service.Vectors
import KnowledgeBase.Proofs.Connection.Served
import KnowledgeBase.Proofs.Sql.Written
import KnowledgeBase.Proofs.Connection.Accepted
import KnowledgeBase.Proofs.Store.Stored
import KnowledgeBase.Proofs.Store.ReadBack
import KnowledgeBase.Proofs.Number.Widening
import KnowledgeBase.Proofs.Text.Digits
import KnowledgeBase.Proofs.Timestamp.Calendar
import KnowledgeBase.Proofs.Timestamp.Reading
import KnowledgeBase.Proofs.Json.Lawful
import KnowledgeBase.Proofs.Json.DataModel
import KnowledgeBase.Proofs.Connection.Balance
import KnowledgeBase.Proofs.Connection.Unread
import KnowledgeBase.Proofs.Store.Isolation
import KnowledgeBase.Proofs.Connection.ContextLoss
import KnowledgeBase.Proofs.Store.ContextLoss
import KnowledgeBase.Proofs.Schema.Version
import KnowledgeBase.Proofs.Schema.Repair
import KnowledgeBase.Proofs.Graph.Aliases
import KnowledgeBase.Proofs.Search.Ordering
import KnowledgeBase.Proofs.Embedding.Batch
import KnowledgeBase.Proofs.Embedding.Eviction
import KnowledgeBase.Proofs.Service.Width
import KnowledgeBase.Proofs.Connection.Delivery
import KnowledgeBase.Proofs.Graph.Upsert
import KnowledgeBase.Proofs.Graph.Walks
import KnowledgeBase.Proofs.Connection.Beginnings
import KnowledgeBase.Proofs.Graph.Triples
import KnowledgeBase.Proofs.Search.Dominance
import KnowledgeBase.Proofs.Number.Quotient
import KnowledgeBase.Proofs.Search.Ranks
import KnowledgeBase.Proofs.Search.Filters
import KnowledgeBase.Proofs.Store.Placeholders
import KnowledgeBase.Proofs.Connection.Openings
import KnowledgeBase.Proofs.Settings.Overlay
import KnowledgeBase.Proofs.Text.LabelPath
import KnowledgeBase.Proofs.Store.Paths
import KnowledgeBase.Proofs.Schema.Pending
import KnowledgeBase.Proofs.Graph.Preview
