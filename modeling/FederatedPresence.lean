import FederatedPresence.Cache
import FederatedPresence.Cache.Run
import FederatedPresence.Failure
import FederatedPresence.Grid.Basic
import FederatedPresence.Grid.Change
import FederatedPresence.Grid.Lookup
import FederatedPresence.Grid.Refresh
import FederatedPresence.Grid.Router
import FederatedPresence.Grid.Run
import FederatedPresence.Http.Message
import FederatedPresence.Http.Status
import FederatedPresence.Keyed
import FederatedPresence.Metrics
import FederatedPresence.Names.Entity
import FederatedPresence.Names.Exchange
import FederatedPresence.Names.Markup
import FederatedPresence.Names.Reply
import FederatedPresence.Names.Request
import FederatedPresence.Names.Staleness
import FederatedPresence.Names.Table
import FederatedPresence.Number.Binary
import FederatedPresence.Number.Positional
import FederatedPresence.Number.Scientific
import FederatedPresence.Presence
import FederatedPresence.Presence.Selection
import FederatedPresence.Record
import FederatedPresence.Settings.Basic
import FederatedPresence.Settings.Load
import FederatedPresence.Settings.Path
import FederatedPresence.Settings.Value
import FederatedPresence.Store.Basic
import FederatedPresence.Store.Like
import FederatedPresence.Store.Link
import FederatedPresence.Store.Table
import FederatedPresence.Text.Blank
import FederatedPresence.Text.Composition
import FederatedPresence.Text.Decimal
import FederatedPresence.Text.Form
import FederatedPresence.Text.Hexadecimal
import FederatedPresence.Text.Json
import FederatedPresence.Text.Json.Failure
import FederatedPresence.Text.Json.Number
import FederatedPresence.Text.Json.Reader
import FederatedPresence.Text.Percent
import FederatedPresence.Text.Printable
import FederatedPresence.Text.RangeTable
import FederatedPresence.Text.Split
import FederatedPresence.Text.TextMap
import FederatedPresence.Text.Utf8
import FederatedPresence.Timestamp
import FederatedPresence.Toml.Document
import FederatedPresence.Toml.Moment
import FederatedPresence.Toml.Number
import FederatedPresence.Toml.Text
import FederatedPresence.Toml.Tree
import FederatedPresence.Url.Address
import FederatedPresence.Url.Basic
import FederatedPresence.Url.Domain
import FederatedPresence.Url.Domain.Mapping
import FederatedPresence.Url.Domain.Punycode
import FederatedPresence.Url.Domain.Script
import FederatedPresence.Url.Parser
import FederatedPresence.User.Authority
import FederatedPresence.User.Identifier
import FederatedPresence.User.Key
import FederatedPresence.Uuid
import FederatedPresence.Vector3
import FederatedPresence.Proofs.Number.Rank
import FederatedPresence.Proofs.Number.Text
import FederatedPresence.Proofs.Encoding
import FederatedPresence.Proofs.Rows
import FederatedPresence.Proofs.CacheEntries
import FederatedPresence.Proofs.GridSteps
import FederatedPresence.Proofs.GridViews
import FederatedPresence.Proofs.Coherence
import FederatedPresence.Proofs.HomeBatches
import FederatedPresence.Proofs.Refresh
import FederatedPresence.Proofs.Isolation
import FederatedPresence.Proofs.NameOrigin
import FederatedPresence.Proofs.Store.InMemory
import FederatedPresence.Proofs.RefreshedRows
import FederatedPresence.Proofs.RefreshedBatch
import FederatedPresence.Proofs.NewEntries
import FederatedPresence.Proofs.Runs
import FederatedPresence.Proofs.Remembered
import FederatedPresence.Proofs.Stored
import FederatedPresence.Proofs.FailedChange
import FederatedPresence.Proofs.Creation
import FederatedPresence.Proofs.ExpiringMap
import FederatedPresence.Proofs.Operation
import FederatedPresence.Proofs.Race
import FederatedPresence.Proofs.Text.Json
import FederatedPresence.Proofs.Store.Matching
import FederatedPresence.Proofs.Store.Pattern
import FederatedPresence.Proofs.Store.Agreement
import FederatedPresence.Proofs.Text.Ascii
import FederatedPresence.Proofs.Names.Request
import FederatedPresence.Proofs.Names.Markup
import FederatedPresence.Proofs.Names.Reply
import FederatedPresence.Proofs.NamesAcrossGrids
import FederatedPresence.Proofs.Room
import FederatedPresence.Proofs.Batching
import FederatedPresence.Proofs.OutsideChanges
import FederatedPresence.Proofs.Text.Extension
import FederatedPresence.Proofs.Names.Truncation
import FederatedPresence.Proofs.Names.Documents
import FederatedPresence.Proofs.Names.CutReplies
import FederatedPresence.Proofs.Url.Longer
import FederatedPresence.Proofs.Names.Endpoint
import FederatedPresence.Proofs.Shielding
import FederatedPresence.Proofs.Eviction
import FederatedPresence.Proofs.Pruning
import FederatedPresence.Proofs.Accounting
import FederatedPresence.Proofs.KeptChange
import FederatedPresence.Proofs.NormalForm
import FederatedPresence.Proofs.Names.Pairs
import FederatedPresence.Proofs.VisitorKey
import FederatedPresence.Proofs.Names.PairLoop
import FederatedPresence.Proofs.Staleness
import FederatedPresence.Proofs.Outcomes
