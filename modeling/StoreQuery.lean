import StoreQuery.Entry
import StoreQuery.Find.Collection
import StoreQuery.Proofs.Act
import StoreQuery.Proofs.Backend.Uses
import StoreQuery.Proofs.Backend.Walk
import StoreQuery.Proofs.Filter.Basic
import StoreQuery.Proofs.Filter.Canonical
import StoreQuery.Proofs.Filter.Shape
import StoreQuery.Proofs.Find.Arrangement
import StoreQuery.Proofs.Find.Document
import StoreQuery.Proofs.Find.Growth
import StoreQuery.Proofs.Find.Integers
import StoreQuery.Proofs.Find.Limit
import StoreQuery.Proofs.Find.Meaning
import StoreQuery.Proofs.Find.Offset
import StoreQuery.Proofs.Find.Order
import StoreQuery.Proofs.Find.Paging
import StoreQuery.Proofs.Find.Passes
import StoreQuery.Proofs.Find.Path
import StoreQuery.Proofs.Find.Resume
import StoreQuery.Proofs.Find.Reuse
import StoreQuery.Proofs.Json.Compact
import StoreQuery.Proofs.Json.Decoder
import StoreQuery.Proofs.Json.Nesting
import StoreQuery.Proofs.Json.Number
import StoreQuery.Proofs.Json.Quotation
import StoreQuery.Proofs.Json.Spelling
import StoreQuery.Proofs.Number.Rounding
import StoreQuery.Proofs.Query.Refusal
import StoreQuery.Proofs.Query.RoundTrip
import StoreQuery.Proofs.Sql.Continuation
import StoreQuery.Proofs.Sql.Grammar
import StoreQuery.Proofs.Sql.Keys
import StoreQuery.Proofs.Sql.ReadBack
import StoreQuery.Proofs.Sql.Rendering
import StoreQuery.Proofs.Sql.Reuse
import StoreQuery.Proofs.Sql.Values
import StoreQuery.Proofs.Store.Protocol
import StoreQuery.Proofs.Written
import StoreQuery.Sql.Container
import StoreQuery.Store.Compiled
import StoreQuery.Store.Pager
