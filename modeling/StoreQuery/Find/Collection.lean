import StoreQuery.Find.Request
import StoreQuery.Store.Pager
import StoreQuery.Store.Settings

/-! # Collections — a store of documents in memory

    A collection holds documents in the order of their insertion.  Its
    tokens are offsets into the matching documents in the order that the
    request asks for. -/

namespace StoreQuery.Find

/-- Documents under a name. -/
structure Collection where
  name : String
  docs : List Json := []

namespace Collection

/-- Opens an empty collection. -/
def connect {σ : Type} (settings : Settings) : Act StoreError σ Collection := do
  Act.emit .info ("Opened in-memory collection " ++ settings.collection)
  return ⟨settings.collection, []⟩

/-- Takes records in, all or none: one that is not an object refuses them all. -/
def insert (records : List Json) : Act StoreError Collection Unit := do
  let c ← Act.get
  match records.find? fun r => !r.isObject with
  | some bad =>
      Act.emit .warn ("Rejected non-document record for " ++ c.name ++ ": " ++ bad.compact)
      Act.fail (.invalidRecord bad)
  | none =>
      Act.set { c with docs := c.docs ++ records }
      Act.emit .info ("Inserted " ++ toString records.length ++ " records into " ++ c.name)

/-- The documents that satisfy a request's filter, in its order. -/
def matching (docs : List Json) (r : Request) : List Json :=
  sortBy r.options.sort (docs.filter fun doc => satisfies doc r.filter)

/-- The offset behind `count` records from `skip` on, within the range of a word. -/
def nextOffset (skip : UInt64) (count : Nat) : UInt64 :=
  UInt64.ofNat (min (skip.toNat + count) (2 ^ 64 - 1))

/-- The page of a request that starts at an offset; without a limit there is no next page. -/
def page (docs : List Json) (r : Request) (skip : UInt64) : Page :=
  let remaining := (matching docs r).drop skip.toNat
  match r.options.limit with
  | some limit =>
      let records := remaining.take limit.toNat
      ⟨records, offsetToken (nextOffset skip records.length)⟩
  | none => ⟨remaining, ""⟩

/-- Where a fetch starts: at the offset of its token, or else where the request says. -/
def startOffset (r : Request) (token : String) : Except StoreError UInt64 :=
  match parseOffset token with
  | .ok (some n) => .ok n
  | .ok none => .ok (r.options.skip.getD 0)
  | .error e => .error (.query e)

/-- Fetches one page. -/
def fetch (r : Request) (token : String) : Act StoreError Collection Page := do
  let skip ← Act.ofExcept (startOffset r token)
  let c ← Act.get
  let result := page c.docs r skip
  Act.emit .debug
    ("Query on " ++ c.name ++ " returned " ++ toString result.records.length ++
      " records (skip " ++ toString skip.toNat ++ ", next token " ++ Text.quoted result.next ++ ")")
  return result

/-- Ends the use of the collection, which keeps its documents. -/
def disconnect : Act StoreError Collection Unit := do
  let c ← Act.get
  Act.emit .info ("Closed in-memory collection " ++ c.name)

/-- The operations of a collection. -/
def client : Client Collection Request where
  compile q := (Request.compile q).mapError .query
  insert := insert
  fetch := fetch
  disconnect := disconnect

end Collection

end StoreQuery.Find
