import StoreQuery.Sql.Statement
import StoreQuery.Store.Pager
import StoreQuery.Store.Settings

/-! # Containers — a SQL store behind a transport

    A container renders queries as statements and sends them over a
    transport.  The continuations of its answers are its tokens, handed
    back as they came. -/

namespace StoreQuery.Sql

/-- One page of an answer, and where to go on, if there is more. -/
structure Answer where
  records : List Json
  continuation : Option String

/-- How a container is reached, with a state of type `τ`. -/
structure Transport (τ : Type) where
  /-- Opens the connection. -/
  connect : Settings → Act StoreError τ Unit
  /-- Writes records. -/
  upsert : List Json → Act StoreError τ Unit
  /-- Asks for the page that the statement's options name. -/
  query : Statement → Act StoreError τ Answer
  /-- Closes the connection. -/
  close : Act StoreError τ Unit

/-- A named container and the state of its transport. -/
structure Container (τ : Type) where
  transport : τ
  collection : String
  dialect : Named

namespace Container

variable {τ α : Type}

/-- Runs an act of the transport. -/
def onTransport (act : Act StoreError τ α) : Act StoreError (Container τ) α :=
  act.focus transport fun t c => { c with transport := t }

/-- The container that settings name, over a transport that is already open. -/
def ofSettings (settings : Settings) (transport : τ) : Container τ :=
  ⟨transport, settings.collection, ⟨settings.qualifier⟩⟩

/-- Opens the transport and gives the container that the settings name. -/
def connect (t : Transport τ) (settings : Settings) : Act StoreError τ (Container τ) := do
  t.connect settings
  Act.emit .info ("Connected to SQL container " ++ settings.collection)
  let transport ← Act.get
  return ofSettings settings transport

/-- Renders a query. -/
def compile (q : Query) : Act StoreError (Container τ) Statement := do
  let c ← Act.get
  (Statement.compile c.dialect.dialect c.collection q).mapError .query

/-- Writes records. -/
def insert (t : Transport τ) (records : List Json) : Act StoreError (Container τ) Unit := do
  let c ← Act.get
  Act.emit .info ("Upserting " ++ toString records.length ++ " records into " ++ c.collection)
  onTransport (t.upsert records)

/-- A statement that goes on where a token says; the empty token leaves it as it is. -/
def resume (s : Statement) (token : String) : Statement :=
  if token = "" then s else { s with options := { s.options with continuation := some token } }

/-- Fetches one page. -/
def fetch (t : Transport τ) (s : Statement) (token : String) :
    Act StoreError (Container τ) Page := do
  Act.emit .info ("Executing query: " ++ s.text)
  let answer ← onTransport (t.query (resume s token))
  return ⟨answer.records, answer.continuation.getD ""⟩

/-- Closes the transport. -/
def disconnect (t : Transport τ) : Act StoreError (Container τ) Unit := do
  let c ← Act.get
  Act.emit .info ("Closing SQL container " ++ c.collection)
  onTransport t.close

/-- The operations of a container. -/
def client (t : Transport τ) : Client (Container τ) Statement where
  compile := compile
  insert := insert t
  fetch := fetch t
  disconnect := disconnect t

end Container

end StoreQuery.Sql
