import StoreQuery.Backend
import StoreQuery.Store.Error

/-! # Stores and pagers — reading a result page by page

    Every store is used through the same operations.  A pager hands each
    page's token back to the store for the next one, until a page is empty
    or has no token.  A fetch that fails leaves the pager as it was, so the
    next call asks for the same page again. -/

namespace StoreQuery

/-- The operations of a store whose state is a `σ` and whose own queries are `κ`s.  A store owns
    the form of its tokens; callers only hand them back. -/
structure Client (σ κ : Type) where
  /-- Renders a query for this store. -/
  compile : Query → Act StoreError σ κ
  /-- Takes records in. -/
  insert : List Json → Act StoreError σ Unit
  /-- Fetches one page; the empty token starts where the query says. -/
  fetch : κ → String → Act StoreError σ Page
  /-- Ends the use of the store. -/
  disconnect : Act StoreError σ Unit

/-- A result that is being read. -/
structure Pager (κ : Type) where
  query : κ
  /-- The token of the next fetch. -/
  token : String := ""
  /-- How many pages with records were read.  The count has no bound here; a counter of one word
      differs from it only behind `2^64` pages. -/
  pages : Nat := 0
  done : Bool := false

namespace Pager

variable {σ κ : Type}

/-- Runs an act of the store beside a pager. -/
def onStore {α : Type} (act : Act StoreError σ α) : Act StoreError (σ × Pager κ) α :=
  act.focus Prod.fst fun s t => (s, t.2)

/-- The pager behind a page. -/
def advance (p : Pager κ) (page : Page) : Pager κ :=
  { p with
    token := page.next
    pages := if page.records.isEmpty then p.pages else p.pages + 1
    done := page.isLast }

/-- The log line of a page. -/
def pageText (p : Pager κ) (page : Page) : String :=
  "Fetched page " ++ toString p.pages ++ " with " ++ toString page.records.length ++
    " records, next token " ++ Text.quoted p.token

/-- The records of the next page, `none` at the end. -/
def next (client : Client σ κ) : Act StoreError (σ × Pager κ) (Option (List Json)) := do
  let (_, p) ← Act.get
  if p.done then return none
  else
    let page ← onStore (client.fetch p.query p.token)
    let (s, _) ← Act.get
    let p := p.advance page
    Act.set (s, p)
    if page.records.isEmpty then return none
    else
      Act.emit .debug (p.pageText page)
      return some page.records

/-- The records of all pages that remain, read with at most `calls` calls of `next`; `none` if
    the end is not reached with them. -/
def collect (client : Client σ κ) :
    (calls : Nat) → Act StoreError (σ × Pager κ) (Option (List Json))
  | 0 => return none
  | calls + 1 => do
      match ← next client with
      | none => return some []
      | some records =>
          let rest ← collect client calls
          return rest.map (records ++ ·)

end Pager

end StoreQuery
