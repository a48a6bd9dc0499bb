import StoreQuery.Json.Printer
import StoreQuery.Json.Record

/-! # Paging — what part of a result is asked for, and one part of it -/

namespace StoreQuery

/-- The page that is asked for: at most `limit` records (no bound if zero), from `token` on (the
    start if empty).  Only the store that made a token can read it. -/
structure Pagination where
  limit : UInt64 := 0
  token : String := ""
deriving DecidableEq

namespace Pagination

/-- The JSON form; an empty token is left out. -/
def toJson (p : Pagination) : Json :=
  .obj (("limit", .num (.int (.ofUInt64 p.limit))) ::
    if p.token = "" then [] else [("token", .str p.token)])

/-- The fields, both of which may be absent. -/
def record : Json.Record Pagination where
  name := "Pagination"
  blank := {}
  fields := [
    { name := "limit", update := Json.Decoder.unsigned.map fun limit p => { p with limit } },
    { name := "token", update := Json.Decoder.text.map fun token p => { p with token } }]

/-- Decodes a page request. -/
def decoder : Json.Decoder Pagination :=
  record.decoder

end Pagination

/-- One page of a result: its records, and the token of the next page, empty if there is none. -/
structure Page where
  records : List Json
  next : String

/-- Whether paging stops behind this page. -/
def Page.isLast (p : Page) : Bool :=
  p.records.isEmpty || p.next == ""

end StoreQuery
