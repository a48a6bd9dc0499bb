import StoreQuery.Json.Printer
import StoreQuery.Json.Record

/-! # Entries — the sample records of a store

    Empty texts and a zero code are left out of the written form and come
    back when it is read. -/

namespace StoreQuery

/-- A person. -/
structure Person where
  name : String := ""
  org : String := ""
  code : Int64 := 0
deriving DecidableEq

/-- A text member, left out when the text is empty. -/
def textMember (key : String) (s : String) : List (String × Json) :=
  if s = "" then [] else [(key, .str s)]

namespace Person

/-- The JSON form. -/
def toJson (p : Person) : Json :=
  .obj (textMember "name" p.name ++ textMember "org" p.org ++
    if p.code = 0 then [] else [("code", .num (.int (.ofInt64 p.code)))])

/-- The fields, all of which may be absent. -/
def record : Json.Record Person where
  name := "Person"
  blank := {}
  fields := [
    { name := "name", update := Json.Decoder.text.map fun name p => { p with name } },
    { name := "org", update := Json.Decoder.text.map fun org p => { p with org } },
    { name := "code", update := Json.Decoder.signed.map fun code p => { p with code } }]

/-- Decodes a person. -/
def decoder : Json.Decoder Person :=
  record.decoder

end Person

/-- A person at a place. -/
structure Entry where
  person : Person := {}
  city : String := ""
  state : String := ""
deriving DecidableEq

namespace Entry

/-- The JSON form. -/
def toJson (e : Entry) : Json :=
  .obj (("person", e.person.toJson) :: textMember "city" e.city ++ textMember "state" e.state)

/-- The fields, all of which may be absent. -/
def record : Json.Record Entry where
  name := "Entry"
  blank := {}
  fields := [
    { name := "person", update := Person.decoder.map fun person e => { e with person } },
    { name := "city", update := Json.Decoder.text.map fun city e => { e with city } },
    { name := "state", update := Json.Decoder.text.map fun state e => { e with state } }]

/-- Decodes an entry. -/
def decoder : Json.Decoder Entry :=
  record.decoder

end Entry

end StoreQuery
