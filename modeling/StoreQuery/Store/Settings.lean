import StoreQuery.Act
import StoreQuery.Json.Record
import StoreQuery.Store.Error
import StoreQuery.Text.Case
import StoreQuery.Text.Position

/-! # Settings — which store, and how it is reached

    Settings are read from JSON, and refused if the collection is blank or
    an alias is given and blank. -/

namespace StoreQuery

/-- The kind of a store, which decides the backend. -/
inductive StoreKind where
  /-- A store that takes filter documents. -/
  | find
  /-- A store that takes SQL. -/
  | sql
deriving DecidableEq

namespace StoreKind

/-- The name of a kind. -/
def name : StoreKind → String
  | .find => "mongodb"
  | .sql => "cosmosdb"

/-- The kind that a text names, in letters of either case. -/
def ofText (s : String) : Except StoreError StoreKind :=
  let lower := Text.toLower s
  if lower ∈ ["mongo", "mongodb"] then .ok .find
  else if lower ∈ ["cosmos", "cosmosdb", "documentdb"] then .ok .sql
  else .error (.unsupportedStore lower)

/-- Decodes a kind from its name. -/
def decoder : Json.Decoder StoreKind :=
  .scalar fun
    | .str s =>
        match ofText s with
        | .ok kind => .ok kind
        | .error e => .error (.refused (Text.withoutPosition e.message))
    | found => .error (.wrongType found .text)

end StoreKind

/-- How a store is reached. -/
structure Settings where
  kind : StoreKind
  url : String := ""
  key : String := ""
  db : String := ""
  collection : String
  /-- The alias that qualifies fields in SQL. -/
  qualifier : Option String := none
deriving DecidableEq

namespace Settings

/-- The JSON form, with its members in this order. -/
def toJson (s : Settings) : Json :=
  .obj ([("type", .str s.kind.name), ("url", .str s.url), ("key", .str s.key),
      ("db", .str s.db), ("collection", .str s.collection)] ++
    match s.qualifier with
    | some name => [("alias", .str name)]
    | none => [])

/-- The fields; the type and the collection, also called container, are required. -/
def record : Json.Record Settings where
  name := "StoreConfig"
  blank := { kind := .find, collection := "" }
  fields := [
    { name := "type", required := true
      update := StoreKind.decoder.map fun kind s => { s with kind } },
    { name := "url", update := Json.Decoder.text.map fun url s => { s with url } },
    { name := "key", update := Json.Decoder.text.map fun key s => { s with key } },
    { name := "db", update := Json.Decoder.text.map fun db s => { s with db } },
    { name := "collection", aliases := ["container"], required := true
      update := Json.Decoder.text.map fun collection s => { s with collection } },
    { name := "alias"
      update := Json.Decoder.optionalText.map fun qualifier s => { s with qualifier } }]

/-- Decodes settings, without checking them. -/
def decoder : Json.Decoder Settings :=
  record.decoder

/-- Refuses a blank collection and a blank alias. -/
def check (s : Settings) : Except StoreError Settings :=
  if Text.isBlank s.collection then .error (.settings .blankCollection)
  else
    match s.qualifier with
    | some name => if Text.isBlank name then .error (.settings .blankAlias) else .ok s
    | none => .ok s

/-- Reads and checks settings. -/
def parse (text : String) : Except StoreError Settings :=
  match decoder.parse text with
  | .ok s => s.check
  | .error why => .error (.json why)

/-- Reads and checks the settings in a file of that path with the given contents, `none` if it
    has none that can be read. -/
def load {σ : Type} (path : String) (contents : Option ByteArray) : Act StoreError σ Settings := do
  Act.emit .debug ("Loading store config from " ++ path)
  match contents.bind String.fromUTF8? with
  | some text => Act.ofExcept (parse text)
  | none => Act.fail .unreadable

end Settings

end StoreQuery
