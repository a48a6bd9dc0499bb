import StoreQuery.Error
import StoreQuery.Json.Printer

/-! # Store errors — why a store could not be set up or used -/

namespace StoreQuery

/-- Why the settings of a store are refused. -/
inductive SettingsFault where
  | blankCollection
  | blankAlias
deriving DecidableEq

/-- Why a store could not be set up or used. -/
inductive StoreError where
  /-- The query is at fault. -/
  | query (why : QueryError)
  /-- No store of that name, given in lower case, is known. -/
  | unsupportedStore (name : String)
  | settings (why : SettingsFault)
  /-- A file could not be read as text. -/
  | unreadable
  /-- A text could not be read as JSON of the expected form. -/
  | json (why : Json.ReadError)
  /-- A record is not an object. -/
  | invalidRecord (record : Json)
  /-- The transport of a store reports an error. -/
  | transport (reason : String)

/-- The wording of a settings fault. -/
def SettingsFault.message : SettingsFault → String
  | .blankCollection => "collection must not be empty"
  | .blankAlias => "alias must not be empty when set"

/-- The wording of a store error. -/
def StoreError.message : StoreError → String
  | .query why => why.message
  | .unsupportedStore name => "Unsupported store type: " ++ name
  | .settings why => "Invalid configuration: " ++ why.message
  | .unreadable => "I/O error"
  | .json (.mismatch why) => "JSON error: " ++ why.message
  | .json _ => "JSON error"
  | .invalidRecord record => "Invalid record: expected a JSON object, got " ++ record.compact
  | .transport reason => "Transport error: " ++ reason

end StoreQuery
