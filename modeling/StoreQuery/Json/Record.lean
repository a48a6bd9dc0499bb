import StoreQuery.Json.Decoder
import StoreQuery.Json.Skip

/-! # Records — reading structures field by field

    A record is read from an object, in which members without a field are
    skipped, or from an array, whose elements are the fields by position.
    Each field gives an update of the record; a field that is not required
    keeps the value of the blank record when it is absent. -/

namespace StoreQuery.Json

variable {ρ : Type}

/-- A field of a record: what may name it, and how its value updates the record. -/
structure Field (ρ : Type) where
  name : String
  aliases : List String := []
  required : Bool := false
  update : Decoder (ρ → ρ)

/-- The fields of a record, in order, and the record that has none of them. -/
structure Record (ρ : Type) where
  name : String
  blank : ρ
  fields : List (Field ρ)

/-- A record that is being read, and the names of the fields it has so far. -/
structure Draft (ρ : Type) where
  record : ρ
  seen : List String

namespace Record

/-- The field that a key names. -/
def field? (r : Record ρ) (key : String) : Option (Field ρ) :=
  r.fields.find? fun f => f.name == key || f.aliases.contains key

/-- The draft without fields. -/
def start (r : Record ρ) : Draft ρ :=
  ⟨r.blank, []⟩

/-- The record of a draft that has every required field. -/
def finish (r : Record ρ) (draft : Draft ρ) : Except Mismatch ρ :=
  match r.fields.find? fun f => f.required && !draft.seen.contains f.name with
  | some f => .error (.missing f.name)
  | none => .ok draft.record

/-! ## From objects -/

/-- Reads a member from behind the opening quote of its key.  A field that is given twice is
    refused as soon as its key is read. -/
def readMember (r : Record ρ) (draft : Draft ρ) : Reader (Draft ρ) := fun cs => do
  let (key, rest) ← readQuotation cs
  match r.field? key with
  | some f =>
      if draft.seen.contains f.name then .error (.mismatch (.duplicate f.name))
      else do
        let rest ← readColon rest
        let (update, rest) ← f.update.read rest
        .ok (⟨update draft.record, f.name :: draft.seen⟩, rest)
  | none => do
      let rest ← readColon rest
      let ((), rest) ← skipValue rest
      .ok (draft, rest)

/-- Adds a member that is already read. -/
def takeMember (r : Record ρ) (draft : Draft ρ) (member : String × Json) :
    Except Mismatch (Draft ρ) :=
  match r.field? member.1 with
  | some f =>
      if draft.seen.contains f.name then .error (.duplicate f.name)
      else do
        let update ← f.update.ofJson member.2
        .ok ⟨update draft.record, f.name :: draft.seen⟩
  | none => .ok draft

/-! ## From arrays -/

/-- The record, when no element is left for the fields from position `index` on. -/
def absent (r : Record ρ) (record : ρ) (index : Nat) (fields : List (Field ρ)) :
    Except Mismatch ρ :=
  match fields.findIdx? (·.required) with
  | some i => .error (.tooFew (index + i) r.name r.fields.length)
  | none => .ok record

/-- Reads the elements for the fields from position `index` on, and the closing bracket. -/
def readElements (r : Record ρ) : (index : Nat) → List (Field ρ) → ρ → Reader ρ
  | _, [], record, cs =>
      match skipSpace cs with
      | [] => .error .endOfText
      | c :: rest => if c = ']' then .ok (record, rest) else .error .malformed
  | index, f :: fields, record, cs =>
      match skipSpace cs with
      | [] => .error .endOfText
      | c :: rest =>
          if c = ']' then
            match r.absent record index (f :: fields) with
            | .ok record => .ok (record, rest)
            | .error why => .error (.mismatch why)
          else if index ≠ 0 ∧ c ≠ ',' then .error .malformed
          else do
            let (update, rest) ← f.update.read (if index = 0 then c :: rest else rest)
            readElements r (index + 1) fields (update record) rest

/-- Takes elements that are already read, `count` in all, for the fields from `index` on. -/
def takeElements (r : Record ρ) (count : Nat) :
    (index : Nat) → List (Field ρ) → ρ → List Json → Except Mismatch ρ
  | index, fields, record, [] => r.absent record index fields
  | _, [], _, _ :: _ => .error (.tooMany count)
  | index, f :: fields, record, item :: items => do
      let update ← f.update.ofJson item
      takeElements r count (index + 1) fields (update record) items

/-! ## The decoder -/

/-- Decodes a record. -/
def decoder (r : Record ρ) : Decoder ρ where
  read cs := do
    let (found, rest) ← readFound cs
    match found with
    | .map => do
        let (draft, rest) ← readObject r.readMember r.start rest
        match r.finish draft with
        | .ok record => .ok (record, rest)
        | .error why => .error (.mismatch why)
    | .sequence => r.readElements 0 r.fields r.blank rest
    | found => .error (.mismatch (.wrongType found (.record r.name)))
  ofJson
    | .obj members => do
        let draft ← members.foldlM r.takeMember r.start
        r.finish draft
    | .arr items => r.takeElements items.length 0 r.fields r.blank items
    | j => .error (.wrongType (.ofJson j) (.record r.name))

end Record

end StoreQuery.Json
