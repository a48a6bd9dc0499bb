import StoreQuery.Json.Reader

/-! # Skipping a value

    The value of a member that nobody asked for is passed over.  It must
    follow the grammar, but its numbers may be of any size, its surrogates
    may stand anywhere and its containers may nest as deep as the text
    allows. -/

namespace StoreQuery.Json

/-- How a skipped value begins. -/
inductive Opening where
  | scalar
  | sequence
  | map

/-- Skips a number literal. -/
def skipNumber (cs : List Char) : Except ReadError (List Char) :=
  match scanLiteral cs with
  | .error _ => .error .malformed
  | .ok (_, rest) => .ok rest

/-- Skips a scalar, or the opening bracket of a container. -/
def skipOpening : Reader Opening := fun cs =>
  match skipSpace cs with
  | [] => .error .endOfText
  | c :: rest =>
      if c = 'n' then do return (.scalar, ← expectWord ['u', 'l', 'l'] rest)
      else if c = 't' then do return (.scalar, ← expectWord ['r', 'u', 'e'] rest)
      else if c = 'f' then do return (.scalar, ← expectWord ['a', 'l', 's', 'e'] rest)
      else if c = '"' then do return (.scalar, ← skipQuotation rest)
      else if c = '-' ∨ c.isDigit then do return (.scalar, ← skipNumber (c :: rest))
      else if c = '[' then .ok (.sequence, rest)
      else if c = '\x7b' then .ok (.map, rest)
      else .error .malformed

/-- Skips a member from behind the opening quote of its key. -/
def skipMember (value : Reader Unit) : Reader Unit := fun cs => do
  let rest ← skipQuotation cs
  let rest ← readColon rest
  value rest

/-- Skips a value whose containers hold values that `nested` skips; without it, containers are
    refused. -/
def skipWith (nested : Option (Reader Unit)) : Reader Unit := fun cs => do
  let (opening, rest) ← skipOpening cs
  match opening, nested with
  | .scalar, _ => .ok ((), rest)
  | _, none => .error .malformed
  | .sequence, some value => do
      let (_, rest) ← readArray value rest
      .ok ((), rest)
  | .map, some value => readObject (fun _ => skipMember value) () rest

/-- Skips a value in which containers nest at most `depth` deep. -/
def skipNested : (depth : Nat) → Reader Unit
  | 0 => skipWith none
  | depth + 1 => skipWith (some (skipNested depth))

/-- Skips a value; a text has fewer brackets than characters, so its length bounds the depth. -/
def skipValue : Reader Unit := fun cs =>
  skipNested cs.length cs

end StoreQuery.Json
