import StoreQuery.Json.Literal
import StoreQuery.Json.Quotation

/-! # Reading JSON text

    A reader takes something off the front of a text and leaves the rest.
    White space may stand before every token.  The loops over the items of
    an array and the members of an object carry a clock that starts at the
    length of the text they read: each turn takes at least one character,
    so it never runs out.

    `Json.parse` reads a whole text as one value.  Containers may nest
    `maxDepth` deep, and of several members with one key the last one
    counts. -/

namespace StoreQuery.Json

variable {α σ : Type}

/-- Takes something off the front of a text. -/
abbrev Reader (α : Type) := List Char → Except ReadError (α × List Char)

/-- Whether a character is white space between tokens. -/
def isSpace (c : Char) : Bool :=
  c = ' ' || c = '\t' || c = '\n' || c = '\r'

/-- The text behind leading white space. -/
def skipSpace (cs : List Char) : List Char :=
  cs.dropWhile isSpace

/-- The text behind a word that must stand at its front. -/
def expectWord : List Char → List Char → Except ReadError (List Char)
  | [], cs => .ok cs
  | _ :: _, [] => .error .endOfText
  | w :: ws, c :: cs => if w = c then expectWord ws cs else .error .malformed

/-- Reads a number literal. -/
def readNumber (cs : List Char) : Except ReadError (Number × List Char) :=
  match scanLiteral cs with
  | .error .cut => .error .endOfText
  | .error .bad => .error .malformed
  | .ok (literal, rest) =>
      match literal.toNumber? with
      | some n => .ok (n, rest)
      | none => .error .malformed

/-- Reads a scalar, or the opening bracket of a container. -/
def readFound : Reader Found := fun cs =>
  match skipSpace cs with
  | [] => .error .endOfText
  | c :: rest =>
      if c = 'n' then do return (.null, ← expectWord ['u', 'l', 'l'] rest)
      else if c = 't' then do return (.bool true, ← expectWord ['r', 'u', 'e'] rest)
      else if c = 'f' then do return (.bool false, ← expectWord ['a', 'l', 's', 'e'] rest)
      else if c = '"' then do
        let (s, rest) ← readQuotation rest
        return (.str s, rest)
      else if c = '-' ∨ c.isDigit then do
        let (n, rest) ← readNumber (c :: rest)
        return (.num n, rest)
      else if c = '[' then .ok (.sequence, rest)
      else if c = '\x7b' then .ok (.map, rest)
      else .error .malformed

/-- Reads the key of a member; only a quotation is one. -/
def readKey : Reader String := fun cs =>
  match skipSpace cs with
  | [] => .error .endOfText
  | c :: rest => if c = '"' then readQuotation rest else .error .malformed

/-- The text behind the colon of a member. -/
def readColon (cs : List Char) : Except ReadError (List Char) :=
  match skipSpace cs with
  | [] => .error .endOfText
  | c :: rest => if c = ':' then .ok rest else .error .malformed

/-! ## Containers -/

/-- The items of an array, from the first one to the closing bracket. -/
def readItems (item : Reader α) : Nat → Reader (List α)
  | 0, _ => .error .endOfText
  | clock + 1, cs => do
      let (x, rest) ← item cs
      match skipSpace rest with
      | [] => .error .endOfText
      | c :: rest =>
          if c = ']' then .ok ([x], rest)
          else if c = ',' then do
            let (xs, rest) ← readItems item clock rest
            .ok (x :: xs, rest)
          else .error .malformed

/-- An array whose opening bracket is already read. -/
def readArray (item : Reader α) : Reader (List α) := fun cs =>
  match skipSpace cs with
  | [] => .error .endOfText
  | c :: rest => if c = ']' then .ok ([], rest) else readItems item cs.length (c :: rest)

/-- The members of an object, from behind the opening quote of the first key to the closing
    bracket; `member` reads one from there and adds it to what is read so far. -/
def readMembers (member : σ → Reader σ) : Nat → σ → Reader σ
  | 0, _, _ => .error .endOfText
  | clock + 1, done, cs => do
      let (done, rest) ← member done cs
      match skipSpace rest with
      | [] => .error .endOfText
      | c :: rest =>
          if c = '\x7d' then .ok (done, rest)
          else if c = ',' then
            match skipSpace rest with
            | [] => .error .endOfText
            | q :: rest =>
                if q = '"' then readMembers member clock done rest else .error .malformed
          else .error .malformed

/-- An object whose opening bracket is already read. -/
def readObject (member : σ → Reader σ) (start : σ) : Reader σ := fun cs =>
  match skipSpace cs with
  | [] => .error .endOfText
  | c :: rest =>
      if c = '\x7d' then .ok (start, rest)
      else if c = '"' then readMembers member cs.length start rest
      else .error .malformed

/-! ## Values -/

/-- Reads a member, whose value `value` reads, into a sorted list of members. -/
def readMember (value : Reader Json) (members : List (String × Json)) :
    Reader (List (String × Json)) := fun cs => do
  let (key, rest) ← readQuotation cs
  let rest ← readColon rest
  let (v, rest) ← value rest
  .ok (insertMember key v members, rest)

/-- Reads a value whose containers hold values that `nested` reads; without it, containers are
    refused. -/
def readWith (nested : Option (Reader Json)) : Reader Json := fun cs => do
  let (found, rest) ← readFound cs
  match found with
  | .null => .ok (.null, rest)
  | .bool b => .ok (.bool b, rest)
  | .num n => .ok (.num n, rest)
  | .str s => .ok (.str s, rest)
  | .sequence =>
      match nested with
      | none => .error .malformed
      | some value => do
          let (items, rest) ← readArray value rest
          .ok (.arr items, rest)
  | .map =>
      match nested with
      | none => .error .malformed
      | some value => do
          let (members, rest) ← readObject (readMember value) [] rest
          .ok (.obj members, rest)

/-- Reads a value in which containers nest at most `depth` deep. -/
def readValue : (depth : Nat) → Reader Json
  | 0 => readWith none
  | depth + 1 => readWith (some (readValue depth))

/-- How deep containers may nest in a text. -/
def maxDepth : Nat := 127

/-- Reads a whole text, behind which only white space may stand. -/
def readWhole (reader : Reader α) (text : String) : Except ReadError α := do
  let (x, rest) ← reader text.toList
  match skipSpace rest with
  | [] => .ok x
  | _ => .error .malformed

/-- The value that a text holds. -/
def parse (text : String) : Except ReadError Json :=
  readWhole (readValue maxDepth) text

end StoreQuery.Json
