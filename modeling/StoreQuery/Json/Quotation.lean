import StoreQuery.Json.Fault

/-! # Quotations — strings in JSON text

    A quotation is scanned into pieces: characters, and the 16-bit units
    that its `\u` escapes name.  Pieces are joined into text by pairing
    surrogate units; a surrogate out of place makes the quotation
    malformed.  Where the scan itself fails, its fault counts unless the
    pieces before it could not have been mended by any continuation.

    Writing escapes the quote, the backslash and the controls, and nothing
    else. -/

namespace StoreQuery.Json

/-- A part of a quotation. -/
inductive Piece where
  | char (c : Char)
  | unit (n : Nat)

/-- The value of a hexadecimal digit. -/
def hexDigit? (c : Char) : Option Nat :=
  if '0' ≤ c ∧ c ≤ '9' then some (c.toNat - 48)
  else if 'a' ≤ c ∧ c ≤ 'f' then some (c.toNat - 87)
  else if 'A' ≤ c ∧ c ≤ 'F' then some (c.toNat - 55)
  else none

/-- The 16-bit unit that four hexadecimal digits name. -/
def hexUnit? (a b c d : Char) : Option Nat := do
  let a ← hexDigit? a
  let b ← hexDigit? b
  let c ← hexDigit? c
  let d ← hexDigit? d
  return ((a * 16 + b) * 16 + c) * 16 + d

/-- The character that a one-letter escape names. -/
def shortEscape? (c : Char) : Option Char :=
  if c = '"' then some '"'
  else if c = '\\' then some '\\'
  else if c = '/' then some '/'
  else if c = 'b' then some '\x08'
  else if c = 'f' then some '\x0c'
  else if c = 'n' then some '\n'
  else if c = 'r' then some '\r'
  else if c = 't' then some '\t'
  else none

/-- The fault of a `\u` escape without four digits: a text of fewer than four bytes ends too
    early, and a longer one is malformed. -/
def unitFault (rest : List Char) : ReadError :=
  if (String.ofList (rest.take 4)).utf8ByteSize < 4 then .endOfText else .malformed

/-- The pieces of a quotation up to its closing quote, and the text behind that quote or the
    fault that ends the scan. -/
def scanPieces : List Char → List Piece × Except ReadError (List Char)
  | [] => ([], .error .endOfText)
  | '"' :: rest => ([], .ok rest)
  | '\\' :: [] => ([], .error .endOfText)
  | '\\' :: e :: rest =>
      match shortEscape? e with
      | some c => let (ps, stop) := scanPieces rest; (.char c :: ps, stop)
      | none =>
          if e = 'u' then
            match rest with
            | a :: b :: c :: d :: rest' =>
                match hexUnit? a b c d with
                | some n => let (ps, stop) := scanPieces rest'; (.unit n :: ps, stop)
                | none => ([], .error (unitFault rest))
            | _ => ([], .error (unitFault rest))
          else ([], .error .malformed)
  | c :: rest =>
      if c < ' ' then ([], .error .malformed)
      else let (ps, stop) := scanPieces rest; (.char c :: ps, stop)

/-- Whether a unit is the first half of a surrogate pair. -/
def isLead (n : Nat) : Bool := 0xD800 ≤ n && n ≤ 0xDBFF

/-- Whether a unit is the second half of a surrogate pair. -/
def isTrail (n : Nat) : Bool := 0xDC00 ≤ n && n ≤ 0xDFFF

/-- The characters that pieces stand for; `none` if a surrogate is out of place. -/
def joinPieces : List Piece → Option (List Char)
  | [] => some []
  | .char c :: rest => (c :: ·) <$> joinPieces rest
  | .unit n :: rest =>
      if isTrail n then none
      else if isLead n then
        match rest with
        | .unit m :: rest' =>
            if isTrail m then
              (Char.ofNat (0x10000 + (n - 0xD800) * 0x400 + (m - 0xDC00)) :: ·) <$>
                joinPieces rest'
            else none
        | _ => none
      else (Char.ofNat n :: ·) <$> joinPieces rest

/-- Whether some continuation makes pieces join. -/
def mendable (ps : List Piece) : Bool :=
  (joinPieces ps).isSome || (joinPieces (ps ++ [.unit 0xDC00])).isSome

/-- Reads a quotation whose opening quote is already read. -/
def readQuotation (cs : List Char) : Except ReadError (String × List Char) :=
  match scanPieces cs with
  | (ps, .ok rest) =>
      match joinPieces ps with
      | some chars => .ok (String.ofList chars, rest)
      | none => .error .malformed
  | (ps, .error fault) => .error (if mendable ps then fault else .malformed)

/-- Skips a quotation whose opening quote is already read; surrogates may stand anywhere. -/
def skipQuotation (cs : List Char) : Except ReadError (List Char) :=
  (scanPieces cs).2

/-! ## Writing -/

/-- One character of a written quotation. -/
def escapeChar (c : Char) : List Char :=
  if c = '"' then ['\\', '"']
  else if c = '\\' then ['\\', '\\']
  else if c = '\x08' then ['\\', 'b']
  else if c = '\x0c' then ['\\', 'f']
  else if c = '\n' then ['\\', 'n']
  else if c = '\r' then ['\\', 'r']
  else if c = '\t' then ['\\', 't']
  else if c < ' ' then
    '\\' :: 'u' :: '0' :: '0' :: [Nat.digitChar (c.toNat / 16), Nat.digitChar (c.toNat % 16)]
  else [c]

/-- A string as JSON text. -/
def quotation (s : String) : List Char :=
  '"' :: (s.toList.flatMap escapeChar ++ ['"'])

end StoreQuery.Json
