import StoreQuery.Text.UnprintableTable

/-! # Characters — blank text, and text as it stands in messages

    Classes of characters are tables of closed ranges of code points.  A
    text is blank when it holds white space only.  A quoted text is wrapped
    in double quotes; quotes, backslashes and the common controls have
    two-character escapes, every other unprintable character is written by
    its code point, and the rest stands as it is. -/

namespace StoreQuery.Text

/-- Whether a character lies in one of the closed ranges of a table. -/
def inRanges (table : List (Nat × Nat)) (c : Char) : Bool :=
  table.any fun r => r.1 ≤ c.toNat && c.toNat ≤ r.2

/-! ## Blank text -/

/-- The white space characters of Unicode. -/
def whiteSpaceRanges : List (Nat × Nat) := [
  (0x9, 0xd), (0x20, 0x20), (0x85, 0x85), (0xa0, 0xa0), (0x1680, 0x1680), (0x2000, 0x200a),
  (0x2028, 0x2029), (0x202f, 0x202f), (0x205f, 0x205f), (0x3000, 0x3000)]

/-- Whether a character is white space. -/
def isWhiteSpace (c : Char) : Bool :=
  inRanges whiteSpaceRanges c

/-- Whether a text is empty or holds white space only. -/
def isBlank (s : String) : Bool :=
  s.toList.all isWhiteSpace

/-! ## Quoted text -/

/-- One character of a quoted text. -/
def quotedChar (c : Char) : List Char :=
  if c = '\x00' then ['\\', '0']
  else if c = '\t' then ['\\', 't']
  else if c = '\r' then ['\\', 'r']
  else if c = '\n' then ['\\', 'n']
  else if c = '"' then ['\\', '"']
  else if c = '\\' then ['\\', '\\']
  else if inRanges unprintableRanges c then
    '\\' :: 'u' :: '\x7b' :: (Nat.toDigits 16 c.toNat ++ ['\x7d'])
  else [c]

/-- A text in quotes, with escapes. -/
def quoted (s : String) : String :=
  String.ofList ('"' :: (s.toList.flatMap quotedChar ++ ['"']))

end StoreQuery.Text
