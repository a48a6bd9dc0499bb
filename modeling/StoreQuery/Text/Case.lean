import StoreQuery.Text.CaseTable
import StoreQuery.Text.CasedTable
import StoreQuery.Text.Characters

/-! # Letter case — full upper and lower case of a text

    The upper case of a character may be several characters, and so may the
    lower case of the dotted capital I.  The Greek capital sigma has two
    lower cases: the final one at the end of a word, that is after a letter
    with a case and not before one, passing over ignorable characters. -/

namespace StoreQuery.Text

/-- The image of a code point under a table of runs. -/
def mapRuns (table : List CaseRun) (n : Nat) : Nat :=
  match table.find? fun r => r.first ≤ n && n ≤ r.last && (n - r.first) % r.step == 0 with
  | some r => r.image + (n - r.first)
  | none => n

/-- The upper case of a character. -/
def upperChar (c : Char) : List Char :=
  match upperSpecial.lookup c.toNat with
  | some image => image.map Char.ofNat
  | none => [Char.ofNat (mapRuns upperRuns c.toNat)]

/-- The upper case of a text. -/
def toUpper (s : String) : String :=
  String.ofList (s.toList.flatMap upperChar)

/-- Whether the first character that is not passed over has a case. -/
def meetsCased (cs : List Char) : Bool :=
  match cs.dropWhile (inRanges caseIgnorableRanges) with
  | c :: _ => inRanges casedRanges c
  | [] => false

/-- The lower case of a character between the characters `before` (nearest first) and `after`. -/
def lowerChar (before : List Char) (c : Char) (after : List Char) : List Char :=
  if c = 'Σ' then
    if meetsCased before && !meetsCased after then ['ς'] else ['σ']
  else if c = 'İ' then ['i', '\u0307']
  else [Char.ofNat (mapRuns lowerRuns c.toNat)]

/-- The lower case of a list of characters that follows `before` (nearest first). -/
def lowerChars (before : List Char) : List Char → List Char
  | [] => []
  | c :: after => lowerChar before c after ++ lowerChars (c :: before) after

/-- The lower case of a text. -/
def toLower (s : String) : String :=
  String.ofList (lowerChars [] s.toList)

end StoreQuery.Text
