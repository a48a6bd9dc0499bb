import StoreQuery.Number.Double

/-! # Positions — the place in a text at the end of a reason

    A reason may end in a position, written ` at line L column C`.  The
    reason itself is what stands before it. -/

namespace StoreQuery.Text

/-- The text behind a word that stands at its front. -/
def behind? : List Char → List Char → Option (List Char)
  | [], cs => some cs
  | w :: ws, c :: cs => if w = c then behind? ws cs else none
  | _ :: _, [] => none

/-- The text behind a number that stands, last digit first, at its front; the number must fit a
    word. -/
def behindNumber? (cs : List Char) : Option (List Char) :=
  let ds := cs.takeWhile Char.isDigit
  if ds ≠ [] ∧ Nat.ofDigitChars 10 ds.reverse 0 < 2 ^ 64 then some (cs.dropWhile Char.isDigit)
  else none

/-- What stands before a position, given last character first. -/
def beforePosition? (cs : List Char) : Option (List Char) := do
  let rest ← behindNumber? cs
  let rest ← behind? " column ".toList.reverse rest
  let rest ← behindNumber? rest
  behind? " at line ".toList.reverse rest

/-- A reason without the position at its end. -/
def withoutPosition (s : String) : String :=
  match beforePosition? s.toList.reverse with
  | some cs => String.ofList cs.reverse
  | none => s

end StoreQuery.Text
