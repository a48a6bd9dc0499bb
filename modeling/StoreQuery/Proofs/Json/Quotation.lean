import StoreQuery.Json.Quotation

/-! # Quotations read back

    A written quotation is scanned character by character: each one is
    written as one piece, and the pieces join to the text.  Only the
    controls without a short escape are written as units, and none of those
    is a surrogate. -/

namespace StoreQuery.Json

/-- The piece that a written character is scanned as. -/
def pieceOf (c : Char) : Piece :=
  if c < ' ' ∧ c ∉ ['\x08', '\x0c', '\n', '\r', '\t'] then .unit c.toNat else .char c

/-- The hexadecimal digits that are written are read as their values. -/
theorem hexDigit?_digitChar : ∀ n < 16, hexDigit? (Nat.digitChar n) = some n := by
  decide

/-- Controls are the first characters. -/
theorem toNat_lt_of_lt_space {c : Char} (h : c < ' ') : c.toNat < 32 :=
  UInt32.lt_iff_toNat_lt.mp h

/-- A written character is scanned as its piece. -/
theorem scanPieces_escapeChar (c : Char) (cs : List Char) :
    scanPieces (escapeChar c ++ cs) = (pieceOf c :: (scanPieces cs).1, (scanPieces cs).2) := by
  unfold escapeChar
  -- seven characters have a short escape of their own, and scanning that is a computation
  split
  · next h => subst h; rfl
  split
  · next h => subst h; rfl
  split
  · next h => subst h; rfl
  split
  · next h => subst h; rfl
  split
  · next h => subst h; rfl
  split
  · next h => subst h; rfl
  split
  · next h => subst h; rfl
  split
  · -- a control is written with four hexadecimal digits, of which the first two are zeros
    next hb hf hn hr ht hlt =>
    have h32 := toNat_lt_of_lt_space hlt
    have hunit : hexUnit? '0' '0' (Nat.digitChar (c.toNat / 16)) (Nat.digitChar (c.toNat % 16))
        = some c.toNat := by
      rw [hexUnit?, hexDigit?_digitChar _ (by omega), hexDigit?_digitChar _ (by omega)]
      show some (((0 * 16 + 0) * 16 + c.toNat / 16) * 16 + c.toNat % 16) = some c.toNat
      congr 1
      omega
    have hpiece : pieceOf c = .unit c.toNat := by
      unfold pieceOf
      rw [if_pos ⟨hlt, by simp [hb, hf, hn, hr, ht]⟩]
    rw [hpiece]
    show scanPieces ('\\' :: 'u' :: '0' :: '0' :: Nat.digitChar (c.toNat / 16)
      :: Nat.digitChar (c.toNat % 16) :: cs) = _
    rw [scanPieces]
    simp only [hunit]
    rfl
  · next hq hs _ _ _ _ _ hlt =>
    have hpiece : pieceOf c = .char c := by
      unfold pieceOf
      rw [if_neg fun h => hlt h.1]
    rw [hpiece, List.singleton_append, scanPieces]
    · rw [if_neg hlt]
    · exact hq
    · intro h _
      exact hs h
    · intro _ _ h _
      exact hs h

/-- The piece of a character joins as that character. -/
theorem joinPieces_pieceOf (c : Char) (ps : List Piece) :
    joinPieces (pieceOf c :: ps) = (c :: ·) <$> joinPieces ps := by
  unfold pieceOf
  split
  · next h =>
    have h32 := toNat_lt_of_lt_space h.1
    have htrail : isTrail c.toNat = false := by
      simp only [isTrail, Bool.and_eq_false_iff, decide_eq_false_iff_not]
      omega
    have hlead : isLead c.toNat = false := by
      simp only [isLead, Bool.and_eq_false_iff, decide_eq_false_iff_not]
      omega
    rw [joinPieces.eq_def]
    simp only [htrail, hlead, Bool.false_eq_true, if_false, Char.ofNat_toNat]
  · rfl

/-- An escaped text is scanned up to the closing quote, and its pieces join to the text. -/
theorem scanPieces_escaped (s rest : List Char) :
    scanPieces (s.flatMap escapeChar ++ '"' :: rest) = (s.map pieceOf, .ok rest)
      ∧ joinPieces (s.map pieceOf) = some s := by
  induction s with
  | nil => exact ⟨rfl, rfl⟩
  | cons c s ih =>
    obtain ⟨hscan, hjoin⟩ := ih
    constructor
    · rw [List.flatMap_cons, List.append_assoc, scanPieces_escapeChar, hscan, List.map_cons]
    · rw [List.map_cons, joinPieces_pieceOf, hjoin]
      rfl

/-- A written quotation is read back from behind its opening quote. -/
theorem readQuotation_escaped (s : String) (rest : List Char) :
    readQuotation (s.toList.flatMap escapeChar ++ '"' :: rest) = .ok (s, rest) := by
  obtain ⟨hscan, hjoin⟩ := scanPieces_escaped s.toList rest
  unfold readQuotation
  rw [hscan]
  simp only [hjoin, String.ofList_toList]

end StoreQuery.Json
