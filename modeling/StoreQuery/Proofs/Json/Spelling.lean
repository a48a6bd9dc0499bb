import Mathlib.Data.List.DropRight
import StoreQuery.Proofs.Json.Number
import StoreQuery.Proofs.Json.Quotation

/-! # Spellings — the texts of a value, and reading them

    A value can be spelled in several ways: white space may stand before a
    value, before a key, and before a closing bracket.  `Spells j cs` says
    that `cs` is such a text of `j`, with the members of objects in the
    order of their keys.

    The main statement, `readValue_spells`, is about all of them: reading
    gives the value back when its containers nest within the limit, leaves
    exactly the text behind it, and otherwise finds the text malformed. -/

namespace StoreQuery.Json

/-! ## Nesting -/

mutual

/-- How deep the containers of a value nest. -/
def depth : Json → Nat
  | .arr items => itemsDepth items + 1
  | .obj members => membersDepth members + 1
  | _ => 0

/-- The largest depth among items. -/
def itemsDepth : List Json → Nat
  | [] => 0
  | item :: rest => max (depth item) (itemsDepth rest)

/-- The largest depth among the values of members. -/
def membersDepth : List (String × Json) → Nat
  | [] => 0
  | (_, value) :: rest => max (depth value) (membersDepth rest)

end

/-! ## Spellings -/

/-- White space only. -/
def Blank (w : List Char) : Prop :=
  ∀ c ∈ w, isSpace c

instance (w : List Char) : Decidable (Blank w) :=
  List.decidableBAll _ w

/-- Texts with commas between them. -/
def separated : List (List Char) → List Char
  | [] => []
  | cs :: rest => cs ++ rest.flatMap (',' :: ·)

/-- A member of an object, and the text of its value. -/
structure Part where
  key : String
  value : Json
  text : List Char

namespace Part

/-- The member alone. -/
def member (p : Part) : String × Json :=
  (p.key, p.value)

/-- The text of a member from behind the opening quote of its key. -/
def tail (p : Part) : List Char :=
  p.key.toList.flatMap escapeChar ++ '"' :: ':' :: p.text

/-- The text of a member, behind white space. -/
def chars (u : List Char) (p : Part) : List Char :=
  u ++ '"' :: p.tail

end Part

/-- The texts of a value.  Keys stand in ascending order, so no key is given twice. -/
inductive Spells : Json → List Char → Prop where
  | null : Spells .null ['n', 'u', 'l', 'l']
  | bool (b : Bool) : Spells (.bool b) (chars (.bool b))
  | num (n : Number) : Spells (.num n) (numberChars n)
  | str (s : String) : Spells (.str s) (quotation s)
  | arr (parts : List (Json × List Char)) {w : List Char} :
      (∀ p ∈ parts, Spells p.1 p.2) → Blank w →
      Spells (.arr (parts.map Prod.fst)) ('[' :: (separated (parts.map Prod.snd) ++ (w ++ [']'])))
  | obj (parts : List Part) {u w : List Char} :
      parts.Pairwise (·.key < ·.key) → (∀ p ∈ parts, Spells p.value p.text) → Blank u → Blank w →
      Spells (.obj (parts.map Part.member))
        ('\x7b' :: (separated (parts.map (Part.chars u)) ++ (w ++ ['\x7d'])))
  | space {j : Json} {u cs : List Char} : Blank u → Spells j cs → Spells j (u ++ cs)

/-! ## White space -/

/-- White space in front is skipped. -/
theorem skipSpace_append {w : List Char} (h : Blank w) (cs : List Char) :
    skipSpace (w ++ cs) = skipSpace cs := by
  unfold skipSpace
  exact List.dropWhile_append_of_pos h

/-- A character that is not white space stays in front. -/
theorem skipSpace_cons {c : Char} (h : isSpace c = false) (cs : List Char) :
    skipSpace (c :: cs) = c :: cs := by
  unfold skipSpace
  rw [List.dropWhile_cons_of_neg (by rw [h]; exact Bool.false_ne_true)]

/-- White space does not continue a number. -/
theorem endsNumber_append {w rest : List Char} (hw : Blank w) (h : EndsNumber rest) :
    EndsNumber (w ++ rest) := by
  cases w with
  | nil => exact h
  | cons c w =>
    rintro c ⟨⟩
    have hc : isSpace c := hw c List.mem_cons_self
    simp only [isSpace, Bool.or_eq_true, decide_eq_true_eq] at hc
    rcases hc with ((rfl | rfl) | rfl) | rfl <;> decide

/-- A comma or a closing bracket does not continue a number. -/
theorem endsNumber_cons (c : Char) (rest : List Char) (h : c ∈ [',', ']', '\x7d']) :
    EndsNumber (c :: rest) := by
  rintro c ⟨⟩
  simp only [List.mem_cons, List.not_mem_nil, or_false] at h
  rcases h with rfl | rfl | rfl <;> decide

/-! ## The first token -/

/-- White space in front of a value changes nothing. -/
theorem readFound_append {u : List Char} (h : Blank u) (cs : List Char) :
    readFound (u ++ cs) = readFound cs := by
  unfold readFound
  rw [skipSpace_append h]

/-- The first character of a number is none that is neither a digit nor a minus sign. -/
theorem ne_of_numeric {c x : Char} (hc : c = '-' ∨ c.isDigit) (hx : x.isDigit = false)
    (hm : x ≠ '-') : c ≠ x := by
  rintro rfl
  rcases hc with rfl | hd
  · exact hm rfl
  · rw [hx] at hd
    exact Bool.noConfusion hd

/-- The first character of a number is not white space. -/
theorem isSpace_of_numeric {c : Char} (hc : c = '-' ∨ c.isDigit) : isSpace c = false := by
  simp [isSpace, ne_of_numeric hc (x := ' ') rfl (by decide),
    ne_of_numeric hc (x := '\t') rfl (by decide), ne_of_numeric hc (x := '\n') rfl (by decide),
    ne_of_numeric hc (x := '\r') rfl (by decide)]

/-- A number is found. -/
theorem readFound_num (n : Number) {rest : List Char} (h : EndsNumber rest) :
    readFound (numberChars n ++ rest) = .ok (.num n, rest) := by
  obtain ⟨c, cs, hcs, hc⟩ := exists_numberChars_cons n
  have hread := readNumber_numberChars n h
  rw [hcs, List.cons_append] at hread ⊢
  unfold readFound
  simp only [skipSpace_cons (isSpace_of_numeric hc),
    if_neg (ne_of_numeric hc (x := 'n') rfl (by decide)),
    if_neg (ne_of_numeric hc (x := 't') rfl (by decide)),
    if_neg (ne_of_numeric hc (x := 'f') rfl (by decide)),
    if_neg (ne_of_numeric hc (x := '"') rfl (by decide)), if_pos hc, hread]
  rfl

/-- A quotation is found. -/
theorem readFound_str (s : String) (rest : List Char) :
    readFound (quotation s ++ rest) = .ok (.str s, rest) := by
  have hread := readQuotation_escaped s rest
  rw [show quotation s ++ rest = '"' :: (s.toList.flatMap escapeChar ++ '"' :: rest) by
    simp [quotation]]
  unfold readFound
  rw [skipSpace_cons (by decide)]
  simp only [hread]
  rfl

/-- A truth value is found. -/
theorem readFound_bool (b : Bool) (rest : List Char) :
    readFound (chars (.bool b) ++ rest) = .ok (.bool b, rest) := by
  cases b with
  | true => rfl
  | false => rfl

/-! ## Values within containers -/

/-- A reader that gives each of the values back, as far as it nests at most `n` deep. -/
def Gives (value : Reader Json) (n : Nat) (j : Json) (cs : List Char) : Prop :=
  ∀ rest, EndsNumber rest →
    value (cs ++ rest) = if j.depth ≤ n then .ok (j, rest) else .error .malformed

/-- Several texts with commas between them, the first one apart. -/
theorem separated_cons_cons (a b : List Char) (rest : List (List Char)) :
    separated (a :: b :: rest) = a ++ ',' :: separated (b :: rest) := by
  simp [separated]

section Items

variable {value : Reader Json} {clock : Nat} {cs rest rest' : List Char} {item : Json}

/-- An array ends behind an item and a closing bracket. -/
theorem readItems_last (hitem : value cs = .ok (item, rest))
    (hskip : skipSpace rest = ']' :: rest') :
    readItems value (clock + 1) cs = .ok ([item], rest') := by
  simp only [readItems, hitem, bind, Except.bind, hskip, if_true]

/-- Behind an item and a comma stand the other items. -/
theorem readItems_next (hitem : value cs = .ok (item, rest))
    (hskip : skipSpace rest = ',' :: rest') :
    readItems value (clock + 1) cs =
      (readItems value clock rest').map fun others => (item :: others.1, others.2) := by
  simp only [readItems, hitem, bind, Except.bind, hskip, if_neg (show ',' ≠ ']' by decide), if_true]
  cases readItems value clock rest' <;> rfl

/-- An array ends at an item that is malformed. -/
theorem readItems_error {e : ReadError} (hitem : value cs = .error e) :
    readItems value (clock + 1) cs = .error e := by
  simp only [readItems, hitem, bind, Except.bind]

end Items

/-- The items of an array are read one after the other. -/
theorem readItems_separated {value : Reader Json} {n : Nat} {w : List Char} (hw : Blank w)
    (rest : List Char) :
    ∀ (ps : List (Json × List Char)) (p : Json × List Char) (clock : Nat),
      (∀ q ∈ p :: ps, Gives value n q.1 q.2) → ps.length < clock →
      readItems value clock (separated ((p :: ps).map Prod.snd) ++ (w ++ ']' :: rest))
        = if itemsDepth ((p :: ps).map Prod.fst) ≤ n then .ok ((p :: ps).map Prod.fst, rest)
          else .error .malformed := by
  -- the first item stays apart, because only those behind it stand behind commas
  intro ps
  induction ps with
  | nil =>
    intro p clock hgives hclock
    obtain ⟨clock, rfl⟩ : ∃ k, clock = k + 1 := ⟨clock - 1, by omega⟩
    have hp := hgives p List.mem_cons_self _
      (endsNumber_append hw (endsNumber_cons ']' rest (by decide)))
    have hskip : skipSpace (w ++ ']' :: rest) = ']' :: rest := by
      rw [skipSpace_append hw, skipSpace_cons (by decide)]
    simp only [List.map_cons, List.map_nil, separated, List.flatMap_nil, List.append_nil,
      itemsDepth, Nat.max_zero]
    by_cases hdepth : p.1.depth ≤ n
    · rw [if_pos hdepth] at hp ⊢
      exact readItems_last hp hskip
    · rw [if_neg hdepth] at hp ⊢
      exact readItems_error hp
  | cons q qs ih =>
    intro p clock hgives hclock
    rw [List.length_cons] at hclock
    obtain ⟨clock, rfl⟩ : ∃ k, clock = k + 1 := ⟨clock - 1, by omega⟩
    have htail := ih q clock (fun r hr => hgives r (List.mem_cons_of_mem p hr)) (by omega)
    have hp := hgives p List.mem_cons_self
      (',' :: (separated ((q :: qs).map Prod.snd) ++ (w ++ ']' :: rest)))
      (endsNumber_cons _ _ (by decide))
    have hsep : separated ((p :: q :: qs).map Prod.snd)
        = p.2 ++ ',' :: separated ((q :: qs).map Prod.snd) := separated_cons_cons _ _ _
    have hmax : itemsDepth ((p :: q :: qs).map Prod.fst)
        = max p.1.depth (itemsDepth ((q :: qs).map Prod.fst)) := by rw [List.map_cons, itemsDepth]
    rw [hsep, hmax, List.append_assoc, List.cons_append]
    by_cases hdepth : p.1.depth ≤ n
    · rw [if_pos hdepth] at hp
      rw [readItems_next hp (skipSpace_cons (by decide) _), htail]
      by_cases htails : itemsDepth ((q :: qs).map Prod.fst) ≤ n
      · rw [if_pos htails, if_pos (Nat.max_le.mpr ⟨hdepth, htails⟩)]
        rfl
      · rw [if_neg htails, if_neg fun h => htails (Nat.max_le.mp h).2]
        rfl
    · rw [if_neg hdepth] at hp
      rw [readItems_error hp, if_neg fun h => hdepth (Nat.max_le.mp h).1]

/-- A text has at least as many characters as items. -/
theorem length_le_separated (parts : List (List Char)) (rest : List Char) (c : Char) :
    parts.length ≤ (separated parts ++ c :: rest).length := by
  cases parts with
  | nil => exact Nat.zero_le _
  | cons p ps =>
    have hps : ps.length ≤ (ps.flatMap (',' :: ·)).length := by
      rw [List.length_flatMap]
      induction ps with
      | nil => exact Nat.le_refl _
      | cons q qs ih =>
        rw [List.map_cons, List.sum_cons, List.length_cons, List.length_cons]
        omega
    simp only [separated, List.length_append, List.length_cons]
    omega

/-- A text that begins, behind white space, with something other than a closing bracket. -/
def Begins (cs : List Char) : Prop :=
  ∃ u c t, cs = u ++ c :: t ∧ Blank u ∧ isSpace c = false ∧ c ≠ ']'

/-- The text of a value begins with the value. -/
theorem Spells.begins {j : Json} {cs : List Char} (h : Spells j cs) : Begins cs := by
  have hblank : Blank [] := fun _ hc => nomatch hc
  induction h with
  | null => exact ⟨[], 'n', _, rfl, hblank, by decide, by decide⟩
  | bool b =>
    cases b with
    | true => exact ⟨[], 't', _, rfl, hblank, by decide, by decide⟩
    | false => exact ⟨[], 'f', _, rfl, hblank, by decide, by decide⟩
  | num n =>
    obtain ⟨c, t, hcs, hc⟩ := exists_numberChars_cons n
    exact ⟨[], c, t, hcs, hblank, isSpace_of_numeric hc, ne_of_numeric hc rfl (by decide)⟩
  | str s => exact ⟨[], '"', _, rfl, hblank, by decide, by decide⟩
  | arr => exact ⟨[], '[', _, rfl, hblank, by decide, by decide⟩
  | obj => exact ⟨[], '\x7b', _, rfl, hblank, by decide, by decide⟩
  | space hu _ ih =>
    obtain ⟨u', c, t, rfl, hu', hc⟩ := ih
    refine ⟨_ ++ u', c, t, (List.append_assoc _ _ _).symm, ?_, hc⟩
    intro c' hc'
    exact (List.mem_append.mp hc').elim (hu c') (hu' c')

/-- Skipping white space twice is skipping it once. -/
theorem skipSpace_skipSpace (cs : List Char) : skipSpace (skipSpace cs) = skipSpace cs :=
  List.dropWhile_idempotent _ _

/-- An array is read item by item up to its closing bracket. -/
theorem readArray_separated {value : Reader Json} {n : Nat} {w : List Char} (hw : Blank w)
    {parts : List (Json × List Char)} (hgives : ∀ p ∈ parts, Gives value n p.1 p.2)
    (hbegins : ∀ p ∈ parts, Begins p.2) (hskip : ∀ cs, value (skipSpace cs) = value cs)
    (rest : List Char) :
    readArray value (separated (parts.map Prod.snd) ++ (w ++ ']' :: rest))
      = if itemsDepth (parts.map Prod.fst) ≤ n then .ok (parts.map Prod.fst, rest)
        else .error .malformed := by
  cases parts with
  | nil =>
    simp only [List.map_nil, separated, List.nil_append, itemsDepth, Nat.zero_le, if_true,
      readArray, skipSpace_append hw, skipSpace_cons (show isSpace ']' = false by decide)]
  | cons p ps =>
    have hitems := readItems_separated hw rest ps p
      (separated ((p :: ps).map Prod.snd) ++ (w ++ ']' :: rest)).length hgives (by
        have := length_le_separated ((p :: ps).map Prod.snd) rest ']'
        simp only [List.length_append, List.length_cons, List.length_map] at this ⊢
        omega)
    obtain ⟨u, c, t, hp, hu, hc, hne⟩ := hbegins p List.mem_cons_self
    generalize htext : separated ((p :: ps).map Prod.snd) ++ (w ++ ']' :: rest) = text at hitems ⊢
    obtain ⟨t', ht'⟩ : ∃ t', skipSpace text = c :: t' := by
      refine ⟨t ++ (ps.map Prod.snd).flatMap (',' :: ·) ++ (w ++ ']' :: rest), ?_⟩
      rw [← htext, List.map_cons, separated, hp, List.append_assoc, List.append_assoc,
        skipSpace_append hu, List.cons_append, skipSpace_cons hc, List.append_assoc]
    -- looking for the closing bracket has skipped white space, which the first item does not miss
    have hfirst : readItems value text.length (skipSpace text)
        = readItems value text.length text := by
      cases text.length with
      | zero => rfl
      | succ clock => rw [readItems, readItems, hskip]
    unfold readArray
    rw [ht'] at hfirst ⊢
    simp only [if_neg hne]
    rw [hfirst, hitems]

/-! ## Members -/

/-- A key beyond all others is put behind them. -/
theorem insertMember_of_lt {key : String} {value : Json} {members : List (String × Json)}
    (h : ∀ m ∈ members, m.1 < key) :
    insertMember key value members = members ++ [(key, value)] := by
  induction members with
  | nil => rfl
  | cons m rest ih =>
    obtain ⟨k, v⟩ := m
    obtain ⟨hk, hrest⟩ := List.forall_mem_cons.mp h
    have hgt : compare key k = .gt := by
      show compareOfLessAndEq key k = .gt
      have hne : key ≠ k := fun h => String.lt_irrefl k (h ▸ hk)
      rw [compareOfLessAndEq, if_neg (String.lt_asymm hk), if_neg hne]
    rw [insertMember, hgt]
    show (k, v) :: insertMember key value rest = _
    rw [ih hrest, List.cons_append]

/-- A member is read and put behind the others when its key is beyond theirs. -/
theorem readMember_tail {value : Reader Json} {n : Nat} {p : Part}
    (hgives : Gives value n p.value p.text) {done : List (String × Json)}
    (hdone : ∀ m ∈ done, m.1 < p.key) {rest : List Char} (hrest : EndsNumber rest) :
    readMember value done (p.tail ++ rest)
      = if p.value.depth ≤ n then .ok (done ++ [p.member], rest) else .error .malformed := by
  have hquote := readQuotation_escaped p.key (':' :: (p.text ++ rest))
  rw [show p.tail ++ rest
    = p.key.toList.flatMap escapeChar ++ '"' :: ':' :: (p.text ++ rest) by simp [Part.tail]]
  have hcolon : readColon (':' :: (p.text ++ rest)) = .ok (p.text ++ rest) := by
    rw [readColon, skipSpace_cons (by decide)]
    rfl
  simp only [readMember, hquote, hcolon, hgives rest hrest, bind, Except.bind]
  rw [Part.member, ← insertMember_of_lt hdone]
  by_cases hdepth : p.value.depth ≤ n
  · rw [if_pos hdepth, if_pos hdepth]
  · rw [if_neg hdepth, if_neg hdepth]

section Members

variable {σ : Type} {member : σ → Reader σ} {clock : Nat} {cs rest behind rest' : List Char}
  {done done' : σ}

/-- An object ends behind a member and a closing brace. -/
theorem readMembers_last (hmember : member done cs = .ok (done', rest))
    (hskip : skipSpace rest = '\x7d' :: rest') :
    readMembers member (clock + 1) done cs = .ok (done', rest') := by
  simp only [readMembers, hmember, bind, Except.bind, hskip, if_true]

/-- Behind a member, a comma and an opening quote stand the other members. -/
theorem readMembers_next (hmember : member done cs = .ok (done', rest))
    (hskip : skipSpace rest = ',' :: behind) (hquote : skipSpace behind = '"' :: rest') :
    readMembers member (clock + 1) done cs = readMembers member clock done' rest' := by
  simp only [readMembers, hmember, bind, Except.bind, hskip, hquote,
    if_neg (show ',' ≠ '\x7d' by decide), if_true]

/-- An object ends at a member that is malformed. -/
theorem readMembers_error {e : ReadError} (hmember : member done cs = .error e) :
    readMembers member (clock + 1) done cs = .error e := by
  simp only [readMembers, hmember, bind, Except.bind]

end Members

/-- The text from behind the first member of an object. -/
def behindMember (u w : List Char) (ps : List Part) (rest : List Char) : List Char :=
  (ps.map (Part.chars u)).flatMap (',' :: ·) ++ (w ++ '\x7d' :: rest)

/-- Behind a member stands the next one, behind a comma. -/
theorem behindMember_cons (u w : List Char) (p : Part) (ps : List Part) (rest : List Char) :
    behindMember u w (p :: ps) rest
      = ',' :: (u ++ '"' :: (p.tail ++ behindMember u w ps rest)) := by
  simp [behindMember, Part.chars]

/-- The members of an object are read one after the other. -/
theorem readMembers_behindMember {value : Reader Json} {n : Nat} {u w : List Char} (hu : Blank u)
    (hw : Blank w) (rest : List Char) :
    ∀ (ps : List Part) (p : Part) (clock : Nat) (done : List (String × Json)),
      (∀ q ∈ p :: ps, Gives value n q.value q.text) → (p :: ps).Pairwise (·.key < ·.key) →
      (∀ q ∈ p :: ps, ∀ m ∈ done, m.1 < q.key) → ps.length < clock →
      readMembers (readMember value) clock done (p.tail ++ behindMember u w ps rest)
        = if membersDepth ((p :: ps).map Part.member) ≤ n
          then .ok (done ++ (p :: ps).map Part.member, rest) else .error .malformed := by
  intro ps
  induction ps with
  | nil =>
    intro p clock done hgives _ hdone hclock
    obtain ⟨clock, rfl⟩ : ∃ k, clock = k + 1 := ⟨clock - 1, by omega⟩
    have hp := readMember_tail (hgives p List.mem_cons_self) (hdone p List.mem_cons_self)
      (endsNumber_append hw (endsNumber_cons '\x7d' rest (by decide)))
    have hmax : membersDepth ([p].map Part.member) = p.value.depth := by
      simp [membersDepth, Part.member]
    have hskip : skipSpace (w ++ '\x7d' :: rest) = '\x7d' :: rest := by
      rw [skipSpace_append hw, skipSpace_cons (by decide)]
    rw [hmax, show behindMember u w [] rest = w ++ '\x7d' :: rest from rfl]
    by_cases hdepth : p.value.depth ≤ n
    · rw [if_pos hdepth] at hp ⊢
      exact readMembers_last hp hskip
    · rw [if_neg hdepth] at hp ⊢
      exact readMembers_error hp
  | cons q qs ih =>
    intro p clock done hgives hsorted hdone hclock
    rw [List.length_cons] at hclock
    obtain ⟨clock, rfl⟩ : ∃ k, clock = k + 1 := ⟨clock - 1, by omega⟩
    obtain ⟨hfirst, hsorted'⟩ := List.pairwise_cons.mp hsorted
    -- behind the first member all keys read so far are still below those to come
    have hdone' : ∀ r ∈ q :: qs, ∀ m ∈ done ++ [p.member], m.1 < r.key := by
      intro r hr m hm
      rcases List.mem_append.mp hm with hm | hm
      · exact hdone r (List.mem_cons_of_mem p hr) m hm
      · rw [List.mem_singleton.mp hm]
        exact hfirst r hr
    have htail := ih q clock (done ++ [p.member])
      (fun r hr => hgives r (List.mem_cons_of_mem p hr)) hsorted' hdone' (by omega)
    have hp := readMember_tail (hgives p List.mem_cons_self) (hdone p List.mem_cons_self)
      (endsNumber_cons ',' (u ++ '"' :: (q.tail ++ behindMember u w qs rest)) (by decide))
    have hmax : membersDepth ((p :: q :: qs).map Part.member)
        = max p.value.depth (membersDepth ((q :: qs).map Part.member)) := by
      rw [List.map_cons, Part.member, membersDepth]
    have hquote : skipSpace (u ++ '"' :: (q.tail ++ behindMember u w qs rest))
        = '"' :: (q.tail ++ behindMember u w qs rest) := by
      rw [skipSpace_append hu, skipSpace_cons (by decide)]
    rw [hmax, behindMember_cons]
    by_cases hdepth : p.value.depth ≤ n
    · rw [if_pos hdepth] at hp
      rw [readMembers_next hp (skipSpace_cons (by decide) _) hquote, htail]
      by_cases htails : membersDepth ((q :: qs).map Part.member) ≤ n
      · rw [if_pos htails, if_pos (Nat.max_le.mpr ⟨hdepth, htails⟩), List.append_assoc]
        rfl
      · rw [if_neg htails, if_neg fun h => htails (Nat.max_le.mp h).2]
    · rw [if_neg hdepth] at hp
      rw [readMembers_error hp, if_neg fun h => hdepth (Nat.max_le.mp h).1]

/-- An object is read member by member up to its closing brace. -/
theorem readObject_separated {value : Reader Json} {n : Nat} {u w : List Char} (hu : Blank u)
    (hw : Blank w) {parts : List Part} (hgives : ∀ p ∈ parts, Gives value n p.value p.text)
    (hsorted : parts.Pairwise (·.key < ·.key)) (rest : List Char) :
    readObject (readMember value) []
        (separated (parts.map (Part.chars u)) ++ (w ++ '\x7d' :: rest))
      = if membersDepth (parts.map Part.member) ≤ n then .ok (parts.map Part.member, rest)
        else .error .malformed := by
  cases parts with
  | nil =>
    simp only [List.map_nil, separated, List.nil_append, membersDepth, Nat.zero_le, if_true,
      readObject, skipSpace_append hw, skipSpace_cons (show isSpace '\x7d' = false by decide)]
  | cons p ps =>
    have hclock : ps.length
        < (separated ((p :: ps).map (Part.chars u)) ++ (w ++ '\x7d' :: rest)).length := by
      have hlen := length_le_separated ((p :: ps).map (Part.chars u)) rest '\x7d'
      simp only [List.length_append, List.length_cons, List.length_map] at hlen ⊢
      omega
    have hmembers := readMembers_behindMember hu hw rest ps p _ [] hgives hsorted
      (fun _ _ _ hm => nomatch hm) hclock
    have hskip : skipSpace (separated ((p :: ps).map (Part.chars u)) ++ (w ++ '\x7d' :: rest))
        = '"' :: (p.tail ++ behindMember u w ps rest) := by
      have htext : separated ((p :: ps).map (Part.chars u)) ++ (w ++ '\x7d' :: rest)
          = u ++ '"' :: (p.tail ++ behindMember u w ps rest) := by
        simp [separated, Part.chars, behindMember]
      rw [htext, skipSpace_append hu, skipSpace_cons (by decide)]
    unfold readObject
    rw [hskip]
    show readMembers (readMember value) _ [] (p.tail ++ behindMember u w ps rest) = _
    rw [hmembers, List.nil_append]

/-! ## Whole values -/

/-- The reader of the values in a container, one level down. -/
def nestedReader : Nat → Option (Reader Json)
  | 0 => none
  | n + 1 => some (readValue n)

/-- Reading a value is reading its first token and going one level down. -/
theorem readValue_eq (n : Nat) : readValue n = readWith (nestedReader n) := by
  cases n with
  | zero => rfl
  | succ n => rfl

/-- Behind an opening bracket the items are read one level down. -/
theorem readValue_sequence (n : Nat) (cs : List Char) :
    readValue (n + 1) ('[' :: cs) =
      (readArray (readValue n) cs).map fun read => (.arr read.1, read.2) := by
  have hfound : readFound ('[' :: cs) = .ok (.sequence, cs) := rfl
  simp only [readValue, readWith, hfound, bind, Except.bind]
  cases readArray (readValue n) cs <;> rfl

/-- Behind an opening brace the members are read one level down. -/
theorem readValue_map (n : Nat) (cs : List Char) :
    readValue (n + 1) ('\x7b' :: cs) =
      (readObject (readMember (readValue n)) [] cs).map fun read => (.obj read.1, read.2) := by
  have hfound : readFound ('\x7b' :: cs) = .ok (.map, cs) := rfl
  simp only [readValue, readWith, hfound, bind, Except.bind]
  cases readObject (readMember (readValue n)) [] cs <;> rfl

/-- White space in front of a value changes nothing. -/
theorem readValue_append {u : List Char} (hu : Blank u) (n : Nat) (cs : List Char) :
    readValue n (u ++ cs) = readValue n cs := by
  rw [readValue_eq, readWith, readWith, readFound_append hu]

/-- Skipped white space in front of a value changes nothing. -/
theorem readValue_skipSpace (n : Nat) (cs : List Char) :
    readValue n (skipSpace cs) = readValue n cs := by
  have hfound : readFound (skipSpace cs) = readFound cs := by
    unfold readFound
    rw [skipSpace_skipSpace]
  rw [readValue_eq, readWith, readWith, hfound]

/-- A value is read from each of its texts if it nests at most `n` deep, and what follows is left;
    deeper ones are malformed. -/
theorem readValue_spells {j : Json} {cs : List Char} (h : Spells j cs) :
    ∀ n, Gives (readValue n) n j cs := by
  induction h with
  | null =>
    intro n rest _
    rw [readValue_eq]
    rfl
  | bool b =>
    intro n rest _
    rw [readValue_eq, readWith, readFound_bool]
    rfl
  | num m =>
    intro n rest hrest
    rw [readValue_eq, readWith, readFound_num m hrest]
    rfl
  | str s =>
    intro n rest _
    rw [readValue_eq, readWith, readFound_str]
    rfl
  | @arr parts w hparts hw ih =>
    intro n rest _
    rw [List.cons_append, List.append_assoc, List.append_assoc, List.singleton_append]
    -- with no level left every container is malformed, at its opening bracket
    cases n with
    | zero => rfl
    | succ n =>
      have harray := readArray_separated hw (fun p hp => ih p hp n)
        (fun p hp => (hparts p hp).begins) (readValue_skipSpace n) rest
      rw [readValue_sequence, harray, depth]
      by_cases hdepth : itemsDepth (parts.map Prod.fst) ≤ n
      · rw [if_pos hdepth, if_pos (Nat.succ_le_succ hdepth)]
        rfl
      · rw [if_neg hdepth, if_neg fun h => hdepth (Nat.le_of_succ_le_succ h)]
        rfl
  | @obj parts u w hsorted _ hu hw ih =>
    intro n rest _
    rw [List.cons_append, List.append_assoc, List.append_assoc, List.singleton_append]
    cases n with
    | zero => rfl
    | succ n =>
      have hobject := readObject_separated hu hw (fun p hp => ih p hp n) hsorted rest
      rw [readValue_map, hobject, depth]
      by_cases hdepth : membersDepth (parts.map Part.member) ≤ n
      · rw [if_pos hdepth, if_pos (Nat.succ_le_succ hdepth)]
        rfl
      · rw [if_neg hdepth, if_neg fun h => hdepth (Nat.le_of_succ_le_succ h)]
        rfl
  | space hu _ ih =>
    intro n rest hrest
    rw [List.append_assoc, readValue_append hu]
    exact ih n rest hrest

/-- A whole text is read as the value it spells, up to the limit of nesting. -/
theorem parse_spells {j : Json} {text : String} (h : Spells j text.toList) :
    parse text = if j.depth ≤ maxDepth then .ok j else .error .malformed := by
  have hread := readValue_spells h maxDepth [] (fun _ hc => nomatch hc)
  rw [List.append_nil] at hread
  unfold parse readWhole
  rw [hread]
  split
  · rfl
  · rfl

end StoreQuery.Json
