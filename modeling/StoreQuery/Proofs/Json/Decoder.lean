import StoreQuery.Json.Record
import StoreQuery.Proofs.Act
import StoreQuery.Proofs.Json.Compact

/-! # Decoders — a text gives what its value gives

    A decoder can start from a text or from a value that is already read.
    `Decoder.Agrees` says that it makes no difference for one value: what is
    decoded from the value is read from its compact text, up to its end.

    Scalars agree because a scalar is read to its end before a decoder sees
    it.  A record is read from an object member by member, and each member
    that names a field does to the draft what the member itself does
    (`ReadAsTaken`); the loop over the members then does what folding over them
    does.  The order of the members is that of the text, so nothing is asked
    of their keys. -/

namespace StoreQuery.Json

variable {α β ρ σ ε : Type}

/-- What a decoder takes from a value it reads from the text of the value, and leaves the rest. -/
def Decoder.Agrees (d : Decoder α) (j : Json) : Prop :=
  ∀ x, d.ofJson j = .ok x → ∀ rest, EndsNumber rest → d.read (j.chars ++ rest) = .ok (x, rest)

/-! ## Scalars -/

/-- The text of a scalar is read as that scalar. -/
theorem readFound_chars {j : Json} (h : j.depth = 0) {rest : List Char} (hrest : EndsNumber rest) :
    readFound (j.chars ++ rest) = .ok (.ofJson j, rest) := by
  cases j with
  | null => rfl
  | bool b => exact readFound_bool b rest
  | num n => exact readFound_num n hrest
  | str s => exact readFound_str s rest
  | arr items => exact absurd h (Nat.succ_ne_zero _)
  | obj members => exact absurd h (Nat.succ_ne_zero _)

/-- A whole text is read by a reader that leaves nothing of it. -/
theorem readWhole_compact {reader : Reader α} {j : Json} {x : α}
    (h : reader j.chars = .ok (x, [])) : readWhole reader j.compact = .ok x := by
  rw [readWhole, compact, String.toList_ofList, h]
  rfl

namespace Decoder

/-- Whatever a scalar is accepted as, it is so from its text. -/
theorem agrees_scalar (accept : Found → Except Mismatch α) {j : Json} (h : j.depth = 0) :
    (scalar accept).Agrees j := by
  intro x hx rest hrest
  have haccept : accept (.ofJson j) = .ok x := hx
  simp only [scalar, readFound_chars h hrest, bind, Except.bind, haccept]

/-- Applying a function afterwards keeps text and value in agreement. -/
theorem Agrees.map {d : Decoder α} {j : Json} (h : d.Agrees j) (f : α → β) :
    (d.map f).Agrees j := by
  intro y hy rest hrest
  obtain ⟨x, hx, rfl⟩ := map_eq_ok_iff.mp hy
  simp only [Decoder.map, h x hx rest hrest, bind, Except.bind]

/-- A whole text is decoded as its value is. -/
theorem Agrees.parse_compact {d : Decoder α} {j : Json} (h : d.Agrees j) {x : α}
    (hx : d.ofJson j = .ok x) : d.parse j.compact = .ok x := by
  have hread := h x hx [] (fun _ hc => nomatch hc)
  rw [List.append_nil] at hread
  exact readWhole_compact hread

end Decoder

/-! ## Members -/

/-- Reading the text of a member does what taking the member does. -/
def ReadAsTaken (member : σ → Reader σ) (take : σ → String × Json → Except ε σ)
    (m : String × Json) : Prop :=
  ∀ s s', take s m = .ok s' → ∀ rest, EndsNumber rest →
    member s ((partOf m).tail ++ rest) = .ok (s', rest)

section Members

variable {member : σ → Reader σ} {take : σ → String × Json → Except ε σ}

/-- Reading members one after the other does what folding over them does. -/
theorem readMembers_readAsTaken (rest : List Char) :
    ∀ (ms : List (String × Json)) (m : String × Json) (clock : Nat) (s s' : σ),
      (∀ n ∈ m :: ms, ReadAsTaken member take n) → (m :: ms).foldlM take s = .ok s' →
      ms.length < clock →
      readMembers member clock s ((partOf m).tail ++ behindMember [] [] (ms.map partOf) rest)
        = .ok (s', rest) := by
  -- the first member stays apart, because its opening quote is already read
  intro ms
  induction ms with
  | nil =>
    intro m clock s s' htaken hfold hclock
    obtain ⟨clock, rfl⟩ : ∃ k, clock = k + 1 := ⟨clock - 1, by omega⟩
    obtain ⟨t, ht, hlast⟩ := bind_eq_ok_iff.mp hfold
    obtain rfl := Except.ok.inj hlast
    have hm := htaken m List.mem_cons_self s t ht _ (endsNumber_cons '\x7d' rest (by decide))
    exact readMembers_last hm (skipSpace_cons (by decide) _)
  | cons n ms ih =>
    intro m clock s s' htaken hfold hclock
    rw [List.length_cons] at hclock
    obtain ⟨clock, rfl⟩ : ∃ k, clock = k + 1 := ⟨clock - 1, by omega⟩
    obtain ⟨t, ht, hothers⟩ := bind_eq_ok_iff.mp hfold
    have htail := ih n clock t s' (fun k hk => htaken k (List.mem_cons_of_mem m hk)) hothers
      (by omega)
    have hm := htaken m List.mem_cons_self s t ht
      (',' :: '"' :: ((partOf n).tail ++ behindMember [] [] (ms.map partOf) rest))
      (endsNumber_cons _ _ (by decide))
    rw [List.map_cons, behindMember_cons, List.nil_append,
      readMembers_next hm (skipSpace_cons (by decide) _) (skipSpace_cons (by decide) _), htail]

/-- Reading an object does what folding over its members does. -/
theorem readObject_readAsTaken {members : List (String × Json)}
    (htaken : ∀ m ∈ members, ReadAsTaken member take m) {s s' : σ}
    (hfold : members.foldlM take s = .ok s') (rest : List Char) :
    readObject member s (membersChars members ++ '\x7d' :: rest) = .ok (s', rest) := by
  cases members with
  | nil =>
    obtain rfl := Except.ok.inj hfold
    rfl
  | cons m ms =>
    have htext : membersChars (m :: ms) ++ '\x7d' :: rest
        = '"' :: ((partOf m).tail ++ behindMember [] [] (ms.map partOf) rest) := by
      rw [membersChars_eq_separated]
      simp [separated, Part.chars, behindMember]
    -- the clock is set to the length of the text, which has a character for every member
    have hclock : ms.length < (membersChars (m :: ms) ++ '\x7d' :: rest).length := by
      have hlen := length_le_separated (((m :: ms).map partOf).map (Part.chars [])) rest '\x7d'
      rw [← membersChars_eq_separated, List.length_map, List.length_map, List.length_cons] at hlen
      omega
    have hmembers := readMembers_readAsTaken rest ms m _ s s' htaken hfold hclock
    have hskip : skipSpace (membersChars (m :: ms) ++ '\x7d' :: rest)
        = '"' :: ((partOf m).tail ++ behindMember [] [] (ms.map partOf) rest) := by
      rw [htext, skipSpace_cons (by decide)]
    rw [readObject, hskip]
    exact hmembers

end Members

/-! ## Records -/

namespace Record

variable {r : Record ρ}

/-- A member names a field that agrees on its value. -/
def HasAgreeingField (r : Record ρ) (m : String × Json) : Prop :=
  ∃ f, r.field? m.1 = some f ∧ f.update.Agrees m.2

/-- A field for scalars agrees on every scalar under its name. -/
theorem hasAgreeingField_scalar {name : String} {aliases : List String} {required : Bool}
    {accept : Found → Except Mismatch α} {set : α → ρ → ρ} {key : String} {j : Json}
    (hfield : r.field? key = some ⟨name, aliases, required, (Decoder.scalar accept).map set⟩)
    (hj : j.depth = 0) : r.HasAgreeingField (key, j) :=
  ⟨_, hfield, (Decoder.agrees_scalar accept hj).map set⟩

/-- A member with such a field is read as it is taken. -/
theorem HasAgreeingField.readAsTaken {m : String × Json} (h : r.HasAgreeingField m) :
    ReadAsTaken r.readMember r.takeMember m := by
  obtain ⟨f, hfield, hagrees⟩ := h
  intro draft draft' htake rest hrest
  have htext : (partOf m).tail ++ rest
      = m.1.toList.flatMap escapeChar ++ '"' :: ':' :: (m.2.chars ++ rest) := by
    simp [partOf, Part.tail]
  have hcolon : readColon (':' :: (m.2.chars ++ rest)) = .ok (m.2.chars ++ rest) := by
    rw [readColon, skipSpace_cons (by decide)]
    rfl
  simp only [takeMember, hfield] at htake
  -- a field that was met before is refused by both
  cases hseen : draft.seen.contains f.name with
  | true =>
    rw [hseen, if_pos rfl] at htake
    cases htake
  | false =>
    rw [hseen, if_neg Bool.false_ne_true] at htake
    obtain ⟨update, hupdate, hdraft⟩ := bind_eq_ok_iff.mp htake
    obtain rfl := Except.ok.inj hdraft
    simp only [readMember, htext, readQuotation_escaped, hfield, hseen, Bool.false_eq_true,
      if_false, hcolon, hagrees update hupdate rest hrest, bind, Except.bind]

/-- A record agrees on an object whose members all have such a field. -/
theorem agrees_obj {members : List (String × Json)} (h : ∀ m ∈ members, r.HasAgreeingField m) :
    r.decoder.Agrees (.obj members) := by
  intro x hx rest _
  obtain ⟨draft, hfold, hfinish⟩ := bind_eq_ok_iff.mp hx
  have hobject := readObject_readAsTaken (fun m hm => (h m hm).readAsTaken) hfold rest
  have htext : (Json.obj members).chars ++ rest
      = '\x7b' :: (membersChars members ++ '\x7d' :: rest) := by simp [chars]
  have hfound : readFound ('\x7b' :: (membersChars members ++ '\x7d' :: rest))
      = .ok (.map, membersChars members ++ '\x7d' :: rest) := rfl
  simp only [decoder, htext, hfound, hobject, bind, Except.bind, hfinish]

end Record

end StoreQuery.Json
