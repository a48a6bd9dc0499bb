import StoreQuery.Proofs.Act
import StoreQuery.Proofs.Json.Spelling

/-! # Nesting — what is read stays within the limit

    `readValue_spells` says what becomes of a text that spells a value.
    This module looks from the other side: whatever the text was, a value
    that was read from it nests no deeper than the reader allows.

    Both loops of the reader carry the argument.  A property that the items
    of an array have one by one is had by the whole list, and a property
    that each member keeps is kept by the whole object; depth is one
    instance of either. -/

namespace StoreQuery.Json

/-! ## Depth -/

/-- Items nest at most `n` deep when each one does. -/
theorem itemsDepth_le_iff {items : List Json} {n : Nat} :
    itemsDepth items ≤ n ↔ ∀ j ∈ items, j.depth ≤ n := by
  induction items with
  | nil => exact iff_of_true (Nat.zero_le n) (fun _ hj => nomatch hj)
  | cons j rest ih => rw [itemsDepth, Nat.max_le, ih, List.forall_mem_cons]

/-- Members nest at most `n` deep when each one's value does. -/
theorem membersDepth_le_iff {members : List (String × Json)} {n : Nat} :
    membersDepth members ≤ n ↔ ∀ m ∈ members, m.2.depth ≤ n := by
  induction members with
  | nil => exact iff_of_true (Nat.zero_le n) (fun _ hm => nomatch hm)
  | cons m rest ih => rw [membersDepth, Nat.max_le, ih, List.forall_mem_cons]

/-- An object with one member nests one level deeper than the member. -/
theorem depth_singleton (key : String) (j : Json) : (Json.obj [(key, j)]).depth = j.depth + 1 := by
  rw [depth, membersDepth, membersDepth, Nat.max_zero]

/-- The value of a member nests less deep than the object. -/
theorem depth_lt_of_get? {j v : Json} {key : String} (h : j.get? key = some v) :
    v.depth < j.depth := by
  cases j with
  | obj members =>
    obtain ⟨before, after, hsplit, -⟩ := List.lookup_eq_some_iff.mp h
    have hmem : (key, v) ∈ members := by
      rw [hsplit]
      exact List.mem_append_right before List.mem_cons_self
    exact Nat.lt_succ_of_le (membersDepth_le_iff.mp (Nat.le_refl _) (key, v) hmem)
  | _ => exact nomatch h

/-- A list that a member is put into holds that member and some of the old ones. -/
theorem mem_of_mem_insertMember {key : String} {value : Json} {members : List (String × Json)}
    {m : String × Json} (h : m ∈ insertMember key value members) :
    m = (key, value) ∨ m ∈ members := by
  induction members with
  | nil => exact Or.inl (List.mem_singleton.mp h)
  | cons old rest ih =>
    obtain ⟨k, v⟩ := old
    rw [insertMember] at h
    -- the new member goes in front of a greater key, takes the place of its own, or goes on
    split at h
    · exact List.mem_cons.mp h
    · rcases List.mem_cons.mp h with rfl | hrest
      · exact Or.inl rfl
      · exact Or.inr (List.mem_cons_of_mem (k, v) hrest)
    · rcases List.mem_cons.mp h with rfl | hrest
      · exact Or.inr List.mem_cons_self
      · rcases ih hrest with rfl | hold
        · exact Or.inl rfl
        · exact Or.inr (List.mem_cons_of_mem (k, v) hold)

/-! ## Loops -/

section Loops

variable {α σ : Type} {cs rest : List Char}

/-- What holds of everything that `item` reads holds of all the items. -/
theorem readItems_forall {item : Reader α} {P : α → Prop}
    (hitem : ∀ cs x rest, item cs = .ok (x, rest) → P x) {clock : Nat} {xs : List α}
    (h : readItems item clock cs = .ok (xs, rest)) : ∀ x ∈ xs, P x := by
  induction clock generalizing cs rest xs with
  | zero => exact nomatch h
  | succ clock ih =>
    obtain ⟨⟨x, behind⟩, hx, h⟩ := bind_eq_ok_iff.mp h
    have hP : P x := hitem _ _ _ hx
    dsimp only at h
    split at h
    · exact nomatch h
    · split_ifs at h
      · obtain ⟨rfl, -⟩ := Prod.mk.inj (Except.ok.inj h)
        exact List.forall_mem_singleton.mpr hP
      · obtain ⟨⟨others, behind'⟩, hothers, h⟩ := bind_eq_ok_iff.mp h
        obtain ⟨rfl, -⟩ := Prod.mk.inj (Except.ok.inj h)
        exact List.forall_mem_cons.mpr ⟨hP, ih hothers⟩

/-- What holds of everything that `item` reads holds of all the items of an array. -/
theorem readArray_forall {item : Reader α} {P : α → Prop}
    (hitem : ∀ cs x rest, item cs = .ok (x, rest) → P x) {xs : List α}
    (h : readArray item cs = .ok (xs, rest)) : ∀ x ∈ xs, P x := by
  unfold readArray at h
  split at h
  · exact nomatch h
  · split_ifs at h
    · obtain ⟨rfl, -⟩ := Prod.mk.inj (Except.ok.inj h)
      exact fun _ hx => nomatch hx
    · exact readItems_forall hitem h

/-- What every member keeps is kept by all of them. -/
theorem readMembers_keeps {member : σ → Reader σ} {I : σ → Prop}
    (hmember : ∀ s cs s' rest, I s → member s cs = .ok (s', rest) → I s') {clock : Nat} {s s' : σ}
    (hs : I s) (h : readMembers member clock s cs = .ok (s', rest)) : I s' := by
  induction clock generalizing cs s with
  | zero => exact nomatch h
  | succ clock ih =>
    obtain ⟨⟨done, behind⟩, hdone, h⟩ := bind_eq_ok_iff.mp h
    have hI : I done := hmember _ _ _ _ hs hdone
    dsimp only at h
    split at h
    · exact nomatch h
    · split_ifs at h
      · obtain ⟨rfl, -⟩ := Prod.mk.inj (Except.ok.inj h)
        exact hI
      · split at h
        · exact nomatch h
        · split_ifs at h
          exact ih hI h

/-- What every member keeps is kept by an object. -/
theorem readObject_keeps {member : σ → Reader σ} {I : σ → Prop}
    (hmember : ∀ s cs s' rest, I s → member s cs = .ok (s', rest) → I s') {s s' : σ}
    (hs : I s) (h : readObject member s cs = .ok (s', rest)) : I s' := by
  unfold readObject at h
  split at h
  · exact nomatch h
  · split_ifs at h
    · obtain ⟨rfl, -⟩ := Prod.mk.inj (Except.ok.inj h)
      exact hs
    · exact readMembers_keeps hmember hs h

end Loops

/-! ## Values -/

/-- A member whose value nests within a limit keeps the members within it. -/
theorem readMember_depth_le {value : Reader Json} {n : Nat}
    (hvalue : ∀ cs j rest, value cs = .ok (j, rest) → j.depth ≤ n)
    {members members' : List (String × Json)} {cs rest : List Char}
    (hmembers : ∀ m ∈ members, m.2.depth ≤ n)
    (h : readMember value members cs = .ok (members', rest)) : ∀ m ∈ members', m.2.depth ≤ n := by
  obtain ⟨⟨key, behind⟩, -, h⟩ := bind_eq_ok_iff.mp h
  obtain ⟨behind', -, h⟩ := bind_eq_ok_iff.mp h
  obtain ⟨⟨v, behind''⟩, hv, h⟩ := bind_eq_ok_iff.mp h
  obtain ⟨rfl, -⟩ := Prod.mk.inj (Except.ok.inj h)
  intro m hm
  rcases mem_of_mem_insertMember hm with rfl | hold
  · exact hvalue _ _ _ hv
  · exact hmembers m hold

/-- A value that is read nests at most as deep as the reader allows. -/
theorem readValue_depth_le (n : Nat) :
    ∀ cs j rest, readValue n cs = .ok (j, rest) → j.depth ≤ n := by
  -- a container is read by the reader one level down, so its depth is at most one more
  induction n with
  | zero =>
    intro cs j rest h
    obtain ⟨⟨found, behind⟩, -, h⟩ := bind_eq_ok_iff.mp h
    cases found with
    | sequence => exact nomatch h
    | map => exact nomatch h
    | _ =>
      obtain ⟨rfl, -⟩ := Prod.mk.inj (Except.ok.inj h)
      exact Nat.le_refl 0
  | succ n ih =>
    intro cs j rest h
    obtain ⟨⟨found, behind⟩, -, h⟩ := bind_eq_ok_iff.mp h
    cases found with
    | sequence =>
      obtain ⟨⟨items, behind'⟩, hitems, h⟩ := bind_eq_ok_iff.mp h
      obtain ⟨rfl, -⟩ := Prod.mk.inj (Except.ok.inj h)
      exact Nat.succ_le_succ (itemsDepth_le_iff.mpr (readArray_forall ih hitems))
    | map =>
      obtain ⟨⟨members, behind'⟩, hmembers, h⟩ := bind_eq_ok_iff.mp h
      obtain ⟨rfl, -⟩ := Prod.mk.inj (Except.ok.inj h)
      have hkept : ∀ m ∈ members, m.2.depth ≤ n :=
        readObject_keeps (I := fun members => ∀ m ∈ members, m.2.depth ≤ n)
          (fun _ _ _ _ hs hm => readMember_depth_le ih hs hm) (List.forall_mem_nil _) hmembers
      exact Nat.succ_le_succ (membersDepth_le_iff.mpr hkept)
    | _ =>
      obtain ⟨rfl, -⟩ := Prod.mk.inj (Except.ok.inj h)
      exact Nat.zero_le (n + 1)

/-- A whole text is read as a value within the limit of nesting. -/
theorem parse_depth_le {text : String} {j : Json} (h : parse text = .ok j) :
    j.depth ≤ maxDepth := by
  obtain ⟨⟨j', rest⟩, hread, h⟩ := bind_eq_ok_iff.mp h
  dsimp only at h
  split at h
  · obtain rfl := Except.ok.inj h
    exact readValue_depth_le maxDepth _ _ _ hread
  · exact nomatch h

end StoreQuery.Json
