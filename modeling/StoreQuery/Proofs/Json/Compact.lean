import StoreQuery.Json.Printer
import StoreQuery.Proofs.Json.Spelling

/-! # Compact texts — a written value is read back

    Reading sorts the members of an object by key.  A value whose members
    already stand in that order, at every level, is spelled by its compact
    text, so that reading the text gives the value back unless it nests too
    deep. -/

namespace StoreQuery.Json

/-- In every object of a value the keys stand in ascending order. -/
inductive Ordered : Json → Prop where
  | null : Ordered .null
  | bool (b : Bool) : Ordered (.bool b)
  | num (n : Number) : Ordered (.num n)
  | str (s : String) : Ordered (.str s)
  | arr {items : List Json} : (∀ j ∈ items, Ordered j) → Ordered (.arr items)
  | obj {members : List (String × Json)} :
      (members.map Prod.fst).Pairwise (· < ·) → (∀ m ∈ members, Ordered m.2) →
        Ordered (.obj members)

theorem ordered_singleton {key : String} {j : Json} (h : j.Ordered) :
    (Json.obj [(key, j)]).Ordered :=
  .obj (List.pairwise_singleton _ _) (List.forall_mem_singleton.mpr h)

/-! ## Containers -/

/-- Items that follow another one stand behind commas. -/
theorem itemsTail_eq_flatMap (items : List Json) :
    itemsTail items = (items.map chars).flatMap (',' :: ·) := by
  induction items with
  | nil => rfl
  | cons j rest ih =>
    rw [itemsTail, ih, List.map_cons, List.flatMap_cons, List.cons_append]

/-- The items of an array are written with commas between them. -/
theorem itemsChars_eq_separated (items : List Json) :
    itemsChars items = separated (items.map chars) := by
  cases items with
  | nil => rfl
  | cons j rest => rw [itemsChars, itemsTail_eq_flatMap, List.map_cons, separated]

/-- A member, with the compact text of its value. -/
def partOf (m : String × Json) : Part :=
  ⟨m.1, m.2, m.2.chars⟩

/-- A member is written as its key, a colon and its value, with no white space. -/
theorem chars_partOf (key : String) (value : Json) :
    (partOf (key, value)).chars [] = quotation key ++ ':' :: value.chars := by
  simp [partOf, Part.chars, Part.tail, quotation]

/-- Members that follow another one stand behind commas. -/
theorem membersTail_eq_flatMap (members : List (String × Json)) :
    membersTail members = ((members.map partOf).map (Part.chars [])).flatMap (',' :: ·) := by
  induction members with
  | nil => rfl
  | cons m rest ih =>
    obtain ⟨key, value⟩ := m
    rw [membersTail, ih, List.map_cons, List.map_cons, List.flatMap_cons, chars_partOf]
    simp only [List.cons_append, List.append_assoc]

/-- The members of an object are written with commas between them. -/
theorem membersChars_eq_separated (members : List (String × Json)) :
    membersChars members = separated ((members.map partOf).map (Part.chars [])) := by
  cases members with
  | nil => rfl
  | cons m rest =>
    obtain ⟨key, value⟩ := m
    rw [membersChars, membersTail_eq_flatMap, List.map_cons, List.map_cons, separated, chars_partOf]
    simp only [List.cons_append, List.append_assoc]

/-! ## Values -/

/-- A value with its keys in order is spelled by its compact text. -/
theorem spells_chars {j : Json} (h : j.Ordered) : Spells j j.chars := by
  -- compact texts are spelled with no white space anywhere
  have hblank : Blank [] := fun _ hc => nomatch hc
  induction h with
  | null => exact .null
  | bool b => exact .bool b
  | num n => exact .num n
  | str s => exact .str s
  | @arr items _ ih =>
    have hparts : ∀ p ∈ items.map fun j => (j, j.chars), Spells p.1 p.2 := by
      intro p hp
      obtain ⟨j, hj, rfl⟩ := List.mem_map.mp hp
      exact ih j hj
    have harr := Spells.arr _ hparts hblank
    rw [List.map_map, List.map_map] at harr
    rw [chars, itemsChars_eq_separated]
    rwa [show items.map (Prod.fst ∘ fun j => (j, j.chars)) = items from List.map_id items] at harr
  | @obj members hsorted _ ih =>
    have hparts : ∀ p ∈ members.map partOf, Spells p.value p.text := by
      intro p hp
      obtain ⟨m, hm, rfl⟩ := List.mem_map.mp hp
      exact ih m hm
    have hkeys : (members.map partOf).Pairwise (·.key < ·.key) :=
      List.pairwise_map.mpr (List.pairwise_map.mp hsorted)
    have hobj := Spells.obj _ hkeys hparts hblank hblank
    rw [List.map_map (f := partOf) (g := Part.member)] at hobj
    rw [chars, membersChars_eq_separated]
    rwa [show members.map (Part.member ∘ partOf) = members from List.map_id members] at hobj

/-- The compact text of a value with its keys in order is read as that value, up to the limit of
    nesting. -/
theorem parse_compact {j : Json} (h : j.Ordered) :
    parse j.compact = if j.depth ≤ maxDepth then .ok j else .error .malformed := by
  apply parse_spells
  rw [compact, String.toList_ofList]
  exact spells_chars h

end StoreQuery.Json
