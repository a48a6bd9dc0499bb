import StoreQuery.Find.Order

/-! # Order — any keys compare documents consistently

    A comparison that a sort can rely on is a total preorder: it may tie
    values that differ, but its answers fit together, for two values, for
    three, and for tied values and any third.

    Comparing values goes through several types, some of which tie all
    their values.  It is the same as comparing four ranks one after the
    other: the type, the number, the text, the truth value, each of them
    constant where a value holds nothing of the kind.  Every rank lives in
    an ordered type, so the chain of them is a total preorder.  Following a
    path, turning the direction and chaining keys keep that. -/

namespace StoreQuery.Find

open Std (OrientedCmp ReflCmp TransCmp)

/-- A comparison whose answers fit together: a value ties with itself, swapping two values reverses
    the answer, "not behind" carries over from the first of three to the last, and tied values
    compare the same way with every third. -/
structure TotalPreorder {α : Type} (cmp : α → α → Ordering) : Prop where
  self : ∀ a, cmp a a = .eq
  reverse : ∀ a b, cmp b a = (cmp a b).swap
  trans : ∀ a b c, cmp a b ≠ .gt → cmp b c ≠ .gt → cmp a c ≠ .gt
  ties : ∀ a b, cmp a b = .eq → ∀ c, cmp a c = cmp b c ∧ cmp c a = cmp c b

theorem totalPreorder_of_transCmp {α : Type} (cmp : α → α → Ordering) [TransCmp cmp] :
    TotalPreorder cmp where
  self a := ReflCmp.compare_self
  reverse a b := OrientedCmp.eq_swap
  trans a b c := by
    simp only [Ordering.ne_gt_iff_isLE]
    exact TransCmp.isLE_trans
  ties a b h c := ⟨TransCmp.congr_left h, TransCmp.congr_right h⟩

/-! ## Values -/

/-- The number of a value in units of a double, zero for a value of another type. -/
def numberRank : Json → Int
  | .num n => n.toDouble.units
  | _ => 0

/-- The text of a value, empty for a value of another type. -/
def textRank : Json → String
  | .str s => s
  | _ => ""

/-- The truth value of a value, `false` for a value of another type. -/
def truthRank : Json → Bool
  | .bool b => b
  | _ => false

/-- Values are compared by their four ranks, the type first. -/
theorem compareValues_eq_compareLex :
    compareValues = compareLex (compareOn typeRank) (compareLex (compareOn numberRank)
      (compareLex (compareOn textRank) (compareOn truthRank))) := by
  funext a b
  -- across types the first rank decides, and within a type all ranks tie but its own
  cases a with
  | num m =>
    cases b with
    | num n =>
      simp [compareValues, compareLex, compareOn, typeRank, numberRank, textRank, truthRank,
        FiniteDouble.compare]
    | _ => rfl
  | str s =>
    cases b with
    | str t =>
      simp [compareValues, compareLex, compareOn, typeRank, numberRank, textRank, truthRank]
    | _ => rfl
  | bool p =>
    cases b with
    | bool q =>
      simp [compareValues, compareLex, compareOn, typeRank, numberRank, textRank, truthRank]
    | _ => rfl
  | _ => cases b <;> rfl

instance : TransCmp compareValues := by
  rw [compareValues_eq_compareLex]
  infer_instance

/-! ## Documents -/

/-- A key compares the values that its path leads to. -/
instance (path : String) : TransCmp fun a b => compareValues (resolve a path) (resolve b path) where
  eq_swap {_ _} := @OrientedCmp.eq_swap _ compareValues _ _ _
  isLE_trans {_ _ _} := @TransCmp.isLE_trans _ compareValues _ _ _ _

/-- A descending key compares the other way round. -/
theorem SortKey.compare_descending {key : SortKey} (h : key.direction < 0) :
    key.compare = fun a b => compareValues (resolve b key.field) (resolve a key.field) := by
  funext a b
  rw [SortKey.compare, if_pos h]
  exact OrientedCmp.eq_swap.symm

theorem SortKey.compare_ascending {key : SortKey} (h : ¬key.direction < 0) :
    key.compare = fun a b => compareValues (resolve a key.field) (resolve b key.field) := by
  funext a b
  rw [SortKey.compare, if_neg h]

instance (key : SortKey) : TransCmp key.compare := by
  by_cases h : key.direction < 0
  · rw [SortKey.compare_descending h]
    exact TransCmp.opposite
  · rw [SortKey.compare_ascending h]
    infer_instance

instance instTransCmpCompareBy (keys : List SortKey) : TransCmp (compareBy keys) := by
  induction keys with
  | nil => exact { eq_swap := rfl, isLE_trans := fun _ _ => rfl }
  | cons key rest ih =>
    have hchain : compareBy (key :: rest) = compareLex key.compare (compareBy rest) := rfl
    rw [hchain]
    infer_instance

/-- Whatever the keys and their directions, documents are compared by a total preorder; so are
    values of all types. -/
theorem compareBy_totalPreorder :
    (∀ keys : List SortKey, TotalPreorder (compareBy keys)) ∧ TotalPreorder compareValues :=
  ⟨fun keys => totalPreorder_of_transCmp (compareBy keys), totalPreorder_of_transCmp compareValues⟩

end StoreQuery.Find
