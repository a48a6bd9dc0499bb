import StoreQuery.Proofs.Find.Arrangement

/-! # Passes — sorting by many keys is sorting by one key after the other

    A list of keys can be sorted by in one go, or in passes that begin with
    the last key.  Both come to the same: `Arranges.pass` says that a pass
    by some keys turns an arrangement by other keys into an arrangement by
    the former followed by the latter.  What the pass tells apart it puts in
    order, and what it ties it leaves as it stands, that is in the order of
    the other keys; within a tie of all keys nothing has moved at all.  An
    arrangement is what sorting gives, so the passes add up. -/

namespace StoreQuery.Find

variable {s t : List SortKey}

/-! ## Keys behind other keys -/

/-- Keys behind other keys decide where the others tie. -/
theorem compareBy_append (s t : List SortKey) (a b : Json) :
    compareBy (s ++ t) a b = (compareBy s a b).then (compareBy t a b) := by
  induction s with
  | nil => rfl
  | cons key rest ih => rw [List.cons_append, compareBy, compareBy, ih, Ordering.then_assoc]

/-- Documents tie under all keys when they tie under the first ones and under the others. -/
theorem tied_append (s t : List SortKey) (a b : Json) :
    tied (s ++ t) a b = (tied s a b && tied t a b) := by
  rw [tied, tied, tied, compareBy_append]
  cases compareBy s a b <;> rfl

/-! ## One pass -/

/-- The documents of a tie keep the order in which a pass finds them. -/
theorem sublist_of_tied {docs : List Json} {a b : Json} (htie : compareBy s a b = .eq)
    (h : [a, b].Sublist (sortBy s docs)) : [a, b].Sublist docs := by
  have hfilter := h.filter (tied s a)
  rw [(arranges_sortBy s docs).stable a, List.filter_cons_of_pos (tied_self a),
    List.filter_cons_of_pos (tied_iff.mpr htie), List.filter_nil] at hfilter
  exact hfilter.trans List.filter_sublist

/-- A pass by keys arranges by these keys and then by those of the arrangement it starts from. -/
theorem Arranges.pass {found docs : List Json} (h : Arranges t found docs) (s : List SortKey) :
    Arranges (s ++ t) found (sortBy s docs) where
  perm := (arranges_sortBy s docs).perm.trans h.perm
  sorted := by
    refine List.pairwise_iff_forall_sublist.mpr fun {a b} hab => ?_
    have hfirst := List.pairwise_iff_forall_sublist.mp (arranges_sortBy s docs).sorted hab
    rw [compareBy_append]
    cases hcmp : compareBy s a b with
    | lt => exact Ordering.noConfusion
    | gt => exact absurd hcmp hfirst
    | eq =>
      -- the pass leaves the two as they stood, and there the other keys put them in order
      exact List.pairwise_iff_forall_sublist.mp h.sorted (sublist_of_tied hcmp hab)
  stable doc := by
    have hboth : tied (s ++ t) doc = fun x => tied s doc x && tied t doc x :=
      funext fun x => tied_append s t doc x
    rw [hboth]
    calc (sortBy s docs).filter (fun x => tied s doc x && tied t doc x)
        = ((sortBy s docs).filter (tied s doc)).filter (tied t doc) := by
          rw [List.filter_filter]
          simp only [Bool.and_comm]
      _ = (docs.filter (tied s doc)).filter (tied t doc) := by
          rw [(arranges_sortBy s docs).stable doc]
      _ = (docs.filter (tied t doc)).filter (tied s doc) := List.filter_comm _ _ _
      _ = (found.filter (tied t doc)).filter (tied s doc) := by rw [h.stable doc]
      _ = found.filter (fun x => tied s doc x && tied t doc x) := List.filter_filter

/-- Sorting by keys that stand in front of others is a pass over what the others sorted. -/
theorem sortBy_append (s t : List SortKey) (docs : List Json) :
    sortBy (s ++ t) docs = sortBy s (sortBy t docs) :=
  (arranges_iff.mp ((arranges_sortBy t docs).pass s)).symm

/-! ## All passes -/

/-- Sorting by keys is one pass for each key, the last one first. -/
theorem sortBy_eq_foldr (keys : List SortKey) (docs : List Json) :
    sortBy keys docs = keys.foldr (fun key => sortBy [key]) docs := by
  induction keys with
  | nil => exact Collection.sortBy_nil docs
  | cons key rest ih => rw [List.foldr_cons, ← ih, ← sortBy_append, List.singleton_append]

/-! ## A field that is given again -/

/-- Documents that tie under a key tie under every key of the same field. -/
theorem SortKey.compare_again {key : SortKey} {a b : Json} (h : key.compare a b = .eq)
    (direction : Int) : SortKey.compare ⟨key.field, direction⟩ a b = .eq := by
  have hvalues : compareValues (resolve a key.field) (resolve b key.field) = .eq := by
    by_cases hdir : key.direction < 0
    · rw [SortKey.compare, if_pos hdir] at h
      exact Ordering.swap_eq_eq.mp h
    · rwa [SortKey.compare, if_neg hdir] at h
  rw [SortKey.compare, hvalues]
  exact ite_self _

/-- A key whose field stands further in front compares nothing. -/
theorem compareBy_again (before : List SortKey) (key : SortKey) (between : List SortKey)
    (direction : Int) (behind : List SortKey) :
    compareBy (before ++ key :: (between ++ ⟨key.field, direction⟩ :: behind))
      = compareBy (before ++ key :: (between ++ behind)) := by
  funext a b
  simp only [compareBy_append, compareBy]
  cases hkey : key.compare a b with
  | lt => rfl
  | gt => rfl
  | eq => simp only [SortKey.compare_again hkey, Ordering.eq_then]

/-- Sorting by some keys and then others in one go is sorting by the others and then by the first
    ones; so sorting is one pass for each key, the last one first, and a field that is given again
    further behind, in either direction, changes nothing. -/
theorem sorting_is_passes (docs : List Json) :
    (∀ s t : List SortKey, sortBy (s ++ t) docs = sortBy s (sortBy t docs))
    ∧ (∀ keys : List SortKey, sortBy keys docs = keys.foldr (fun key => sortBy [key]) docs)
    ∧ ∀ (before : List SortKey) (key : SortKey) (between : List SortKey) (direction : Int)
        (behind : List SortKey),
        sortBy (before ++ key :: (between ++ ⟨key.field, direction⟩ :: behind)) docs
          = sortBy (before ++ key :: (between ++ behind)) docs := by
  refine ⟨fun s t => sortBy_append s t docs, fun keys => sortBy_eq_foldr keys docs, ?_⟩
  intro before key between direction behind
  rw [sortBy, sortBy, compareBy_again]

end StoreQuery.Find
