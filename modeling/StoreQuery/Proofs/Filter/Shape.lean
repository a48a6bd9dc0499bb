import StoreQuery.Proofs.Filter.Basic

/-! # The shape of a filter — all but the contents of its values

    `shape` blanks every value of a filter and leaves the rest: the tree,
    the keys, and how many values each leaf lists.  A filter is its shape
    together with its values from left to right
    (`eq_of_shape_of_values`), so what depends on the shape alone knows
    nothing of the values, and what tells shapes and values apart tells
    filters apart. -/

namespace StoreQuery.Filter

mutual

/-- The filter with every value blanked. -/
def shape : Filter → Filter
  | .eq key _ => .eq key .null
  | .isIn key values => .isIn key (values.map fun _ => .null)
  | .all children => .all (childShapes children)
  | .any children => .any (childShapes children)

/-- The shapes of several filters. -/
def childShapes : List Filter → List Filter
  | [] => []
  | child :: rest => shape child :: childShapes rest

end

theorem shape_compound (connective : Connective) (children : List Filter) :
    (compound connective children).shape = compound connective (childShapes children) := by
  cases connective <;> rw [compound, shape, compound]

/-- A leaf with every value blanked. -/
def blankLeaf (leaf : String × List Value) : String × List Value :=
  (leaf.1, leaf.2.map fun _ => .null)

theorem childLeaves_childShapes {children : List Filter}
    (ih : ∀ c ∈ children, c.shape.leaves = c.leaves.map blankLeaf) :
    childLeaves (childShapes children) = (childLeaves children).map blankLeaf := by
  induction children with
  | nil => rfl
  | cons child rest ihrest =>
    obtain ⟨hchild, hrest⟩ := List.forall_mem_cons.mp ih
    rw [childShapes, childLeaves, childLeaves, hchild, ihrest hrest, List.map_append]

/-- The leaves of a shape are those of the filter, blanked. -/
theorem leaves_shape (f : Filter) : f.shape.leaves = f.leaves.map blankLeaf := by
  induction f with
  | eq key value => rfl
  | isIn key values => rfl
  | compound connective children ih =>
    rw [shape_compound, leaves_compound, leaves_compound]
    exact childLeaves_childShapes ih

/-- The values of a shape are those of the filter, blanked. -/
theorem values_shape (f : Filter) : f.shape.values = f.values.map fun _ => .null := by
  rw [values, values, leaves_shape, List.flatMap_map, List.map_flatMap]
  rfl

/-- Filters of one shape have the same number of values. -/
theorem length_values_of_shape {f g : Filter} (h : f.shape = g.shape) :
    f.values.length = g.values.length := by
  have hblank := congrArg values h
  rw [values_shape, values_shape] at hblank
  simpa only [List.length_map] using congrArg List.length hblank

/-- Filters in turn are their shapes and their values, once that is so of each. -/
theorem children_eq_of_shapes {children others : List Filter}
    (ih : ∀ c ∈ children, ∀ g, c.shape = g.shape → c.values = g.values → c = g)
    (hshape : childShapes children = childShapes others)
    (hvalues : (childLeaves children).flatMap Prod.snd = (childLeaves others).flatMap Prod.snd) :
    children = others := by
  induction children generalizing others with
  | nil =>
    cases others with
    | nil => rfl
    | cons other rest => exact nomatch hshape
  | cons child rest ihrest =>
    cases others with
    | nil => exact nomatch hshape
    | cons other others =>
      obtain ⟨hchild, hrest⟩ := List.forall_mem_cons.mp ih
      obtain ⟨hhead, htail⟩ := List.cons.inj hshape
      -- the values stand in one row, and the first children take equally many of them
      rw [childLeaves, childLeaves, List.flatMap_append, List.flatMap_append] at hvalues
      obtain ⟨hfirst, hlater⟩ := List.append_inj hvalues (length_values_of_shape hhead)
      rw [hchild other hhead hfirst, ihrest hrest htail hlater]

/-- Only a compound has the shape of one. -/
theorem exists_of_shape_eq_compound {g : Filter} {connective : Connective} {shapes : List Filter}
    (h : compound connective shapes = g.shape) :
    ∃ others, g = compound connective others ∧ shapes = childShapes others := by
  induction g with
  | eq key value => exact absurd h.symm (isLeaf_eq _ _ _ _)
  | isIn key values => exact absurd h.symm (isLeaf_isIn _ _ _ _)
  | compound connective' others =>
    rw [shape_compound] at h
    obtain ⟨rfl, hshapes⟩ := compound_inj h
    exact ⟨others, rfl, hshapes⟩

/-- A filter is its shape and its values. -/
theorem eq_of_shape_of_values {f g : Filter} (hshape : f.shape = g.shape)
    (hvalues : f.values = g.values) : f = g := by
  -- the shape says which kind of node `g` is, so the other kinds drop out
  induction f generalizing g with
  | eq key value =>
    cases g with
    | eq key' value' =>
      obtain ⟨rfl, -⟩ := Filter.eq.inj hshape
      obtain ⟨rfl, -⟩ := List.cons.inj hvalues
      rfl
    | _ => exact nomatch hshape
  | isIn key values =>
    cases g with
    | isIn key' values' =>
      obtain ⟨rfl, -⟩ := Filter.isIn.inj hshape
      rw [values_isIn, values_isIn] at hvalues
      rw [hvalues]
    | _ => exact nomatch hshape
  | compound connective children ih =>
    rw [shape_compound] at hshape
    obtain ⟨others, rfl, hshapes⟩ := exists_of_shape_eq_compound hshape
    rw [values, values, leaves_compound, leaves_compound] at hvalues
    rw [children_eq_of_shapes (fun c hc g => ih c hc) hshapes hvalues]

end StoreQuery.Filter
