import StoreQuery.Proofs.Filter.Shape
import StoreQuery.Proofs.Sql.Reuse

/-! # Values and text — no value reaches the text of a statement

    Two queries that differ in the contents of their values only are
    compiled to one text.  The two runs need not be followed side by side:
    the predicate that a filter becomes is that of its shape
    (`place_shape`), because a value takes part in the rendering by being
    there and not by what it is.  All else of a statement comes from the
    sort keys and the page request, and the values are bound in the order
    of the leaves, so they alone can tell the two statements apart. -/

namespace StoreQuery.Sql

/-! ## The predicate of a shape -/

section Shape

variable (d : Dialect)

/-- Placed filters are placed like their shapes, once that is so of each. -/
theorem placeAll_childShapes {children : List Filter}
    (ih : ∀ c ∈ children, ∀ k, place d k c.shape = place d k c) (k : Nat) :
    placeAll d k (Filter.childShapes children) = placeAll d k children := by
  induction children generalizing k with
  | nil => rfl
  | cons child rest ihrest =>
    obtain ⟨hchild, hrest⟩ := List.forall_mem_cons.mp ih
    -- the shape takes as many placeholders as the child, so the others keep their numbers
    have hcount : child.shape.values.length = child.values.length := by
      rw [Filter.values_shape, List.length_map]
    rw [Filter.childShapes, placeAll, placeAll, hchild k, hcount, ihrest hrest]

/-- A filter becomes the predicate that its shape becomes. -/
theorem place_shape (f : Filter) (k : Nat) : place d k f.shape = place d k f := by
  induction f generalizing k with
  | eq key value => rfl
  | isIn key values => rw [Filter.shape, place, place, List.length_map]
  | compound connective children ih =>
    rw [Filter.shape_compound, place_compound, place_compound, placeAll_childShapes d ih]

end Shape

/-! ## Statements of texts -/

/-- The values at the leaves of a query, from left to right. -/
def valuesOf (q : Query) : List Value :=
  (leavesOf q).flatMap Prod.snd

/-- The text of a query's predicate, empty if there is no filter. -/
def predicateText (d : Dialect) (q : Query) : String :=
  q.filter.elim "" fun f => (place d 0 f).text

/-- A query whose leaves all list values, and texts only. -/
def ListsTexts (q : Query) : Prop :=
  ∀ leaf ∈ leavesOf q, leaf.2 ≠ [] ∧ ∀ v ∈ leaf.2, ∃ t, v = Value.text t

/-- A query that lists texts only is compiled: to the text of its predicate and its sort keys, with
    its values bound in their order. -/
theorem compile_of_texts {σ : Type} (d : Dialect) (collection : String) {q : Query}
    (h : ListsTexts q) (s : σ) :
    (Statement.compile d collection q s).result =
      .ok ⟨collection, Statement.selectText d collection (predicateText d q) q.sort,
        bound d 0 (valuesOf q), Statement.optionsOf q.page⟩ := by
  have hnone : (leavesOf q).findSome? offence = none :=
    List.findSome?_eq_none_iff.mpr fun leaf hleaf => offence_eq_none_iff.mpr (h leaf hleaf)
  rw [predicateText, valuesOf]
  rw [leavesOf] at hnone ⊢
  cases hq : q.filter with
  | none => exact compile_unfiltered d hq collection s
  | some f =>
    rw [hq, Option.elim_some] at hnone
    rw [compile_filtered d hq, hnone, accepted_eq_flatMap hnone]
    rfl

/-! ## Two queries of one shape -/

/-- Queries of one shape have one predicate text. -/
theorem predicateText_of_shape (d : Dialect) {p q : Query}
    (h : p.filter.map Filter.shape = q.filter.map Filter.shape) :
    predicateText d p = predicateText d q := by
  have hshape (q : Query) : predicateText d q
      = (q.filter.map Filter.shape).elim "" fun f => (place d 0 f).text := by
    rw [predicateText]
    cases q.filter with
    | none => rfl
    | some f => exact congrArg Predicate.text (place_shape d f 0).symm
  rw [hshape p, hshape q, h]

/-- Queries of one shape have the same number of values. -/
theorem length_valuesOf_of_shape {p q : Query}
    (h : p.filter.map Filter.shape = q.filter.map Filter.shape) :
    (valuesOf p).length = (valuesOf q).length := by
  rw [valuesOf, valuesOf, leavesOf, leavesOf]
  cases hp : p.filter with
  | none =>
    rw [hp] at h
    rw [Option.map_eq_none_iff.mp h.symm]
  | some f =>
    rw [hp] at h
    obtain ⟨g, hg, hshape⟩ := Option.map_eq_some_iff.mp h.symm
    rw [hg]
    exact Filter.length_values_of_shape hshape.symm

/-- Bound parameters have the values that were bound. -/
theorem map_value_bound (d : Dialect) (k : Nat) (values : List Value) :
    (bound d k values).map Parameter.value = values := by
  induction values generalizing k with
  | nil => rfl
  | cons value rest ih => rw [bound, List.map_cons, ih]

/-- Two parameters bound at one place are the same when their values are. -/
theorem getElem?_bound_inj (d : Dialect) (k i : Nat) (values others : List Value) :
    (bound d k values)[i]? = (bound d k others)[i]? ↔ values[i]? = others[i]? := by
  have hinjective : Function.Injective (Parameter.mk (d.placeholder (k + i))) := by
    intro v w h
    exact (Parameter.mk.inj h).2
  rw [getElem?_bound, getElem?_bound]
  exact (Option.map_injective hinjective).eq_iff

/-- Two queries that list texts only, and differ in nothing but the contents of these, are both
    compiled, to one text with the same names and options.  Their parameters are the values in the
    order of the leaves, and differ just where the values do. -/
theorem compile_text_independent_of_values {σ : Type} (d : Dialect) (collection : String)
    (p q : Query) (s : σ) (hp : ListsTexts p) (hq : ListsTexts q)
    (hshape : p.filter.map Filter.shape = q.filter.map Filter.shape) (hsort : p.sort = q.sort)
    (hpage : p.page = q.page) :
    ∃ a b : Statement,
      (Statement.compile d collection p s).result = .ok a
      ∧ (Statement.compile d collection q s).result = .ok b
      ∧ a.text = b.text
      ∧ a.parameters.map Parameter.name = b.parameters.map Parameter.name
      ∧ a.options = b.options
      ∧ a.parameters.map Parameter.value = valuesOf p
      ∧ b.parameters.map Parameter.value = valuesOf q
      ∧ ∀ i : Nat, a.parameters[i]? = b.parameters[i]? ↔ (valuesOf p)[i]? = (valuesOf q)[i]? := by
  refine ⟨_, _, compile_of_texts d collection hp s, compile_of_texts d collection hq s, ?_, ?_, ?_,
    map_value_bound d 0 _, map_value_bound d 0 _, fun i => getElem?_bound_inj d 0 i _ _⟩
  · show Statement.selectText d collection (predicateText d p) p.sort = _
    rw [predicateText_of_shape d hshape, hsort]
  · show (bound d 0 (valuesOf p)).map Parameter.name = (bound d 0 (valuesOf q)).map Parameter.name
    rw [map_name_bound, map_name_bound, length_valuesOf_of_shape hshape]
  · show Statement.optionsOf p.page = _
    rw [hpage]

/-- A value that tries to close its comparison is bound like any other: of two statements with one
    text only the second parameter differs. -/
theorem compile_text_independent_of_values_hostile :
    ∃ (p q : Query) (a b : Statement),
      p.filter = some (.any [.eq "k" (.text "x"), .all [.isIn "l" [.text "y", .text "z"],
        .eq "m" (.text "w")]])
      ∧ q.filter = some (.any [.eq "k" (.text "x"), .all [.isIn "l" [.text "@p0) OR (k = k",
        .text "z"], .eq "m" (.text "w")]])
      ∧ (Statement.compile (Named.dialect ⟨some "c"⟩) "items" p ()).result = .ok a
      ∧ (Statement.compile (Named.dialect ⟨some "c"⟩) "items" q ()).result = .ok b
      ∧ a.text = b.text ∧ a.parameters[0]? = b.parameters[0]?
      ∧ a.parameters[1]? ≠ b.parameters[1]? ∧ a.parameters[2]? = b.parameters[2]? := by
  let p : Query := { filter := some (.any [.eq "k" (.text "x"),
    .all [.isIn "l" [.text "y", .text "z"], .eq "m" (.text "w")]]) }
  let q : Query := { filter := some (.any [.eq "k" (.text "x"),
    .all [.isIn "l" [.text "@p0) OR (k = k", .text "z"], .eq "m" (.text "w")]]) }
  have hp : ListsTexts p := by
    simp [p, ListsTexts, leavesOf, Filter.leaves, Filter.childLeaves]
  have hq : ListsTexts q := by
    simp [q, ListsTexts, leavesOf, Filter.leaves, Filter.childLeaves]
  obtain ⟨a, b, ha, hb, htext, -, -, -, -, hdiffer⟩ :=
    compile_text_independent_of_values (Named.dialect ⟨some "c"⟩) "items" p q () hp hq rfl rfl rfl
  refine ⟨p, q, a, b, rfl, rfl, ha, hb, htext, (hdiffer 0).mpr rfl, ?_, (hdiffer 2).mpr rfl⟩
  intro h
  have hvalue : Value.text "y" = Value.text "@p0) OR (k = k" := Option.some.inj ((hdiffer 1).mp h)
  exact absurd hvalue (by decide)

end StoreQuery.Sql
