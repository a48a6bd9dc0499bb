import StoreQuery.Filter.Basic

/-! # Filters as trees — induction, leaves and well-formedness

    A filter holds its children in a list, so its own recursor speaks of
    lists of filters as well.  And its two kinds of compound differ in their
    connective, which most proofs do not look at.  `Filter.induct` hides
    both: to prove something of every filter, prove it of both leaves, and of
    a compound with any connective whose children all have it.

    `leaves` lists the leaves from left to right, and a filter is well
    formed when it could have been built by the checked constructors. -/

namespace StoreQuery

/-- How a compound joins its children. -/
inductive Connective where
  | all
  | any

/-- The operator of the compounds with a connective. -/
def Connective.operator : Connective → Operator
  | .all => .all
  | .any => .any

namespace Filter

/-! ## Compounds -/

/-- The compound with a connective. -/
def compound : Connective → List Filter → Filter
  | .all, children => .all children
  | .any, children => .any children

/-- Induction on filters; the children of a compound are met as members of its list. -/
@[elab_as_elim, induction_eliminator]
theorem induct {motive : Filter → Prop}
    (eq : ∀ key value, motive (.eq key value))
    (isIn : ∀ key values, motive (.isIn key values))
    (compound : ∀ connective children, (∀ c ∈ children, motive c) →
      motive (.compound connective children)) :
    ∀ f, motive f
  | .eq key value => eq key value
  | .isIn key values => isIn key values
  | .all children => compound .all children fun c _ => induct eq isIn compound c
  | .any children => compound .any children fun c _ => induct eq isIn compound c

theorem compound_inj {a b : Connective} {children others : List Filter}
    (h : compound a children = compound b others) : a = b ∧ children = others := by
  cases a <;> cases b <;> cases h <;> exact ⟨rfl, rfl⟩

/-- A filter that is no compound. -/
def IsLeaf (f : Filter) : Prop :=
  ∀ connective children, f ≠ compound connective children

theorem isLeaf_eq (key : String) (value : Value) : (Filter.eq key value).IsLeaf := by
  intro connective children h
  cases connective <;> cases h

theorem isLeaf_isIn (key : String) (values : List Value) : (Filter.isIn key values).IsLeaf := by
  intro connective children h
  cases connective <;> cases h

/-! ## Leaves -/

mutual

/-- The keys of the leaves and the values at each, from left to right. -/
def leaves : Filter → List (String × List Value)
  | .eq key value => [(key, [value])]
  | .isIn key values => [(key, values)]
  | .all children => childLeaves children
  | .any children => childLeaves children

/-- The leaves of several filters. -/
def childLeaves : List Filter → List (String × List Value)
  | [] => []
  | child :: rest => leaves child ++ childLeaves rest

end

/-- The leaves of several filters are those of each one in turn. -/
theorem childLeaves_eq_flatMap (children : List Filter) :
    childLeaves children = children.flatMap leaves := by
  induction children with
  | nil => rfl
  | cons child rest ih => rw [childLeaves, ih, List.flatMap_cons]

/-- The keys of the leaves, from left to right. -/
def keys (f : Filter) : List String :=
  f.leaves.map Prod.fst

/-- The values at the leaves, from left to right. -/
def values (f : Filter) : List Value :=
  f.leaves.flatMap Prod.snd

@[simp] theorem values_isIn (key : String) (values : List Value) :
    (Filter.isIn key values).values = values :=
  List.append_nil values

theorem leaves_compound (connective : Connective) (children : List Filter) :
    (compound connective children).leaves = childLeaves children := by
  cases connective <;> rw [compound, leaves]

/-- The leaves of a compound are those of its children. -/
theorem mem_leaves_compound {connective : Connective} {children : List Filter}
    {leaf : String × List Value} :
    leaf ∈ (compound connective children).leaves ↔ ∃ c ∈ children, leaf ∈ c.leaves := by
  rw [leaves_compound, childLeaves_eq_flatMap, List.mem_flatMap]

/-- The values of a compound are those of its children. -/
theorem mem_values_compound {connective : Connective} {children : List Filter} {v : Value} :
    v ∈ (compound connective children).values ↔ ∃ c ∈ children, v ∈ c.values := by
  simp only [values, leaves_compound, childLeaves_eq_flatMap, List.flatMap_assoc,
    List.mem_flatMap]

/-! ## Well-formedness -/

/-- Every membership lists a value, and every compound has two children or more. -/
inductive WellFormed : Filter → Prop where
  | eq (key : String) (value : Value) : WellFormed (.eq key value)
  | isIn (key : String) {values : List Value} : values ≠ [] → WellFormed (.isIn key values)
  | all {children : List Filter} :
      2 ≤ children.length → (∀ c ∈ children, WellFormed c) → WellFormed (.all children)
  | any {children : List Filter} :
      2 ≤ children.length → (∀ c ∈ children, WellFormed c) → WellFormed (.any children)

/-- A compound is well formed when it has two children or more and they all are. -/
theorem wellFormed_compound_iff {connective : Connective} {children : List Filter} :
    (compound connective children).WellFormed
      ↔ 2 ≤ children.length ∧ ∀ c ∈ children, c.WellFormed := by
  cases connective with
  | all => exact ⟨fun | .all hlength h => ⟨hlength, h⟩, fun ⟨hlength, h⟩ => .all hlength h⟩
  | any => exact ⟨fun | .any hlength h => ⟨hlength, h⟩, fun ⟨hlength, h⟩ => .any hlength h⟩

/-- The leaves of a well-formed filter list values. -/
theorem WellFormed.leaves_ne_nil {f : Filter} (h : f.WellFormed) :
    ∀ leaf ∈ f.leaves, leaf.2 ≠ [] := by
  induction f with
  | eq key value =>
    intro leaf hleaf
    rw [List.mem_singleton.mp hleaf]
    exact List.cons_ne_nil _ _
  | isIn key values =>
    intro leaf hleaf
    rw [List.mem_singleton.mp hleaf]
    cases h with
    | isIn _ hne => exact hne
  | compound connective children ih =>
    intro leaf hleaf
    obtain ⟨c, hc, hleaf⟩ := mem_leaves_compound.mp hleaf
    exact ih c hc ((wellFormed_compound_iff.mp h).2 c hc) leaf hleaf

end Filter

end StoreQuery
