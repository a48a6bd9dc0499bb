import StoreQuery.Proofs.Act
import StoreQuery.Proofs.Filter.Basic
import StoreQuery.Proofs.Sql.Grammar
import StoreQuery.Sql.Statement

/-! # Rendering — what a filter becomes in a statement

    `place d k f` is the predicate that a filter becomes when `k` parameters
    are bound already: its values give way to placeholders, numbered from
    `k` on from left to right.  Its text is that of the grammar's tree, and
    its values are bound in the same order.

    `render_run` gives the outcome of rendering any filter: the first leaf
    that gives offence ends it, with the values of the leaves before it
    bound. -/

namespace StoreQuery.Sql

/-! ## Predicates and their text -/

/-- The kind of node that a predicate is. -/
def Predicate.kind : Predicate → FragmentKind
  | .all _ => .all
  | .any _ => .any
  | _ => .leaf

mutual

/-- The text of a predicate. -/
def Predicate.text : Predicate → String
  | .eq field placeholder => field ++ " = " ++ placeholder
  | .isIn field placeholders => field ++ " IN (" ++ String.intercalate ", " placeholders ++ ")"
  | .all children => Statement.join " AND " (Predicate.fragments children)
  | .any children => Statement.join " OR " (Predicate.fragments children)

/-- The texts of predicates within a compound. -/
def Predicate.fragments : List Predicate → List Fragment
  | [] => []
  | child :: rest => ⟨child.text, child.kind⟩ :: Predicate.fragments rest

end

/-- What a predicate is rendered to. -/
def Predicate.fragment (p : Predicate) : Fragment :=
  ⟨p.text, p.kind⟩

theorem fragments_eq_map (children : List Predicate) :
    Predicate.fragments children = children.map Predicate.fragment := by
  induction children with
  | nil => rfl
  | cons child rest ih => rw [Predicate.fragments, ih, List.map_cons, Predicate.fragment]

/-- What stands between the parts of a compound. -/
def separator : Connective → String
  | .all => " AND "
  | .any => " OR "

/-- The predicate with a connective. -/
def Predicate.compound : Connective → List Predicate → Predicate
  | .all, children => .all children
  | .any, children => .any children

theorem Predicate.text_compound (connective : Connective) (children : List Predicate) :
    (Predicate.compound connective children).text
      = Statement.join (separator connective) (Predicate.fragments children) := by
  cases connective <;> rw [Predicate.compound, Predicate.text, separator]

variable (d : Dialect)

/-- The placeholders of `count` parameters, from the `k`th on. -/
def placeholders (k count : Nat) : List String :=
  (List.range' k count).map d.placeholder

theorem placeholders_succ (k count : Nat) :
    placeholders d k (count + 1) = d.placeholder k :: placeholders d (k + 1) count := by
  rw [placeholders, List.range'_succ, List.map_cons, placeholders]

mutual

/-- The predicate of a filter whose values are bound from the `k`th parameter on. -/
def place (k : Nat) : Filter → Predicate
  | .eq key _ => .eq (d.field key) (d.placeholder k)
  | .isIn key values => .isIn (d.field key) (placeholders d k values.length)
  | .all children => .all (placeAll k children)
  | .any children => .any (placeAll k children)

/-- The predicates of several filters, bound one after the other. -/
def placeAll (k : Nat) : List Filter → List Predicate
  | [] => []
  | child :: rest => place k child :: placeAll (k + child.values.length) rest

end

theorem place_compound (k : Nat) (connective : Connective) (children : List Filter) :
    place d k (.compound connective children) = .compound connective (placeAll d k children) := by
  cases connective <;> rw [Filter.compound, place, Predicate.compound]

/-! ## Parameters -/

/-- The parameters of values that are bound from the `k`th on. -/
def bound (k : Nat) : List Value → List Parameter
  | [] => []
  | value :: rest => ⟨d.placeholder k, value⟩ :: bound (k + 1) rest

/-- A statement with more values bound. -/
def Statement.binding (s : Statement) (values : List Value) : Statement :=
  { s with parameters := s.parameters ++ bound d s.parameters.length values }

theorem length_bound (k : Nat) (values : List Value) :
    (bound d k values).length = values.length := by
  induction values generalizing k with
  | nil => rfl
  | cons value rest ih => rw [bound, List.length_cons, ih, List.length_cons]

theorem bound_append (k : Nat) (values more : List Value) :
    bound d k (values ++ more) = bound d k values ++ bound d (k + values.length) more := by
  induction values generalizing k with
  | nil => rfl
  | cons value rest ih =>
    rw [List.cons_append, bound, ih, bound, List.cons_append, List.length_cons, Nat.add_assoc,
      Nat.add_comm 1]

theorem length_binding (s : Statement) (values : List Value) :
    (s.binding d values).parameters.length = s.parameters.length + values.length := by
  rw [Statement.binding, List.length_append, length_bound]

theorem binding_nil (s : Statement) : s.binding d [] = s := by
  rw [Statement.binding, bound, List.append_nil]

/-- Values can be bound in two portions. -/
theorem binding_append (s : Statement) (values more : List Value) :
    s.binding d (values ++ more) = (s.binding d values).binding d more := by
  rw [Statement.binding, bound_append, ← length_binding d s, ← List.append_assoc]
  rfl

/-! ## Offences -/

/-- Why a leaf cannot be rendered: it lists no value, or one that is no text. -/
def offence (leaf : String × List Value) : Option QueryError :=
  if leaf.2 = [] then some (.emptyInList leaf.1)
  else (leaf.2.find? fun v => v.text?.isNone).map fun v => .unsupportedValue leaf.1 v.typeName

/-- A leaf gives no offence when it lists values, and texts only. -/
theorem offence_eq_none_iff {leaf : String × List Value} :
    offence leaf = none ↔ leaf.2 ≠ [] ∧ ∀ v ∈ leaf.2, ∃ t, v = .text t := by
  have htext (v : Value) : ¬v.text?.isNone = true ↔ ∃ t, v = .text t := by
    cases v with
    | text t => exact iff_of_true Bool.false_ne_true ⟨t, rfl⟩
    | _ => exact iff_of_false (fun h => h rfl) (fun ⟨t, ht⟩ => nomatch ht)
  by_cases hne : leaf.2 = []
  · rw [offence, if_pos hne]
    exact iff_of_false (fun h => nomatch h) fun h => h.1 hne
  · rw [offence, if_neg hne, Option.map_eq_none_iff, List.find?_eq_none]
    simp only [htext]
    exact ⟨fun h => ⟨hne, h⟩, fun h => h.2⟩

/-- The values of the leaves before the first one that gives offence. -/
def accepted : List (String × List Value) → List Value
  | [] => []
  | leaf :: rest => (offence leaf).elim (leaf.2 ++ accepted rest) fun _ => []

/-- Behind leaves without offence more values can be accepted. -/
theorem accepted_append_of_none {leaves : List (String × List Value)}
    (h : leaves.findSome? offence = none) (more : List (String × List Value)) :
    accepted (leaves ++ more) = accepted leaves ++ accepted more := by
  induction leaves with
  | nil => rfl
  | cons leaf rest ih =>
    rw [List.findSome?_cons] at h
    rw [List.cons_append, accepted, accepted]
    cases hleaf : offence leaf with
    | some e => rw [hleaf] at h; exact nomatch h
    | none =>
      rw [hleaf] at h
      rw [ih h, Option.elim_none, Option.elim_none, List.append_assoc]

/-- Behind an offence no value is accepted. -/
theorem accepted_append_of_some {leaves : List (String × List Value)} {e : QueryError}
    (h : leaves.findSome? offence = some e) (more : List (String × List Value)) :
    accepted (leaves ++ more) = accepted leaves := by
  induction leaves with
  | nil => exact nomatch h
  | cons leaf rest ih =>
    rw [List.findSome?_cons] at h
    rw [List.cons_append, accepted, accepted]
    cases hleaf : offence leaf with
    | some e' => rfl
    | none =>
      rw [hleaf] at h
      rw [ih h]

/-- Without an offence all values are accepted. -/
theorem accepted_eq_flatMap {leaves : List (String × List Value)}
    (h : leaves.findSome? offence = none) : accepted leaves = leaves.flatMap Prod.snd := by
  induction leaves with
  | nil => rfl
  | cons leaf rest ih =>
    rw [List.findSome?_cons] at h
    rw [accepted, List.flatMap_cons]
    cases hleaf : offence leaf with
    | some e => rw [hleaf] at h; exact nomatch h
    | none =>
      rw [hleaf] at h
      rw [ih h, Option.elim_none]

/-! ## Leaves -/

/-- Texts can be bound, and the first value that is none is refused. -/
theorem checkAllBindable_eq (key : String) (values : List Value) :
    Statement.checkAllBindable key values =
      ((values.find? fun v => v.text?.isNone).map
        fun v => .unsupportedValue key v.typeName).elim (.ok ()) .error := by
  induction values with
  | nil => rfl
  | cons value rest ih =>
    cases value with
    | text t => exact ih
    | _ => rfl

/-- Values are bound to the placeholders that come next. -/
theorem bindAll_run (values : List Value) (s : Statement) :
    Statement.bindAll d values s =
      ⟨.ok (placeholders d s.parameters.length values.length), s.binding d values, []⟩ := by
  induction values generalizing s with
  | nil => rw [binding_nil]; rfl
  | cons value rest ih =>
    have hfirst : Statement.bindValue d value s =
        ⟨.ok (d.placeholder s.parameters.length), s.binding d [value], []⟩ := rfl
    rw [Statement.bindAll, Act.bind_ok_silent hfirst, Act.bind_ok_silent (ih (s.binding d [value])),
      ← binding_append, length_binding]
    exact congrArg (fun names => Outcome.mk (.ok names) _ []) (placeholders_succ d _ _).symm

/-- An equality is rendered with the next placeholder. -/
theorem renderEq_run (key : String) (value : Value) (s : Statement) :
    Statement.renderEq d key value s =
      ⟨(offence (key, [value])).elim (.ok (place d s.parameters.length (.eq key value)).text)
          .error,
        s.binding d (accepted [(key, [value])]), []⟩ := by
  cases value with
  | text t => rfl
  | _ => exact congrArg (Outcome.mk _ · []) (binding_nil d s).symm

/-- A membership is rendered with the placeholders that come next. -/
theorem renderIn_run (key : String) (values : List Value) (s : Statement) :
    Statement.renderIn d key values s =
      ⟨(offence (key, values)).elim (.ok (place d s.parameters.length (.isIn key values)).text)
          .error,
        s.binding d (accepted [(key, values)]), []⟩ := by
  cases values with
  | nil => exact congrArg (Outcome.mk _ · []) (binding_nil d s).symm
  | cons value rest =>
    rw [Statement.renderIn, if_neg (by simp), accepted, offence, if_neg (List.cons_ne_nil _ _),
      Act.bind_elim (Act.ofExcept_run _ s |>.trans (by rw [checkAllBindable_eq]))]
    -- all values are checked before the first is bound, so an offence binds none of them
    cases (value :: rest).find? fun v => v.text?.isNone with
    | some v => exact congrArg (Outcome.mk _ · []) (binding_nil d s).symm
    | none =>
      rw [Option.map_none, Option.elim_none, Act.bind_ok_silent (bindAll_run d _ s), accepted,
        Option.elim_none, List.append_nil]
      rfl

/-! ## Filters -/

/-- Rendering filters in turn binds their values in turn, up to the first offence, once that is so
    of each. -/
theorem renderAll_run {children : List Filter}
    (ih : ∀ c ∈ children, ∀ s, (Statement.backend d).render c s =
      ⟨(c.leaves.findSome? offence).elim (.ok (place d s.parameters.length c).fragment) .error,
        s.binding d (accepted c.leaves), []⟩) (s : Statement) :
    (Statement.backend d).renderAll children s =
      ⟨((Filter.childLeaves children).findSome? offence).elim
          (.ok ((placeAll d s.parameters.length children).map Predicate.fragment)) .error,
        s.binding d (accepted (Filter.childLeaves children)), []⟩ := by
  induction children generalizing s with
  | nil => rw [Filter.childLeaves, accepted, binding_nil]; rfl
  | cons child rest ihrest =>
    obtain ⟨hchild, hrest⟩ := List.forall_mem_cons.mp ih
    rw [Backend.renderAll, Filter.childLeaves, List.findSome?_append, Act.bind_elim (hchild s)]
    cases hoffence : child.leaves.findSome? offence with
    | some e =>
      rw [accepted_append_of_some hoffence]
      rfl
    | none =>
      -- the child has bound all its values, so the next one is placed behind them
      have hvalues : accepted child.leaves = child.values := accepted_eq_flatMap hoffence
      rw [Option.elim_none, Option.none_or, Act.bind_elim (ihrest hrest _),
        accepted_append_of_none hoffence, binding_append, length_binding, hvalues]
      cases (Filter.childLeaves rest).findSome? offence <;> rfl

/-- Rendering a filter gives the text of its predicate and binds its values, up to the first
    offence among its leaves. -/
theorem render_run (f : Filter) (s : Statement) :
    (Statement.backend d).render f s =
      ⟨(f.leaves.findSome? offence).elim (.ok (place d s.parameters.length f).fragment) .error,
        s.binding d (accepted f.leaves), []⟩ := by
  induction f generalizing s with
  | eq key value =>
    have hleaf : (Statement.backend d).eq key value s = _ := renderEq_run d key value s
    rw [Backend.render, Act.bind_elim hleaf, Filter.leaves, List.findSome?_singleton]
    cases offence (key, [value]) <;> rfl
  | isIn key values =>
    have hleaf : (Statement.backend d).isIn key values s = _ := renderIn_run d key values s
    rw [Backend.render, Act.bind_elim hleaf, Filter.leaves, List.findSome?_singleton]
    cases offence (key, values) <;> rfl
  | compound connective children ih =>
    -- a compound binds nothing of its own: it joins what its children came to
    have hchildren := renderAll_run d ih s
    cases connective with
    | all | any =>
      rw [Filter.compound, Backend.render, Act.bind_elim hchildren, Filter.leaves, place,
        Predicate.fragment, Predicate.text, fragments_eq_map]
      cases (Filter.childLeaves children).findSome? offence <;> rfl

/-! ## Compiling -/

/-- A query is compiled from its predicate text, where there is one. -/
theorem compile_of_predicate {σ : Type} {collection text : String} {q : Query} {t : Statement}
    {refusal : Option QueryError}
    (h : (Statement.backend d).predicate q { collection }
      = ⟨refusal.elim (.ok text) .error, t, []⟩) (s : σ) :
    (Statement.compile d collection q s).result = refusal.elim
      (.ok { t with
        text := Statement.selectText d t.collection text q.sort
        options := Statement.optionsOf q.page }) .error := by
  rw [Statement.compile, Act.within, Backend.build, Act.bind_elim h]
  cases refusal <;> rfl

/-- A query without a filter always compiles. -/
theorem compile_unfiltered {σ : Type} {q : Query} (hq : q.filter = none) (collection : String)
    (s : σ) :
    (Statement.compile d collection q s).result =
      .ok ⟨collection, Statement.selectText d collection "" q.sort, [],
        Statement.optionsOf q.page⟩ := by
  have hpredicate : (Statement.backend d).predicate q { collection }
      = ⟨(none : Option QueryError).elim (.ok "") .error, { collection }, []⟩ := by
    rw [Backend.predicate, hq]
    rfl
  rw [compile_of_predicate d hpredicate]
  rfl

/-- A query with a filter compiles unless a leaf gives offence. -/
theorem compile_filtered {σ : Type} {q : Query} {f : Filter} (hq : q.filter = some f)
    (collection : String) (s : σ) :
    (Statement.compile d collection q s).result = (f.leaves.findSome? offence).elim
      (.ok ⟨collection, Statement.selectText d collection (place d 0 f).text q.sort,
        bound d 0 (accepted f.leaves), Statement.optionsOf q.page⟩) .error := by
  have hpredicate : (Statement.backend d).predicate q { collection }
      = ⟨(f.leaves.findSome? offence).elim (.ok (place d 0 f).text) .error,
        Statement.binding d { collection } (accepted f.leaves), []⟩ := by
    rw [Backend.predicate, hq]
    show ((Statement.backend d).render f >>= _) _ = _
    rw [Act.bind_elim (render_run d f _)]
    cases f.leaves.findSome? offence <;> rfl
  rw [compile_of_predicate d hpredicate]
  rfl

end StoreQuery.Sql
