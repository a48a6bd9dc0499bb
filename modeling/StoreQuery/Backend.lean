import StoreQuery.Act
import StoreQuery.Query

/-! # Backends — rendering a query for a store

    A backend renders the nodes of a filter one by one, children before
    their parent and from left to right, and then finishes the query from
    the predicate text.  It keeps a state of its own between these steps,
    such as the parameters that are bound so far.  An operator that a
    backend does not render is refused. -/

namespace StoreQuery

/-- The kind of node that a rendered text came from. -/
inductive FragmentKind where
  | leaf
  | all
  | any
deriving DecidableEq

/-- The rendered text of a node. -/
structure Fragment where
  text : String
  kind : FragmentKind
deriving DecidableEq

/-- Whether a fragment came from a compound filter. -/
def Fragment.isCompound (f : Fragment) : Bool :=
  f.kind != .leaf

/-- How a query is rendered, with a state of type `σ`. -/
structure Backend (σ : Type) where
  /-- Renders an equality. -/
  eq : String → Value → Act QueryError σ String := fun _ _ => .fail (.unsupportedFilter .eq)
  /-- Renders a membership. -/
  isIn : String → List Value → Act QueryError σ String := fun _ _ =>
    .fail (.unsupportedFilter .isIn)
  /-- Renders a conjunction from its rendered children. -/
  all : List Fragment → Act QueryError σ String := fun _ => .fail (.unsupportedFilter .all)
  /-- Renders a disjunction from its rendered children. -/
  any : List Fragment → Act QueryError σ String := fun _ => .fail (.unsupportedFilter .any)
  /-- Finishes the query from the predicate text, which is empty if there is no filter. -/
  finish : String → Query → Act QueryError σ Unit

namespace Backend

variable {σ : Type}

mutual

/-- Renders a filter, children before their parent. -/
def render (b : Backend σ) : Filter → Act QueryError σ Fragment
  | .eq key value => do
      let text ← b.eq key value
      return ⟨text, .leaf⟩
  | .isIn key values => do
      let text ← b.isIn key values
      return ⟨text, .leaf⟩
  | .all children => do
      let fragments ← b.renderAll children
      let text ← b.all fragments
      return ⟨text, .all⟩
  | .any children => do
      let fragments ← b.renderAll children
      let text ← b.any fragments
      return ⟨text, .any⟩

/-- Renders filters from left to right. -/
def renderAll (b : Backend σ) : List Filter → Act QueryError σ (List Fragment)
  | [] => return []
  | child :: rest => do
      let fragment ← b.render child
      let fragments ← b.renderAll rest
      return fragment :: fragments

end

/-- The predicate text of a query. -/
def predicate (b : Backend σ) (q : Query) : Act QueryError σ String :=
  match q.filter with
  | some f => do
      let fragment ← b.render f
      return fragment.text
  | none => return ""

/-- Renders a query; the first node that fails ends it. -/
def build (b : Backend σ) (q : Query) : Act QueryError σ Unit := do
  let text ← b.predicate q
  Act.emit .debug ("Assembled predicate: " ++ text)
  b.finish text q

end Backend

end StoreQuery
