import StoreQuery.Backend
import StoreQuery.Proofs.Act
import StoreQuery.Proofs.Filter.Basic

/-! # The walk of a backend — post-order, one visit a node, up to the first failure

    Nothing is assumed of the backend: it may keep any state, give any text
    and fail at any visit, or leave an operator out.  To speak of the calls
    that a build makes, the backend is given a log: `b.recorded` does what `b`
    does and writes down every call with its outcome.

    `postorder` lists the visits that a filter asks for.  What a compound is
    given depends on what its children gave, so the list is a function of
    the texts so far.  `Traces` says that an act follows such a list: it makes
    the visits in their order until one fails, and passes no other state on.
    The rule for a sequence of acts (`Traces.bind`) puts their lists one behind
    the other, and with it the walk is an induction on the filter
    (`render_traces`). -/

namespace StoreQuery

namespace Filter

mutual

/-- How many nodes a filter has. -/
def size : Filter → Nat
  | .eq _ _ => 1
  | .isIn _ _ => 1
  | .all children => childSize children + 1
  | .any children => childSize children + 1

/-- How many nodes several filters have. -/
def childSize : List Filter → Nat
  | [] => 0
  | child :: rest => size child + childSize rest

end

/-- The kind of fragment that a filter is rendered to. -/
def kind : Filter → FragmentKind
  | .eq _ _ => .leaf
  | .isIn _ _ => .leaf
  | .all _ => .all
  | .any _ => .any

end Filter

namespace Backend

/-! ## Visits -/

/-- A call that renders one node. -/
inductive Visit where
  | eq (key : String) (value : Value)
  | isIn (key : String) (values : List Value)
  | all (children : List Fragment)
  | any (children : List Fragment)

/-- What a filter was rendered to, when its visits gave these texts: its root is visited last. -/
def root (texts : List String) (f : Filter) : Fragment :=
  ⟨texts.getD (f.size - 1) "", f.kind⟩

/-- What filters were rendered to, when their visits one after the other gave these texts. -/
def roots (texts : List String) : List Filter → List Fragment
  | [] => []
  | child :: rest => root texts child :: roots (texts.drop child.size) rest

mutual

/-- The visits of a filter, one for each node, children before their parent and from left to right,
    when the visits so far gave these texts. -/
def postorder (texts : List String) : Filter → List Visit
  | .eq key value => [.eq key value]
  | .isIn key values => [.isIn key values]
  | .all children => childPostorder texts children ++ [.all (roots texts children)]
  | .any children => childPostorder texts children ++ [.any (roots texts children)]

/-- The visits of filters, one filter after the other. -/
def childPostorder (texts : List String) : List Filter → List Visit
  | [] => []
  | child :: rest => postorder texts child ++ childPostorder (texts.drop child.size) rest

end

theorem length_childPostorder_of {children : List Filter}
    (ih : ∀ c ∈ children, ∀ texts, (postorder texts c).length = c.size) (texts : List String) :
    (childPostorder texts children).length = Filter.childSize children := by
  induction children generalizing texts with
  | nil => rfl
  | cons child rest ihrest =>
    obtain ⟨hchild, hrest⟩ := List.forall_mem_cons.mp ih
    rw [childPostorder, List.length_append, hchild texts, ihrest hrest, Filter.childSize]

/-- Every node has one visit. -/
theorem length_postorder (f : Filter) (texts : List String) :
    (postorder texts f).length = f.size := by
  induction f generalizing texts with
  | eq key value => rfl
  | isIn key values => rfl
  | compound connective children ih =>
    have hchildren := length_childPostorder_of ih texts
    cases connective with
    | all | any =>
      rw [Filter.compound, postorder, List.length_append, hchildren, Filter.size]
      rfl

theorem length_childPostorder (children : List Filter) (texts : List String) :
    (childPostorder texts children).length = Filter.childSize children :=
  length_childPostorder_of (fun child _ => length_postorder child) texts

/-! ## Recorded backends -/

variable {σ α β : Type}

/-- The act of a visit. -/
def perform (b : Backend σ) : Visit → Act QueryError σ String
  | .eq key value => b.eq key value
  | .isIn key values => b.isIn key values
  | .all children => b.all children
  | .any children => b.any children

/-- A visit and what it came to. -/
structure Visited (σ : Type) where
  visit : Visit
  out : Outcome QueryError σ String

/-- A call of a backend and what it came to. -/
inductive Call (σ : Type) where
  | visit (visited : Visited σ)
  | finish (text : String) (q : Query) (out : Outcome QueryError σ Unit)

/-- A visit that is written down. -/
def note (b : Backend σ) (visit : Visit) : Act QueryError (σ × List (Call σ)) String :=
  fun (s, calls) =>
    let out := b.perform visit s
    ⟨out.result, (out.state, calls ++ [.visit ⟨visit, out⟩]), out.events⟩

/-- The same backend with a log of its calls. -/
def recorded (b : Backend σ) : Backend (σ × List (Call σ)) where
  eq key value := b.note (.eq key value)
  isIn key values := b.note (.isIn key values)
  all children := b.note (.all children)
  any children := b.note (.any children)
  finish text q := fun (s, calls) =>
    let out := b.finish text q s
    ⟨out.result, (out.state, calls ++ [.finish text q out]), out.events⟩

/-- Whether a visit gave a text. -/
def Visited.succeeded (v : Visited σ) : Bool :=
  v.out.result.isOk

/-- The texts that visits gave. -/
def textsOf (visited : List (Visited σ)) : List String :=
  visited.filterMap fun v => v.out.result.toOption

/-- The state that visits leave. -/
def stateBehind (s : σ) (visited : List (Visited σ)) : σ :=
  visited.foldl (fun _ v => v.out.state) s

/-- Each visit was made on the state that the one before it left. -/
def Performed (b : Backend σ) : σ → List (Visited σ) → Prop
  | _, [] => True
  | s, v :: rest => v.out = b.perform v.visit s ∧ Performed b v.out.state rest

theorem textsOf_append (visited more : List (Visited σ)) :
    textsOf (visited ++ more) = textsOf visited ++ textsOf more :=
  List.filterMap_append

/-- A visit that failed gave no text. -/
theorem textsOf_failed {last : Visited σ} {e : QueryError} (h : last.out.result = .error e)
    (earlier : List (Visited σ)) : textsOf (earlier ++ [last]) = textsOf earlier := by
  rw [textsOf_append, textsOf, textsOf, List.filterMap_cons_none (by rw [h]; rfl),
    List.filterMap_nil, List.append_nil]

/-- Visits that all succeeded gave one text each. -/
theorem length_textsOf {visited : List (Visited σ)} (h : ∀ v ∈ visited, v.succeeded = true) :
    (textsOf visited).length = visited.length := by
  induction visited with
  | nil => rfl
  | cons v rest ih =>
    obtain ⟨hv, hrest⟩ := List.forall_mem_cons.mp h
    obtain ⟨visit, ⟨result, s, events⟩⟩ := v
    cases result with
    | error e => exact nomatch hv
    | ok text => exact congrArg (· + 1) (ih hrest)

theorem stateBehind_append (s : σ) (visited more : List (Visited σ)) :
    stateBehind s (visited ++ more) = stateBehind (stateBehind s visited) more :=
  List.foldl_append

theorem performed_append {b : Backend σ} {s : σ} {visited more : List (Visited σ)}
    (h : Performed b s visited) (hmore : Performed b (stateBehind s visited) more) :
    Performed b s (visited ++ more) := by
  induction visited generalizing s with
  | nil => exact hmore
  | cons v rest ih => exact ⟨h.1, ih h.2 hmore⟩

/-! ## Walks -/

/-- The visits that were made are those of the plan, up to the first that failed: then the error is
    its error, and otherwise the result is the planned one. -/
inductive Walks (plan : List String → List Visit) (value : List String → α) :
    List (Visited σ) → Except QueryError α → Prop where
  | completed {visited : List (Visited σ)} {x : α} :
      (∀ v ∈ visited, v.succeeded = true) →
      (∀ more, plan (textsOf visited ++ more) = visited.map Visited.visit
        ∧ value (textsOf visited ++ more) = x) →
      Walks plan value visited (.ok x)
  | stopped {earlier : List (Visited σ)} {last : Visited σ} {e : QueryError} :
      (∀ v ∈ earlier, v.succeeded = true) → last.out.result = .error e →
      (∀ more, (earlier ++ [last]).map Visited.visit <+: plan (textsOf earlier ++ more)) →
      Walks plan value (earlier ++ [last]) (.error e)

section Sequence

variable {plan₁ : List String → List Visit} {value₁ : List String → α}
  {plan₂ : α → List String → List Visit} {value₂ : α → List String → β} {n : Nat}

/-- A walk that is completed goes on with the next one. -/
theorem Walks.append {visited more : List (Visited σ)} {x : α} {result : Except QueryError β}
    (hlength : ∀ texts, (plan₁ texts).length = n) (h₁ : Walks plan₁ value₁ visited (.ok x))
    (h₂ : Walks (plan₂ x) (value₂ x) more result) :
    Walks (fun texts => plan₁ texts ++ plan₂ (value₁ texts) (texts.drop n))
      (fun texts => value₂ (value₁ texts) (texts.drop n)) (visited ++ more) result := by
  cases h₁ with
  | completed hok hplan =>
    -- the first plan uses up the texts of its own visits, one for each
    have hn : (textsOf visited).length = n := by
      rw [length_textsOf hok, ← hlength (textsOf visited ++ []), (hplan []).1, List.length_map]
    have hdrop (texts : List String) : (textsOf visited ++ texts).drop n = texts := by
      rw [← hn, List.drop_left]
    cases h₂ with
    | completed hok' hplan' =>
      refine .completed (List.forall_mem_append.mpr ⟨hok, hok'⟩) fun texts => ?_
      rw [textsOf_append, List.append_assoc, (hplan _).1, (hplan _).2, hdrop, (hplan' _).1,
        (hplan' _).2, List.map_append]
      exact ⟨rfl, rfl⟩
    | stopped hok' hlast hplan' =>
      rw [← List.append_assoc]
      refine .stopped (List.forall_mem_append.mpr ⟨hok, hok'⟩) hlast fun texts => ?_
      rw [List.append_assoc, List.map_append, textsOf_append, List.append_assoc (textsOf visited),
        (hplan _).1, (hplan _).2, hdrop]
      exact (List.prefix_append_right_inj _).mpr (hplan' texts)

/-- A walk that is stopped goes no further. -/
theorem Walks.abandon {visited : List (Visited σ)} {e : QueryError}
    (h : Walks plan₁ value₁ visited (.error e)) :
    Walks (fun texts => plan₁ texts ++ plan₂ (value₁ texts) (texts.drop n))
      (fun texts => value₂ (value₁ texts) (texts.drop n)) visited (.error e) := by
  cases h with
  | stopped hok hlast hplan =>
    exact .stopped hok hlast fun texts => (hplan texts).trans (List.prefix_append _ _)

end Sequence

/-- An act beside a log does what the plain act does, makes the visits of a plan up to the first
    that fails, and changes the state by nothing else. -/
structure Traces (b : Backend σ) (act : Act QueryError (σ × List (Call σ)) α)
    (plain : Act QueryError σ α) (plan : List String → List Visit) (value : List String → α) :
    Prop where
  unnoticed : ∀ s calls,
    plain s = ⟨(act (s, calls)).result, (act (s, calls)).state.1, (act (s, calls)).events⟩
  walks : ∀ s calls, ∃ visited, Walks plan value visited (act (s, calls)).result
    ∧ Performed b s visited
    ∧ (act (s, calls)).state = (stateBehind s visited, calls ++ visited.map Call.visit)

theorem traces_pure (b : Backend σ) (x : α) :
    Traces b (pure x) (pure x) (fun _ => []) (fun _ => x) where
  unnoticed _ _ := rfl
  walks s calls := by
    refine ⟨[], .completed (List.forall_mem_nil _) fun _ => ⟨rfl, rfl⟩, trivial, ?_⟩
    exact congrArg (Prod.mk s) (List.append_nil calls).symm

/-- A single visit is its own plan, and gives its own text. -/
theorem traces_note (b : Backend σ) (visit : Visit) :
    Traces b (b.note visit) (b.perform visit) (fun _ => [visit])
      (fun texts => texts.getD 0 "") where
  unnoticed _ _ := rfl
  walks s calls := by
    refine ⟨[⟨visit, b.perform visit s⟩], ?_, ⟨rfl, trivial⟩, rfl⟩
    show Walks _ _ _ (b.perform visit s).result
    cases hresult : (b.perform visit s).result with
    | error e =>
      have hnone : ∀ v ∈ ([] : List (Visited σ)), v.succeeded = true := List.forall_mem_nil _
      exact .stopped hnone hresult fun _ => List.prefix_rfl
    | ok text =>
      have htexts : textsOf [⟨visit, b.perform visit s⟩] = [text] := by
        rw [textsOf, List.filterMap_cons_some (b := text) (by rw [hresult]; rfl),
          List.filterMap_nil]
      refine .completed (List.forall_mem_singleton.mpr ?_) fun more => ⟨rfl, ?_⟩
      · rw [Visited.succeeded, hresult]
        rfl
      · rw [htexts]
        rfl

/-- A sequence of acts makes the visits of the first and then those of the second. -/
theorem Traces.bind {b : Backend σ} {act : Act QueryError (σ × List (Call σ)) α}
    {plain : Act QueryError σ α} {next : α → Act QueryError (σ × List (Call σ)) β}
    {plainNext : α → Act QueryError σ β} {plan₁ : List String → List Visit}
    {value₁ : List String → α} {plan₂ : α → List String → List Visit}
    {value₂ : α → List String → β} {n : Nat} (hlength : ∀ texts, (plan₁ texts).length = n)
    (h₁ : Traces b act plain plan₁ value₁)
    (h₂ : ∀ x, Traces b (next x) (plainNext x) (plan₂ x) (value₂ x)) :
    Traces b (act >>= next) (plain >>= plainNext)
      (fun texts => plan₁ texts ++ plan₂ (value₁ texts) (texts.drop n))
      (fun texts => value₂ (value₁ texts) (texts.drop n)) where
  unnoticed s calls := by
    have hplain := h₁.unnoticed s calls
    cases hact : act (s, calls) with
    | mk result t events =>
      rw [hact] at hplain
      cases result with
      | error e => rw [Act.bind_error hplain, Act.bind_error hact]
      | ok x =>
        rw [Act.bind_ok hplain, Act.bind_ok hact, (h₂ x).unnoticed t.1 t.2]
  walks s calls := by
    obtain ⟨visited, hwalks, hperformed, hstate⟩ := h₁.walks s calls
    cases hact : act (s, calls) with
    | mk result t events =>
      rw [hact] at hwalks hstate
      cases result with
      | error e =>
        rw [Act.bind_error hact]
        exact ⟨visited, hwalks.abandon, hperformed, hstate⟩
      | ok x =>
        -- the second act starts where the first one left the state and the log
        obtain ⟨more, hmore, hperformed', hstate'⟩ :=
          (h₂ x).walks (stateBehind s visited) (calls ++ visited.map Call.visit)
        rw [← hstate] at hmore hstate'
        rw [Act.bind_ok hact]
        refine ⟨visited ++ more, hwalks.append hlength hmore,
          performed_append hperformed hperformed', ?_⟩
        show (next x t).state = _
        rw [hstate', stateBehind_append, List.map_append, List.append_assoc]

/-- Changing what an act gives changes none of its visits. -/
theorem Traces.map {b : Backend σ} {act : Act QueryError (σ × List (Call σ)) α}
    {plain : Act QueryError σ α} {plan : List String → List Visit} {value : List String → α}
    {n : Nat} (hlength : ∀ texts, (plan texts).length = n) (h : Traces b act plain plan value)
    (f : α → β) :
    Traces b (act >>= fun x => pure (f x)) (plain >>= fun x => pure (f x)) plan
      (fun texts => f (value texts)) := by
  have hbind := h.bind hlength fun x => traces_pure b (f x)
  simp only [List.append_nil] at hbind
  exact hbind

/-! ## The walk over a filter -/

/-- Rendering filters in turn makes the visits of each in turn, once that is so of each. -/
theorem renderAll_traces (b : Backend σ) {children : List Filter}
    (ih : ∀ c ∈ children,
      Traces b (b.recorded.render c) (b.render c) (postorder · c) (root · c)) :
    Traces b (b.recorded.renderAll children) (b.renderAll children) (childPostorder · children)
      (roots · children) := by
  induction children with
  | nil => exact traces_pure b []
  | cons child rest ihrest =>
    obtain ⟨hchild, hrest⟩ := List.forall_mem_cons.mp ih
    exact hchild.bind (length_postorder child) fun fragment =>
      (ihrest hrest).map (length_childPostorder rest) (fragment :: ·)

/-- A compound is visited behind its children, with what they were rendered to. -/
theorem compound_traces (b : Backend σ) {children : List Filter}
    (ih : ∀ c ∈ children,
      Traces b (b.recorded.render c) (b.render c) (postorder · c) (root · c))
    (visit : List Fragment → Visit) (kind : FragmentKind) :
    Traces b
      (b.recorded.renderAll children >>= fun fragments =>
        b.note (visit fragments) >>= fun text => pure (Fragment.mk text kind))
      (b.renderAll children >>= fun fragments =>
        b.perform (visit fragments) >>= fun text => pure (Fragment.mk text kind))
      (fun texts => childPostorder texts children ++ [visit (roots texts children)])
      (fun texts => Fragment.mk (texts.getD (Filter.childSize children) "") kind) := by
  have hbind := (renderAll_traces b ih).bind (length_childPostorder children) fun fragments =>
    (traces_note b (visit fragments)).map (fun _ => rfl) (Fragment.mk · kind)
  -- the text of the compound comes right behind those of its children
  have htext (texts : List String) :
      (texts.drop (Filter.childSize children)).getD 0 ""
        = texts.getD (Filter.childSize children) "" := by
    rw [List.getD_eq_getElem?_getD, List.getElem?_drop, Nat.add_zero,
      ← List.getD_eq_getElem?_getD]
  simp only [htext] at hbind
  exact hbind

/-- Rendering a filter makes the visits of its nodes in post-order. -/
theorem render_traces (b : Backend σ) (f : Filter) :
    Traces b (b.recorded.render f) (b.render f) (postorder · f) (root · f) := by
  induction f with
  | eq key value =>
    exact (traces_note b (.eq key value)).map (fun _ => rfl) (Fragment.mk · .leaf)
  | isIn key values =>
    exact (traces_note b (.isIn key values)).map (fun _ => rfl) (Fragment.mk · .leaf)
  | compound connective children ih =>
    cases connective with
    | all => exact compound_traces b ih .all .all
    | any => exact compound_traces b ih .any .any

/-! ## Whole builds -/

/-- The visits of a query are those of its filter. -/
def visitsOf (q : Query) (texts : List String) : List Visit :=
  q.filter.elim [] (postorder texts)

/-- The predicate text of a query is that of its filter's root. -/
def rootText (q : Query) (texts : List String) : String :=
  q.filter.elim "" fun f => (root texts f).text

theorem length_visitsOf (q : Query) (texts : List String) :
    (visitsOf q texts).length = q.filter.elim 0 Filter.size := by
  rw [visitsOf]
  cases q.filter with
  | none => rfl
  | some f => exact length_postorder f texts

theorem predicate_traces (b : Backend σ) (q : Query) :
    Traces b (b.recorded.predicate q) (b.predicate q) (visitsOf q) (rootText q) := by
  obtain ⟨filter, sort, page⟩ := q
  cases filter with
  | none => exact traces_pure b ""
  | some f => exact (render_traces b f).map (length_postorder f) Fragment.text

/-- The root is visited last. -/
theorem rootText_eq_getLast {q : Query} {texts : List String}
    (h : texts.length = q.filter.elim 0 Filter.size) :
    rootText q texts = texts.getLast?.getD "" := by
  rw [rootText]
  cases hq : q.filter with
  | none =>
    rw [hq] at h
    rw [List.length_eq_zero_iff.mp h]
    rfl
  | some f =>
    rw [hq] at h
    rw [List.getLast?_eq_getElem?, h, Option.elim_some, root, List.getD_eq_getElem?_getD]
    rfl

/-- A build whose predicate fails ends there. -/
theorem build_failed {b : Backend σ} {q : Query} {s s' : σ} {e : QueryError} {events : List Event}
    (h : b.predicate q s = ⟨.error e, s', events⟩) : b.build q s = ⟨.error e, s', events⟩ := by
  rw [build, Act.bind_error h]

/-- A build finishes with the predicate text, and comes to what that comes to. -/
theorem build_finished {b : Backend σ} {q : Query} {s s' : σ} {text : String}
    {events : List Event} (h : b.predicate q s = ⟨.ok text, s', events⟩) :
    b.build q s = ⟨(b.finish text q s').result, (b.finish text q s').state,
      events ++ (⟨.debug, "Assembled predicate: " ++ text⟩ :: (b.finish text q s').events)⟩ := by
  rw [build, Act.bind_ok h, Act.bind_ok (Act.emit_run _ _ s')]
  rfl

/-- A build visits the nodes of its filter in post-order, each on the state that the visit before it
    left, and gives every compound what its children were rendered to.  Either a visit fails: it is
    the last call, its error is the error of the build, and the state is as it left it.  Or every
    node has been visited: then the query is finished, once and last, with the text of the root, and
    the build comes to what that comes to. -/
theorem build_visits_in_postorder (b : Backend σ) (q : Query) (s : σ) :
    ∃ visited : List (Visited σ),
      let out := b.recorded.build q (s, [])
      b.build q s = ⟨out.result, out.state.1, out.events⟩
      ∧ Performed b s visited
      ∧ visited.map Visited.visit <+: visitsOf q (textsOf visited)
      ∧ ((∃ earlier last e, visited = earlier ++ [last]
          ∧ (∀ v ∈ earlier, v.succeeded = true) ∧ last.out.result = .error e
          ∧ out.result = .error e ∧ out.state = (last.out.state, visited.map Call.visit))
        ∨ ((∀ v ∈ visited, v.succeeded = true)
          ∧ visited.map Visited.visit = visitsOf q (textsOf visited)
          ∧ visited.length = q.filter.elim 0 Filter.size
          ∧ ∃ text fin, text = (textsOf visited).getLast?.getD ""
            ∧ fin = b.finish text q (stateBehind s visited) ∧ out.result = fin.result
            ∧ out.state = (fin.state, visited.map Call.visit ++ [.finish text q fin]))) := by
  have htraces := predicate_traces b q
  obtain ⟨visited, hwalks, hperformed, hstate⟩ := htraces.walks s []
  have hplain := htraces.unnoticed s []
  refine ⟨visited, ?_⟩
  cases hpredicate : b.recorded.predicate q (s, []) with
  | mk result t events =>
    rw [hpredicate] at hwalks hplain hstate
    rw [List.nil_append] at hstate
    cases result with
    | error e =>
      -- a visit failed: the walk was stopped there, and the build ends with it
      rw [build_failed hpredicate, build_failed hplain]
      cases hwalks with
      | @stopped earlier last _ hok hlast hplan =>
        have hbegins := hplan []
        rw [List.append_nil, ← textsOf_failed hlast earlier] at hbegins
        refine ⟨rfl, hperformed, hbegins, Or.inl ⟨earlier, last, e, rfl, hok, hlast, rfl, ?_⟩⟩
        show t = _
        rw [show t = _ from hstate, stateBehind_append]
        rfl
    | ok text =>
      -- the walk was completed: its last text is the root's, and the finish is given that
      rw [build_finished hpredicate, build_finished hplain]
      cases hwalks with
      | completed hok hplan =>
        have hmade := hplan []
        rw [List.append_nil] at hmade
        have hlength : visited.length = q.filter.elim 0 Filter.size := by
          rw [← length_visitsOf q (textsOf visited), hmade.1, List.length_map]
        have htext : text = (textsOf visited).getLast?.getD "" := by
          rw [← hmade.2]
          exact rootText_eq_getLast ((length_textsOf hok).trans hlength)
        have ht : t = (stateBehind s visited, visited.map Call.visit) := hstate
        rw [ht]
        refine ⟨rfl, hperformed, hmade.1 ▸ List.prefix_rfl, Or.inr ⟨hok, hmade.1.symm, hlength, ?_⟩⟩
        exact ⟨text, _, htext, rfl, rfl, rfl⟩

/-- A backend that renders equalities only refuses the first membership, and goes no further. -/
example :
    let equalities : Backend (List String) :=
      { eq := fun key _ seen => ⟨.ok key, seen ++ [key], []⟩, finish := fun _ _ => pure () }
    let out := equalities.build
      { filter := some (.any [.eq "a" .null, .isIn "b" [], .eq "c" .null]) } []
    out.result = .error (.unsupportedFilter .isIn) ∧ out.state = ["a"] :=
  ⟨rfl, rfl⟩

end Backend

end StoreQuery
