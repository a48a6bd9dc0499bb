import StoreQuery.Find.Request
import StoreQuery.Proofs.Act
import StoreQuery.Proofs.Filter.Basic
import StoreQuery.Proofs.Json.Spelling

/-! # Filter documents — what a find request holds

    `document f` is the filter document that a filter means, and
    `predicate f` the text that is assembled for it.  That text spells the
    document, so reading it gives the document back unless it nests too
    deep; and it is assembled unless a leaf gives offence, the first of
    which is the error.

    `compile_filtered` and `compile_unfiltered` put this together: they
    give the result of compiling any query. -/

namespace StoreQuery

/-- A value with a JSON form of its own: not a double that is infinite or no number. -/
def Value.Finite : Value → Prop
  | .float (.infinite _) => False
  | .float .nan => False
  | _ => True

instance : DecidablePred Value.Finite
  | .float (.infinite _) => isFalse id
  | .float .nan => isFalse id
  | .float (.finite _) => isTrue trivial
  | .text _ => isTrue trivial
  | .int _ => isTrue trivial
  | .uint _ => isTrue trivial
  | .bool _ => isTrue trivial
  | .null => isTrue trivial

namespace Find

/-! ## Documents and their text -/

mutual

/-- The filter document that a filter means. -/
def document : Filter → Json
  | .eq key value => .obj [(key, value.toJson)]
  | .isIn key values => .obj [(key, .obj [(inClause, .arr (values.map Value.toJson))])]
  | .all children => .obj [(andClause, .arr (documents children))]
  | .any children => .obj [(orClause, .arr (documents children))]

/-- The filter documents of several filters. -/
def documents : List Filter → List Json
  | [] => []
  | child :: rest => document child :: documents rest

end

mutual

/-- The text of a filter's document. -/
def predicate : Filter → String
  | .eq key value => Request.clause key value.toJson.compact
  | .isIn key values =>
      Request.clause key (Request.clause inClause
        (Request.bracketed (values.map fun v => v.toJson.compact)))
  | .all children => Request.clause andClause (Request.bracketed (predicates children))
  | .any children => Request.clause orClause (Request.bracketed (predicates children))

/-- The texts of several filters' documents. -/
def predicates : List Filter → List String
  | [] => []
  | child :: rest => predicate child :: predicates rest

end

theorem documents_eq_map (children : List Filter) : documents children = children.map document := by
  induction children with
  | nil => rfl
  | cons child rest ih => rw [documents, ih, List.map_cons]

theorem predicates_eq_map (children : List Filter) :
    predicates children = children.map predicate := by
  induction children with
  | nil => rfl
  | cons child rest ih => rw [predicates, ih, List.map_cons]

/-- The member of a document that joins others. -/
def clauseName : Connective → String
  | .all => andClause
  | .any => orClause

theorem document_compound (connective : Connective) (children : List Filter) :
    document (.compound connective children)
      = .obj [(clauseName connective, .arr (documents children))] := by
  cases connective <;> rw [Filter.compound, document, clauseName]

theorem predicate_compound (connective : Connective) (children : List Filter) :
    predicate (.compound connective children)
      = Request.clause (clauseName connective) (Request.bracketed (predicates children)) := by
  cases connective <;> rw [Filter.compound, predicate, clauseName]

/-! ## The text spells the document -/

open Json (Spells Blank Part separated)

/-- An object with one member, with spaces inside its braces and behind the colon. -/
theorem spells_clause {key content : String} {j : Json} (h : Spells j content.toList) :
    Spells (.obj [(key, j)]) (Request.clause key content).toList := by
  have hobj := Spells.obj [⟨key, j, ' ' :: content.toList⟩] (List.pairwise_singleton _ _)
    (fun p hp => by
      rw [List.mem_singleton.mp hp]
      exact Spells.space (u := [' ']) (by decide) h)
    (u := [' ']) (w := [' ']) (by decide) (by decide)
  have htext : (Request.clause key content).toList
      = '\x7b' :: (separated ([⟨key, j, ' ' :: content.toList⟩].map (Part.chars [' ']))
        ++ ([' '] ++ ['\x7d'])) := by
    simp [Request.clause, Request.quote, Json.compact, Json.chars, Json.quotation, separated,
      Part.chars, Part.tail]
  rw [htext]
  exact hobj

/-- Texts with a comma and a space between them are texts behind a space, with commas between
    them. -/
theorem intercalate_eq_separated (cs : List Char) (rest : List (List Char)) :
    ' ' :: [',', ' '].intercalate (cs :: rest) = separated ((cs :: rest).map (' ' :: ·)) := by
  induction rest generalizing cs with
  | nil => simp [separated]
  | cons d rest ih =>
    rw [List.map_cons, List.map_cons, Json.separated_cons_cons, ← List.map_cons, ← ih d,
      List.intercalate_cons_cons]
    simp

/-- The text of an array that is not empty. -/
theorem bracketed_toList (t : String) (ts : List String) :
    (Request.bracketed (t :: ts)).toList
      = '[' :: (separated ((t :: ts).map fun t => ' ' :: t.toList) ++ ([' '] ++ [']'])) := by
  have hspaced := intercalate_eq_separated t.toList (ts.map String.toList)
  rw [← List.map_cons, List.map_map] at hspaced
  rw [Request.bracketed, String.toList_append, String.toList_append, String.toList_intercalate,
    show (fun t : String => ' ' :: t.toList) = (' ' :: ·) ∘ String.toList from rfl, ← hspaced]
  rfl

/-- An array, with a space inside each bracket and behind each comma. -/
theorem spells_bracketed (parts : List (Json × String))
    (h : ∀ p ∈ parts, Spells p.1 p.2.toList) :
    Spells (.arr (parts.map Prod.fst)) (Request.bracketed (parts.map Prod.snd)).toList := by
  cases parts with
  | nil =>
    exact Spells.arr [] (w := [' ', ' ']) (fun _ hp => nomatch hp) (by decide)
  | cons p ps =>
    have harr := Spells.arr ((p :: ps).map fun q => (q.1, ' ' :: q.2.toList))
      (fun q hq => by
        obtain ⟨r, hr, rfl⟩ := List.mem_map.mp hq
        exact Spells.space (u := [' ']) (by decide) (h r hr)) (w := [' ']) (by decide)
    rw [List.map_map, List.map_map] at harr
    rw [List.map_cons (f := Prod.snd), bracketed_toList, ← List.map_cons, List.map_map]
    exact harr

/-- The JSON scalar of a value is spelled by its compact text. -/
theorem spells_value (v : Value) : Spells v.toJson v.toJson.compact.toList := by
  rw [Json.compact, String.toList_ofList]
  match v with
  | .text s => exact .str s
  | .int n => exact .num _
  | .uint n => exact .num _
  | .float (.finite d) => exact .num _
  | .float (.infinite _) => exact .null
  | .float .nan => exact .null
  | .bool b => exact .bool b
  | .null => exact .null

/-- Where each child's text spells its document, their texts in brackets spell the array. -/
theorem spells_children {children : List Filter}
    (ih : ∀ c ∈ children, Spells (document c) (predicate c).toList) :
    Spells (.arr (documents children)) (Request.bracketed (predicates children)).toList := by
  have h := spells_bracketed (children.map fun c => (document c, predicate c)) (by
    intro p hp
    obtain ⟨c, hc, rfl⟩ := List.mem_map.mp hp
    exact ih c hc)
  rw [List.map_map, List.map_map] at h
  rw [documents_eq_map, predicates_eq_map]
  exact h

/-- The text of a filter spells its document. -/
theorem spells_predicate (f : Filter) : Spells (document f) (predicate f).toList := by
  induction f with
  | eq key value => exact spells_clause (spells_value value)
  | isIn key values =>
    have h := spells_bracketed (values.map fun v => (v.toJson, v.toJson.compact)) (by
      intro p hp
      obtain ⟨v, _, rfl⟩ := List.mem_map.mp hp
      exact spells_value v)
    rw [List.map_map, List.map_map] at h
    exact spells_clause (spells_clause h)
  | compound connective children ih =>
    rw [document_compound, predicate_compound]
    exact spells_clause (spells_children ih)

/-! ## Rendering -/

/-- Why a leaf has no text: it lists no value, or one that is not finite. -/
def offence (leaf : String × List Value) : Option QueryError :=
  if leaf.2 = [] then some (.emptyInList leaf.1)
  else if ∀ v ∈ leaf.2, v.Finite then none
  else some (.unsupportedValue leaf.1 "float")

/-- What a filter is rendered to. -/
def fragment (f : Filter) : Fragment :=
  ⟨predicate f, match f with | .all _ => .all | .any _ => .any | _ => .leaf⟩

/-- A compound is combined from the fragments of its children. -/
theorem combine_fragments (op : String) (children : List Filter) :
    Request.combine op (children.map fragment)
      = Request.clause op (Request.bracketed (predicates children)) := by
  rw [Request.combine, List.map_map, predicates_eq_map]
  rfl

theorem literal_of_finite {v : Value} (key : String) (h : v.Finite) :
    Request.literal key v = .ok v.toJson.compact := by
  unfold Request.literal
  split
  · exact h.elim
  · exact h.elim
  · rfl

theorem literal_of_not_finite {v : Value} (key : String) (h : ¬ v.Finite) :
    Request.literal key v = .error (.unsupportedValue key "float") := by
  unfold Value.Finite at h
  split at h
  · rfl
  · rfl
  · exact absurd trivial h

/-- The literals of values are their texts, unless one of them is not finite. -/
theorem literals_eq (key : String) (values : List Value) :
    Request.literals key values =
      if ∀ v ∈ values, v.Finite then .ok (values.map fun v => v.toJson.compact)
      else .error (.unsupportedValue key "float") := by
  induction values with
  | nil => rfl
  | cons v rest ih =>
    by_cases hv : v.Finite
    · by_cases hrest : ∀ v ∈ rest, v.Finite
      · rw [if_pos (List.forall_mem_cons.mpr ⟨hv, hrest⟩), Request.literals, ih, if_pos hrest,
          literal_of_finite key hv]
        rfl
      · rw [if_neg fun h => hrest (List.forall_mem_cons.mp h).2, Request.literals, ih,
          if_neg hrest, literal_of_finite key hv]
        rfl
    · rw [if_neg fun h => hv (List.forall_mem_cons.mp h).1, Request.literals,
        literal_of_not_finite key hv]
      rfl

theorem renderEq_eq (key : String) (value : Value) :
    Request.renderEq key value =
      (offence (key, [value])).elim (.ok (predicate (.eq key value))) .error := by
  by_cases hv : value.Finite
  · rw [Request.renderEq, literal_of_finite key hv, offence, if_neg (List.cons_ne_nil _ _),
      if_pos (List.forall_mem_singleton.mpr hv)]
    rfl
  · rw [Request.renderEq, literal_of_not_finite key hv, offence, if_neg (List.cons_ne_nil _ _),
      if_neg fun h => hv (List.forall_mem_singleton.mp h)]
    rfl

theorem renderIn_eq (key : String) (values : List Value) :
    Request.renderIn key values =
      (offence (key, values)).elim (.ok (predicate (.isIn key values))) .error := by
  cases values with
  | nil => rfl
  | cons v rest =>
    rw [Request.renderIn, if_neg (by simp), literals_eq, offence,
      if_neg (List.cons_ne_nil v rest)]
    by_cases hvalues : ∀ w ∈ v :: rest, w.Finite
    · rw [if_pos hvalues, if_pos hvalues]
      rfl
    · rw [if_neg hvalues, if_neg hvalues]
      rfl

/-- Rendering filters in turn gives their fragments, or the first offence among their leaves,
    once that is so of each. -/
theorem renderAll_run {children : List Filter} {r : Request}
    (ih : ∀ c ∈ children, Request.backend.render c r =
      ⟨(c.leaves.findSome? offence).elim (.ok (fragment c)) .error, r, []⟩) :
    Request.backend.renderAll children r =
      ⟨((Filter.childLeaves children).findSome? offence).elim
        (.ok (children.map fragment)) .error, r, []⟩ := by
  induction children with
  | nil => rfl
  | cons child rest ihrest =>
    obtain ⟨hchild, hrest⟩ := List.forall_mem_cons.mp ih
    rw [Backend.renderAll, Filter.childLeaves, List.findSome?_append, Act.bind_elim hchild]
    cases child.leaves.findSome? offence with
    -- the first offence ends the walk, so the other children do not matter
    | some e => rfl
    | none =>
      rw [Option.elim_none, Option.none_or, Act.bind_elim (ihrest hrest)]
      cases (Filter.childLeaves rest).findSome? offence <;> rfl

/-- Rendering a filter gives its fragment, or the first offence among its leaves.  It leaves the
    request as it was. -/
theorem render_run (f : Filter) (r : Request) :
    Request.backend.render f r =
      ⟨(f.leaves.findSome? offence).elim (.ok (fragment f)) .error, r, []⟩ := by
  induction f with
  | eq key value =>
    have hleaf : Request.backend.eq key value r = _ := Act.ofExcept_run _ r
    rw [renderEq_eq] at hleaf
    rw [Backend.render, Act.bind_elim hleaf, Filter.leaves, List.findSome?_singleton]
    cases offence (key, [value]) <;> rfl
  | isIn key values =>
    have hleaf : Request.backend.isIn key values r = _ := Act.ofExcept_run _ r
    rw [renderIn_eq] at hleaf
    rw [Backend.render, Act.bind_elim hleaf, Filter.leaves, List.findSome?_singleton]
    cases offence (key, values) <;> rfl
  | compound connective children ih =>
    -- a compound gives no offence of its own: it combines what its children came to
    have hchildren := renderAll_run ih
    cases connective with
    | all | any =>
      rw [Filter.compound, Backend.render, Act.bind_elim hchildren, Filter.leaves, fragment,
        predicate, ← combine_fragments]
      cases (Filter.childLeaves children).findSome? offence <;> rfl

/-! ## Compiling -/

/-- The text of a filter is read as its document, unless that nests too deep. -/
theorem readFilter_predicate (f : Filter) :
    Request.readFilter (predicate f) =
      if (document f).depth ≤ Json.maxDepth then .ok (document f)
      else .error (.malformedPredicate (.notJson .malformed)) := by
  have hne : predicate f ≠ "" := by
    cases f <;> simp [predicate, Request.clause]
  -- only an object is taken for a filter document, and every filter has one
  have hobj : ∃ members, document f = .obj members := by
    cases f <;> exact ⟨_, rfl⟩
  obtain ⟨members, hmembers⟩ := hobj
  rw [Request.readFilter, if_neg hne, Json.parse_spells (spells_predicate f), hmembers]
  by_cases hdepth : (Json.obj members).depth ≤ Json.maxDepth
  · rw [if_pos hdepth, if_pos hdepth]
  · rw [if_neg hdepth, if_neg hdepth]

/-- A query is compiled from its predicate text, where there is one: to the filter document that
    the text holds, and the options. -/
theorem compile_result {σ : Type} {q : Query} (text : String) (refusal : Option QueryError)
    (h : Request.backend.predicate q {} = ⟨refusal.elim (.ok text) .error, {}, []⟩) (s : σ) :
    (Request.compile q s).result = refusal.elim
      (Request.readFilter text >>= fun filter =>
        (Request.optionsOf q).map (Request.mk text filter)) .error := by
  rw [Request.compile, Act.within, Backend.build, Act.bind_elim h]
  cases refusal with
  | some e => rfl
  | none =>
    simp only [Request.backend, Request.finish, bind, Act.bind, Act.ofExcept, Act.emit, Act.set,
      Option.elim_none]
    cases Request.readFilter text with
    | error e => rfl
    | ok filter => cases Request.optionsOf q <;> rfl

/-- Compiling a query without a filter fails only at its token. -/
theorem compile_unfiltered {σ : Type} {q : Query} (hq : q.filter = none) (s : σ) :
    (Request.compile q s).result = (Request.optionsOf q).map (Request.mk "" (.obj [])) := by
  rw [compile_result "" none ?_ s]
  · rfl
  · rw [Backend.predicate, hq]
    rfl

/-- Compiling a query with a filter fails at the first leaf that gives offence, or else if the
    document nests too deep, or else at the token. -/
theorem compile_filtered {σ : Type} {q : Query} {f : Filter} (hq : q.filter = some f) (s : σ) :
    (Request.compile q s).result = (f.leaves.findSome? offence).elim
      (if (document f).depth ≤ Json.maxDepth then
        (Request.optionsOf q).map (Request.mk (predicate f) (document f))
      else .error (.malformedPredicate (.notJson .malformed))) .error := by
  rw [compile_result (predicate f) (f.leaves.findSome? offence) ?_ s,
    readFilter_predicate]
  · split <;> rfl
  · rw [Backend.predicate, hq]
    show (Request.backend.render f >>= _) _ = _
    rw [Act.bind_elim (render_run f {})]
    cases f.leaves.findSome? offence <;> rfl

/-- A compiled query without a filter holds the empty document and the query's options. -/
theorem compile_ok_unfiltered {σ : Type} {q : Query} {s : σ} {r : Request}
    (h : (Request.compile q s).result = .ok r) (hq : q.filter = none) :
    r.filter = .obj [] ∧ Request.optionsOf q = .ok r.options := by
  rw [compile_unfiltered hq] at h
  obtain ⟨options, hoptions, rfl⟩ := map_eq_ok_iff.mp h
  exact ⟨rfl, hoptions⟩

/-- A compiled query with a filter holds the filter's document and the query's options, and no
    leaf gives offence. -/
theorem compile_ok_filtered {σ : Type} {q : Query} {f : Filter} {s : σ} {r : Request}
    (h : (Request.compile q s).result = .ok r) (hq : q.filter = some f) :
    r.filter = document f ∧ Request.optionsOf q = .ok r.options
      ∧ ∀ leaf ∈ f.leaves, offence leaf = none := by
  rw [compile_filtered hq] at h
  cases hoffence : f.leaves.findSome? offence with
  | some e => rw [hoffence] at h; exact nomatch h
  | none =>
    rw [hoffence, Option.elim_none] at h
    split at h
    · obtain ⟨options, hoptions, rfl⟩ := map_eq_ok_iff.mp h
      exact ⟨rfl, hoptions, List.findSome?_eq_none_iff.mp hoffence⟩
    · exact nomatch h

/-- A compiled query holds the query's options. -/
theorem compile_ok_options {σ : Type} {q : Query} {s : σ} {r : Request}
    (h : (Request.compile q s).result = .ok r) : Request.optionsOf q = .ok r.options := by
  cases hq : q.filter with
  | none => exact (compile_ok_unfiltered h hq).2
  | some f => exact (compile_ok_filtered h hq).2.1

/-- A leaf that gives no offence has finite values only. -/
theorem finite_of_offence_eq_none {leaf : String × List Value} (h : offence leaf = none) :
    ∀ v ∈ leaf.2, v.Finite := by
  unfold offence at h
  split at h
  · exact nomatch h
  · split at h
    · assumption
    · exact nomatch h

end Find

end StoreQuery
