import Mathlib.Logic.Function.Iterate
import StoreQuery.Proofs.Find.Document
import StoreQuery.Proofs.Find.Offset
import StoreQuery.Proofs.Query.RoundTrip

/-! # The limit of find requests — how deep a filter may nest

    The predicate text of a find request is read back as JSON, so a filter
    whose document nests too deep has no request.  `Filter.nesting` is that
    depth, counted on the filter: an equality takes one level, a membership
    three, and a compound two more than its deepest child.

    A filter that came from a query text has already been read once, in its
    generic form.  Node by node that form nests no less deep than the
    document, and the query around it takes a level of its own, so such a
    filter is always within the limit and only its token can be refused. -/

namespace StoreQuery

/-! ## Nesting -/

namespace Filter

mutual

/-- How deep the document of a filter nests. -/
def nesting : Filter → Nat
  | .eq _ _ => 1
  | .isIn _ _ => 3
  | .all children => childNesting children + 2
  | .any children => childNesting children + 2

/-- The largest nesting of several filters, zero if there are none. -/
def childNesting : List Filter → Nat
  | [] => 0
  | child :: rest => max (nesting child) (childNesting rest)

end

theorem nesting_compound (connective : Connective) (children : List Filter) :
    (compound connective children).nesting = childNesting children + 2 := by
  cases connective <;> rw [compound, nesting]

end Filter

namespace Json

/-- The scalar of a value does not nest. -/
theorem depth_value (v : Value) : v.toJson.depth = 0 := by
  unfold Value.toJson
  split <;> rfl

/-- A list of scalars is one level deep. -/
theorem depth_values (values : List Value) : (Json.arr (values.map Value.toJson)).depth = 1 := by
  have hitems : itemsDepth (values.map Value.toJson) ≤ 0 :=
    itemsDepth_le_iff.mpr (List.forall_mem_map.mpr fun v _ => (depth_value v).le)
  rw [depth, Nat.le_zero.mp hitems]

end Json

open Json (depth_singleton depth_value depth_values)

/-- A filter's document nests as deep as the filter says. -/
theorem Find.depth_document (f : Filter) : (document f).depth = f.nesting := by
  have hchildren {children : List Filter} (ih : ∀ c ∈ children, (document c).depth = c.nesting) :
      Json.itemsDepth (documents children) = Filter.childNesting children := by
    induction children with
    | nil => rfl
    | cons c rest ihrest =>
      obtain ⟨hc, hrest⟩ := List.forall_mem_cons.mp ih
      rw [documents, Json.itemsDepth, Filter.childNesting, hc, ihrest hrest]
  induction f with
  | eq key value => rw [document, depth_singleton, depth_value, Filter.nesting]
  | isIn key values =>
    rw [document, depth_singleton, depth_singleton, depth_values, Filter.nesting]
  | compound connective children ih =>
    rw [document_compound, depth_singleton, Json.depth, hchildren ih, Filter.nesting_compound]

/-- A filter's generic form nests at least as deep as its document. -/
theorem Filter.nesting_le_depth_toJson (f : Filter) : f.nesting ≤ f.toJson.depth := by
  have hchildren {children : List Filter} (ih : ∀ c ∈ children, c.nesting ≤ c.toJson.depth) :
      childNesting children ≤ Json.itemsDepth (childrenToJson children) := by
    induction children with
    | nil => exact Nat.le_refl 0
    | cons c rest ihrest =>
      obtain ⟨hc, hrest⟩ := List.forall_mem_cons.mp ih
      have htail := ihrest hrest
      rw [childNesting, childrenToJson, Json.itemsDepth]
      omega
  induction f with
  | eq key value =>
    rw [toJson, depth_singleton, depth_singleton, depth_value, nesting]
    decide
  | isIn key values => rw [toJson, depth_singleton, depth_singleton, depth_values, nesting]
  | compound connective children ih =>
    -- an object around an array in both forms
    have := hchildren ih
    rw [toJson_compound, depth_singleton, Json.depth, nesting_compound]
    omega

/-! ## Rendering without offence -/

/-- A filter whose leaves all have a text: every membership lists a value, and every value has a
    JSON form. -/
structure Filter.Renderable (f : Filter) : Prop where
  listed : ∀ leaf ∈ f.leaves, leaf.2 ≠ []
  finite : ∀ v ∈ f.values, v.Finite

theorem Value.Canonical.finite {v : Value} (h : v.Canonical) : v.Finite := by
  cases v with
  | float d =>
    cases d with
    | finite _ => trivial
    | infinite _ => exact h.elim
    | nan => exact h.elim
  | _ => trivial

/-- A canonical filter can be rendered. -/
theorem Filter.Canonical.renderable {f : Filter} (h : f.Canonical) : f.Renderable where
  listed := h.wellFormed.leaves_ne_nil
  finite v hv := (h.values v hv).finite

namespace Find

/-- No leaf of a filter that can be rendered gives offence. -/
theorem findSome?_offence_of_renderable {f : Filter} (h : f.Renderable) :
    f.leaves.findSome? offence = none := by
  rw [List.findSome?_eq_none_iff]
  intro leaf hleaf
  have hfinite : ∀ v ∈ leaf.2, v.Finite := fun v hv =>
    h.finite v (List.mem_flatMap.mpr ⟨leaf, hleaf, hv⟩)
  rw [offence, if_neg (h.listed leaf hleaf), if_pos hfinite]

/-- A query whose filter can be rendered is compiled unless the filter nests too deep or the token
    is refused. -/
theorem compile_renderable {σ : Type} {q : Query} {f : Filter} (hq : q.filter = some f)
    (hf : f.Renderable) (s : σ) :
    (Request.compile q s).result =
      if f.nesting ≤ Json.maxDepth then
        (Request.optionsOf q).map (Request.mk (predicate f) (document f))
      else .error (.malformedPredicate (.notJson .malformed)) := by
  rw [compile_filtered hq, findSome?_offence_of_renderable hf, Option.elim_none, depth_document]

/-! ## Tokens -/

/-- A query whose token is empty or names an offset has options. -/
theorem exists_optionsOf {q : Query}
    (h : q.page.token = "" ∨ ∃ n, parseOffset q.page.token = .ok (some n)) :
    ∃ options, Request.optionsOf q = .ok options := by
  have hstart : ∃ start, parseOffset q.page.token = .ok start := by
    rcases h with hempty | ⟨n, hn⟩
    · exact ⟨none, if_pos hempty⟩
    · exact ⟨some n, hn⟩
  obtain ⟨start, hstart⟩ := hstart
  exact ⟨_, bind_eq_ok_iff.mpr ⟨start, hstart, rfl⟩⟩

/-- A query whose token is neither empty nor an offset has none, because of the token. -/
theorem optionsOf_refused {q : Query}
    (h : ¬(q.page.token = "" ∨ ∃ n, parseOffset q.page.token = .ok (some n))) :
    Request.optionsOf q = .error (.invalidToken q.page.token) := by
  rcases parseOffset_cases q.page.token with ⟨hempty, -⟩ | ⟨n, -, hoffset⟩ | ⟨-, -, hrefused⟩
  · exact absurd (Or.inl hempty) h
  · exact absurd (Or.inr ⟨n, hoffset⟩) h
  · rw [Request.optionsOf, hrefused]
    rfl

/-! ## Up to the limit -/

/-- Up to the limit of nesting, and no further, a filter that can be rendered is compiled to its
    document, which is what its text reads as. -/
theorem compile_exact_to_limit {σ : Type} (f : Filter) (hf : f.Renderable) (q : Query)
    (hq : q.filter = some f)
    (htoken : q.page.token = "" ∨ ∃ n, parseOffset q.page.token = .ok (some n)) (s : σ) :
    (f.nesting ≤ 127 → ∃ r, (Request.compile q s).result = .ok r ∧ r.filter = document f
        ∧ Json.parse r.text = .ok (document f))
    ∧ (127 < f.nesting → ∃ why,
        (Request.compile q s).result = .error (.malformedPredicate why)) := by
  rw [compile_renderable hq hf]
  constructor
  · intro hlimit
    obtain ⟨options, hoptions⟩ := exists_optionsOf htoken
    have hdepth : (document f).depth ≤ Json.maxDepth := (depth_document f).trans_le hlimit
    refine ⟨⟨predicate f, document f, options⟩, ?_, rfl, ?_⟩
    · rw [hoptions]
      exact if_pos hlimit
    · rw [Json.parse_spells (spells_predicate f), if_pos hdepth]
  · intro hlimit
    exact ⟨_, if_neg (Nat.not_le.mpr hlimit)⟩

/-- Sixty-three compounds around an equality are compiled; around a compound without children
    they are one level too deep. -/
theorem compile_exact_to_limit_boundary :
    ∃ f g : Filter, f.nesting = 127 ∧ g.nesting = 128
      ∧ (∃ r, (Request.compile { filter := some f } ()).result = .ok r ∧ r.filter = document f)
      ∧ ∃ why, (Request.compile { filter := some g } ()).result
        = .error (.malformedPredicate why) := by
  let f : Filter := (fun f => .any [f])^[63] (.eq "\"" (.text "\\"))
  let g : Filter := (fun g => .any [g])^[63] (.all [])
  have hf : f.nesting = 127 := by decide +kernel
  have hg : g.nesting = 128 := by decide +kernel
  obtain ⟨r, hr, hfilter, -⟩ := (compile_exact_to_limit f ⟨by decide +kernel, by decide +kernel⟩
    { filter := some f } rfl (Or.inl rfl) ()).1 hf.le
  obtain ⟨why, hwhy⟩ := (compile_exact_to_limit g ⟨by decide +kernel, by decide +kernel⟩
    { filter := some g } rfl (Or.inl rfl) ()).2 (Nat.lt_of_lt_of_eq (by decide) hg.symm)
  exact ⟨f, g, hf, hg, ⟨r, hr, hfilter⟩, why, hwhy⟩

/-! ## Queries that were read -/

/-- A query that was read from a text is compiled unless its token is refused. -/
theorem compile_of_parse {σ : Type} {text : String} {q : Query} (h : Query.parse text = .ok q)
    (s : σ) :
    ∃ predicate filter, (Request.compile q s).result
      = (Request.optionsOf q).map (Request.mk predicate filter) := by
  cases hq : q.filter with
  | none => exact ⟨_, _, compile_unfiltered hq s⟩
  | some f =>
    obtain ⟨hcanonical, hdepth⟩ := Query.filter_of_parse h hq
    have hlimit : f.nesting ≤ Json.maxDepth :=
      Nat.le_of_lt (Nat.lt_of_le_of_lt f.nesting_le_depth_toJson hdepth)
    exact ⟨_, _, (compile_renderable hq hcanonical.renderable s).trans (if_pos hlimit)⟩

/-- A query that was read from a text is compiled exactly if its token is empty or names an
    offset, however deep its filter nests; otherwise the token is the error. -/
theorem compile_parsed_fails_only_at_token {σ : Type} (text : String) (q : Query)
    (h : Query.parse text = .ok q) (s : σ) :
    ((∃ r, (Request.compile q s).result = .ok r)
      ↔ (q.page.token = "" ∨ ∃ n, parseOffset q.page.token = .ok (some n)))
    ∧ ∀ e, (Request.compile q s).result = .error e → e = .invalidToken q.page.token := by
  obtain ⟨predicate, filter, hresult⟩ := compile_of_parse h s
  rw [hresult]
  by_cases htoken : q.page.token = "" ∨ ∃ n, parseOffset q.page.token = .ok (some n)
  · obtain ⟨options, hoptions⟩ := exists_optionsOf htoken
    rw [hoptions]
    exact ⟨iff_of_true ⟨_, rfl⟩ htoken, fun e he => nomatch he⟩
  · rw [optionsOf_refused htoken]
    refine ⟨iff_of_false (fun ⟨r, hr⟩ => nomatch hr) htoken, ?_⟩
    intro e he
    exact (Except.error.inj he).symm

/-- A query as deep as its text can be is compiled, unless its token is no offset. -/
theorem compile_parsed_fails_only_at_token_deep :
    ∃ p q : Query,
      p.toJson.depth = 127 ∧ p.page.token = "+7" ∧ Query.parse p.toJson.compact = .ok p
      ∧ (∃ r, (Request.compile p ()).result = .ok r)
      ∧ q.toJson.depth = 127 ∧ q.page.token = "7 " ∧ Query.parse q.toJson.compact = .ok q
      ∧ (Request.compile q ()).result = .error (.invalidToken "7 ") := by
  let leaf : Filter := .eq "k" .null
  have hcanonical (n : Nat) : ((fun f => Filter.all [f, leaf])^[n] leaf).Canonical := by
    have hleaf : leaf.Canonical := Filter.canonical_eq_iff.mpr trivial
    induction n with
    | zero => exact hleaf
    | succ n ih =>
      rw [Function.iterate_succ_apply']
      show (Filter.compound .all _).Canonical
      refine Filter.canonical_compound_iff.mpr ⟨Nat.le_refl 2, ?_⟩
      rw [List.forall_mem_cons, List.forall_mem_singleton]
      exact ⟨ih, hleaf⟩
  let f : Filter := (fun f => .all [f, leaf])^[62] leaf
  have hfilter : ∀ g, some f = some g → g.Canonical := by
    rintro g ⟨⟩
    exact hcanonical 62
  -- the query takes one level, its filter 126
  let p : Query := ⟨some f, [], ⟨0, "+7"⟩⟩
  let q : Query := ⟨some f, [], ⟨0, "7 "⟩⟩
  have hp : p.toJson.depth = 127 := by decide +kernel
  have hq : q.toJson.depth = 127 := by decide +kernel
  have hreadp := Query.parse_compact_toJson (q := p) ⟨hfilter, hp.le⟩
  have hreadq := Query.parse_compact_toJson (q := q) ⟨hfilter, hq.le⟩
  have hseven : parseOffset "+7" = .ok (some 7) := by
    have hword : wordOf? "+7".toList = some 7 := by decide
    rw [parseOffset, if_neg (by decide), hword]
  have hrefused : parseOffset "7 " = .error (.invalidToken "7 ") := by
    have hword : wordOf? "7 ".toList = none := by decide
    rw [parseOffset, if_neg (by decide), hword]
  refine ⟨p, q, hp, rfl, hreadp, ?_, hq, rfl, hreadq, ?_⟩
  · exact (compile_parsed_fails_only_at_token _ p hreadp ()).1.mpr (Or.inr ⟨7, hseven⟩)
  · obtain ⟨hiff, herror⟩ := compile_parsed_fails_only_at_token _ q hreadq ()
    cases hresult : (Request.compile q ()).result with
    | error e => rw [herror e hresult]
    | ok r =>
      obtain hempty | ⟨n, hn⟩ := hiff.mp ⟨r, hresult⟩
      · exact absurd hempty (by decide)
      · rw [hrefused] at hn
        cases hn

end Find

end StoreQuery
