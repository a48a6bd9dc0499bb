import StoreQuery.Proofs.Find.Document

/-! # The meaning of a filter — compiled requests select what the filter says

    `Holds doc f` is the meaning of a filter on a document, given by rules
    on the filter itself and the value that a dotted path finds.  A compiled
    request knows nothing of filters: it evaluates a JSON document whose
    clauses are told apart by their keys alone.

    `satisfies_document` is the induction that joins the two: evaluating the
    document of a filter is deciding whether the filter holds.  Since a
    compiled request holds the document of its query's filter, compiling
    keeps the meaning. -/

namespace StoreQuery

/-- Whether a JSON value equals a value, with numbers compared as doubles. -/
def Value.Equals : Value → Json → Prop
  | .text s, .str t => t = s
  | .int n, .num m => m.toDouble.units = (FiniteDouble.ofInt n.toInt).units
  | .uint n, .num m => m.toDouble.units = (FiniteDouble.ofInt n.toNat).units
  | .float (.finite d), .num m => m.toDouble.units = d.units
  | .bool b, .bool c => c = b
  | .null, .null => True
  | _, _ => False

namespace Find

/-! ## Rules -/

/-- The value behind a name, which is `null` if there is no such member. -/
def memberOrNull (doc : Json) (name : String) : Json :=
  (doc.get? name).getD .null

/-- The value at a dotted path: the names between the dots are followed one after the other. -/
def valueAt (doc : Json) (path : String) : Json :=
  ((path.toList.splitOn '.').map String.ofList).foldl memberOrNull doc

/-- Whether a value found in a document, or an element of it, equals a value. -/
def Meets (found : Json) (v : Value) : Prop :=
  v.Equals found ∨ ∃ items, found = .arr items ∧ ∃ item ∈ items, v.Equals item

/-- Whether the field at a key meets a value.  The two keys that join filters name no field. -/
def FieldMeets (doc : Json) (key : String) (v : Value) : Prop :=
  key ≠ andClause ∧ key ≠ orClause ∧ Meets (valueAt doc key) v

/-- Whether a filter holds on a document. -/
inductive Holds (doc : Json) : Filter → Prop where
  | eq {key : String} {v : Value} : FieldMeets doc key v → Holds doc (.eq key v)
  | isIn {key : String} {values : List Value} {v : Value} :
      v ∈ values → FieldMeets doc key v → Holds doc (.isIn key values)
  | all {children : List Filter} : (∀ c ∈ children, Holds doc c) → Holds doc (.all children)
  | any {children : List Filter} {c : Filter} :
      c ∈ children → Holds doc c → Holds doc (.any children)

theorem holds_eq_iff {doc : Json} {key : String} {v : Value} :
    Holds doc (.eq key v) ↔ FieldMeets doc key v :=
  ⟨fun | .eq h => h, .eq⟩

theorem holds_isIn_iff {doc : Json} {key : String} {values : List Value} :
    Holds doc (.isIn key values) ↔ ∃ v ∈ values, FieldMeets doc key v :=
  ⟨fun | .isIn hv h => ⟨_, hv, h⟩, fun ⟨_, hv, h⟩ => .isIn hv h⟩

theorem holds_all_iff {doc : Json} {children : List Filter} :
    Holds doc (.all children) ↔ ∀ c ∈ children, Holds doc c :=
  ⟨fun | .all h => h, .all⟩

theorem holds_any_iff {doc : Json} {children : List Filter} :
    Holds doc (.any children) ↔ ∃ c ∈ children, Holds doc c :=
  ⟨fun | .any hc h => ⟨_, hc, h⟩, fun ⟨_, hc, h⟩ => .any hc h⟩

/-! ## Fields -/

/-- The segments of a path are what stands between its dots. -/
theorem segments_eq_splitOn (cs : List Char) : segments cs = cs.splitOn '.' := by
  induction cs with
  | nil => rfl
  | cons c rest ih =>
    rw [List.splitOn, List.splitOnP_cons_eq_if_modifyHead]
    by_cases hc : c = '.'
    · rw [hc, segments, ih, if_pos (beq_self_eq_true '.')]
      rfl
    · rw [segments.eq_3 c rest hc, ih, if_neg (by simpa using hc), List.splitOn]
      cases hrest : List.splitOnP (· == '.') rest with
      | nil => exact absurd hrest (List.splitOnP_ne_nil _ _)
      | cons segment others => rfl

/-- Nothing is behind `null`. -/
theorem foldl_memberOrNull_null (names : List String) : names.foldl memberOrNull .null = .null := by
  induction names with
  | nil => rfl
  | cons name rest ih => exact ih

/-- Following names through nested objects is going from member to member. -/
theorem follow_eq_foldl (names : List String) (doc : Json) :
    follow names doc = names.foldl memberOrNull doc := by
  induction names generalizing doc with
  | nil => rfl
  | cons name rest ih =>
    rw [follow, List.foldl_cons, memberOrNull]
    cases doc.get? name with
    | some inner => exact ih inner
    -- a missing member ends the walk at once, while the fold goes on from `null`
    | none => exact (foldl_memberOrNull_null rest).symm

theorem resolve_eq_valueAt (doc : Json) (path : String) : resolve doc path = valueAt doc path := by
  rw [resolve, follow_eq_foldl, segments_eq_splitOn, valueAt]

/-- Numbers are equal when their doubles are. -/
theorem equals_num (a b : Number) :
    equals (.num a) (.num b) = true ↔ a.toDouble.units = b.toDouble.units := by
  rw [equals, compareValues, FiniteDouble.compare, beq_iff_eq, Int.compare_eq_eq]

/-- Equality with the JSON scalar of a finite value is equality with the value. -/
theorem equals_toJson {v : Value} (hv : v.Finite) (found : Json) :
    equals found v.toJson = true ↔ v.Equals found := by
  have hother {a b : Json} (h : equals a b = false) : equals a b = true ↔ False := by
    rw [h, iff_false]
    exact Bool.false_ne_true
  -- a scalar equals only values of its own kind, where all numbers are one kind
  cases v with
  | text s =>
    cases found with
    | str t => exact beq_iff_eq
    | _ => exact hother rfl
  | int n =>
    cases found with
    | num m => exact equals_num m _
    | _ => exact hother rfl
  | uint n =>
    cases found with
    | num m => exact equals_num m _
    | _ => exact hother rfl
  | float d =>
    cases d with
    | finite d =>
      cases found with
      | num m => exact equals_num m _
      | _ => exact hother rfl
    | infinite _ => exact hv.elim
    | nan => exact hv.elim
  | bool b =>
    cases found with
    | bool c => exact beq_iff_eq
    | _ => exact hother rfl
  | null =>
    cases found with
    | null => exact iff_of_true rfl trivial
    | _ => exact hother rfl

/-- A field matches the JSON scalar of a finite value when it meets the value. -/
theorem valueMatches_toJson {v : Value} (hv : v.Finite) (found : Json) :
    valueMatches found v.toJson = true ↔ Meets found v := by
  rw [valueMatches.eq_def, Bool.or_eq_true, equals_toJson hv, Meets]
  refine or_congr Iff.rfl ?_
  cases found with
  | arr items =>
    simp only [List.any_eq_true, equals_toJson hv, Json.arr.injEq, exists_eq_left']
  | _ => simp

/-! ## Documents -/

/-- A clause that lists no filter documents is a condition on a field, which fails under the keys
    that join filters. -/
theorem satisfies_clause {doc : Json} {key : String} {condition : Json}
    (h : ∀ items, condition ≠ .arr items) :
    satisfies doc (.obj [(key, condition)]) = true ↔
      key ≠ andClause ∧ key ≠ orClause ∧ fieldMatches (valueAt doc key) condition = true := by
  rw [satisfies, clausesHold, clausesHold, Bool.and_true]
  by_cases hand : key = andClause
  · rw [if_pos hand, branchesAll.eq_2 doc condition h]
    simp [hand]
  · by_cases hor : key = orClause
    · rw [if_neg hand, if_pos hor, branchesAny.eq_2 doc condition h]
      simp [hor]
    · rw [if_neg hand, if_neg hor, resolve_eq_valueAt]
      simp [hand, hor]

/-- A value's JSON scalar is no list. -/
theorem toJson_ne_arr (v : Value) (items : List Json) : v.toJson ≠ .arr items := by
  unfold Value.toJson
  split <;> exact Json.noConfusion

/-- A scalar as a condition asks for a match. -/
theorem fieldMatches_toJson (found : Json) (v : Value) :
    fieldMatches found v.toJson = valueMatches found v.toJson := by
  unfold Value.toJson
  split <;> rfl

theorem allSatisfied_eq (doc : Json) (filters : List Json) :
    allSatisfied doc filters = filters.all (satisfies doc) := by
  induction filters with
  | nil => rfl
  | cons f rest ih => rw [allSatisfied, ih, List.all_cons]

theorem anySatisfied_eq (doc : Json) (filters : List Json) :
    anySatisfied doc filters = filters.any (satisfies doc) := by
  induction filters with
  | nil => rfl
  | cons f rest ih => rw [anySatisfied, ih, List.any_cons]

/-- Evaluating the document of a filter with finite values decides whether the filter holds. -/
theorem satisfies_document {doc : Json} {f : Filter} (hf : ∀ v ∈ f.values, v.Finite) :
    satisfies doc (document f) = true ↔ Holds doc f := by
  induction f with
  | eq key v =>
    have hv : v.Finite := hf v (List.mem_singleton_self v)
    rw [document, satisfies_clause (toJson_ne_arr v), fieldMatches_toJson, valueMatches_toJson hv,
      holds_eq_iff, FieldMeets]
  | isIn key values =>
    rw [Filter.values_isIn] at hf
    have hfield : fieldMatches (valueAt doc key)
        (.obj [(inClause, .arr (values.map Value.toJson))]) = true
        ↔ ∃ v ∈ values, Meets (valueAt doc key) v := by
      rw [fieldMatches, if_pos rfl, List.any_map, List.any_eq_true]
      refine exists_congr fun v => and_congr_right fun hv => ?_
      exact valueMatches_toJson (hf v hv) _
    rw [document, satisfies_clause (fun _ => Json.noConfusion), hfield, holds_isIn_iff]
    -- the key is judged once for the clause, and once for each value by the rules
    constructor
    · rintro ⟨hand, hor, v, hv, hmeets⟩
      exact ⟨v, hv, hand, hor, hmeets⟩
    · rintro ⟨v, hv, hand, hor, hmeets⟩
      exact ⟨hand, hor, v, hv, hmeets⟩
  | compound connective children ih =>
    have hchild (c : Filter) (hc : c ∈ children) :
        satisfies doc (document c) = true ↔ Holds doc c :=
      ih c hc fun v hv => hf v (Filter.mem_values_compound.mpr ⟨c, hc, hv⟩)
    -- the document has one clause, so the conjunction of clauses adds nothing
    cases connective with
    | all =>
      have hclause : satisfies doc (document (.all children))
          = allSatisfied doc (documents children) := Bool.and_true _
      rw [Filter.compound, hclause, allSatisfied_eq, documents_eq_map, List.all_map,
        List.all_eq_true, holds_all_iff]
      exact forall₂_congr hchild
    | any =>
      have hclause : satisfies doc (document (.any children))
          = anySatisfied doc (documents children) := Bool.and_true _
      rw [Filter.compound, hclause, anySatisfied_eq, documents_eq_map, List.any_map,
        List.any_eq_true, holds_any_iff]
      exact exists_congr fun c => and_congr_right (hchild c)

/-- A compiled request selects exactly the documents on which the query's filter holds, and all
    documents if the query has none. -/
theorem compile_preserves_meaning {σ : Type} (q : Query) (s : σ) (r : Request)
    (h : (Request.compile q s).result = .ok r) (doc : Json) :
    satisfies doc r.filter = true ↔ ∀ f, q.filter = some f → Holds doc f := by
  cases hq : q.filter with
  | none =>
    obtain ⟨hfilter, -⟩ := compile_ok_unfiltered h hq
    rw [hfilter]
    exact iff_of_true rfl fun f hf => nomatch hf
  | some f =>
    obtain ⟨hfilter, -, hleaves⟩ := compile_ok_filtered h hq
    have hfinite : ∀ v ∈ f.values, v.Finite := by
      intro v hv
      obtain ⟨leaf, hleaf, hv⟩ := List.mem_flatMap.mp hv
      exact finite_of_offence_eq_none (hleaves leaf hleaf) v hv
    rw [hfilter, satisfies_document hfinite]
    constructor
    · rintro hf g ⟨⟩
      exact hf
    · intro hall
      exact hall f rfl

/-- A nested filter with an odd key, a quote in a text, and a list without children compiles and
    keeps its meaning. -/
theorem compile_preserves_meaning_nested :
    ∃ (q : Query) (r : Request),
      q.filter = some (.all [
        .any [.eq "$or" .null, .eq "a.b" (.int (-1)), .all []],
        .isIn "c\"" [.text "\"\\", .bool true, .uint 0xFFFFFFFFFFFFFFFF]])
      ∧ (Request.compile q ()).result = .ok r
      ∧ ∀ doc, satisfies doc r.filter = true ↔ ∀ f, q.filter = some f → Holds doc f := by
  let f : Filter := .all [
    .any [.eq "$or" .null, .eq "a.b" (.int (-1)), .all []],
    .isIn "c\"" [.text "\"\\", .bool true, .uint 0xFFFFFFFFFFFFFFFF]]
  have hcompile : (Request.compile { filter := some f } ()).result
      = .ok ⟨predicate f, document f, {}⟩ := by
    rw [compile_filtered (f := f) rfl]
    rfl
  exact ⟨_, _, rfl, hcompile, compile_preserves_meaning _ () _ hcompile⟩

end Find

end StoreQuery
