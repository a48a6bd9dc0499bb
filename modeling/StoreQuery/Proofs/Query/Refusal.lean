import StoreQuery.Proofs.Find.Limit
import StoreQuery.Proofs.Sql.Reuse

/-! # Refusals — which leaf of a filter stops its compilation

    Both backends refuse a leaf that lists no value and a leaf with a value
    that they cannot render; they differ in which values these are.  So one
    relation says what either of them reports: `ReportsFirst unfit` holds of
    leaves and the error of the first one that gives offence.

    `refusal` computes that error, and each backend's own check of a leaf is
    this function with the values it is unfit for.  A statement has no other
    reason to fail.  A request is refused for its nesting and then for its
    token, but only behind a filter without offence. -/

namespace StoreQuery

/-! ## Offences and reports -/

/-- A leaf that lists no value, or one that is unfit. -/
def Offends (unfit : Value → Prop) (leaf : String × List Value) : Prop :=
  leaf.2 = [] ∨ ∃ v ∈ leaf.2, unfit v

/-- The error of a leaf: that it lists no value, or else the type of the first one that is unfit. -/
inductive Reports (unfit : Value → Prop) : String × List Value → QueryError → Prop where
  | empty (key : String) : Reports unfit (key, []) (.emptyInList key)
  | value {key : String} {before after : List Value} {v : Value} :
      (∀ w ∈ before, ¬unfit w) → unfit v →
      Reports unfit (key, before ++ v :: after) (.unsupportedValue key v.typeName)

/-- The error of the first leaf that gives offence. -/
inductive ReportsFirst (unfit : Value → Prop) : List (String × List Value) → QueryError → Prop where
  | intro {before after : List (String × List Value)} {leaf : String × List Value}
      {e : QueryError} :
      (∀ l ∈ before, ¬Offends unfit l) → Reports unfit leaf e →
      ReportsFirst unfit (before ++ leaf :: after) e

/-- A leaf of which something is reported gives offence. -/
theorem Reports.offends {unfit : Value → Prop} {leaf : String × List Value} {e : QueryError}
    (h : Reports unfit leaf e) : Offends unfit leaf := by
  cases h with
  | empty => exact Or.inl rfl
  | @value _ before after v _ hunfit => exact Or.inr ⟨v, by simp, hunfit⟩

section

variable (unfit : Value → Prop) [DecidablePred unfit]

/-- Computes the error of a leaf. -/
def refusal (leaf : String × List Value) : Option QueryError :=
  if leaf.2 = [] then some (.emptyInList leaf.1)
  else (leaf.2.find? fun v => unfit v).map fun v => .unsupportedValue leaf.1 v.typeName

variable {unfit}

/-- A leaf has no error when it gives no offence. -/
theorem refusal_eq_none_iff {leaf : String × List Value} :
    refusal unfit leaf = none ↔ ¬Offends unfit leaf := by
  rw [refusal, Offends]
  by_cases hempty : leaf.2 = []
  · rw [if_pos hempty]
    exact iff_of_false (fun h => absurd h (Option.some_ne_none _)) fun h => h (Or.inl hempty)
  · rw [if_neg hempty, Option.map_eq_none_iff, List.find?_eq_none]
    simp [hempty]

/-- A leaf's error is the one that is reported of it. -/
theorem refusal_eq_some_iff {leaf : String × List Value} {e : QueryError} :
    refusal unfit leaf = some e ↔ Reports unfit leaf e := by
  obtain ⟨key, values⟩ := leaf
  constructor
  · intro h
    rw [refusal] at h
    by_cases hempty : values = []
    · subst hempty
      rw [if_pos rfl] at h
      obtain rfl := Option.some.inj h
      exact .empty key
    · rw [if_neg hempty, Option.map_eq_some_iff] at h
      obtain ⟨v, hfind, rfl⟩ := h
      obtain ⟨hunfit, before, after, rfl, hbefore⟩ := List.find?_eq_some_iff_append.mp hfind
      refine .value ?_ (of_decide_eq_true hunfit)
      intro w hw
      simpa using hbefore w hw
  · intro h
    cases h with
    | empty => rfl
    | @value _ before after v hbefore hunfit =>
      have hfind : (before ++ v :: after).find? (fun v => unfit v) = some v := by
        refine List.find?_eq_some_iff_append.mpr ⟨decide_eq_true hunfit, before, after, rfl, ?_⟩
        intro w hw
        simpa using hbefore w hw
      rw [refusal, if_neg (by simp), hfind]
      rfl

/-- The first error among leaves is the one that is reported first. -/
theorem findSome?_refusal_eq_some_iff {leaves : List (String × List Value)} {e : QueryError} :
    leaves.findSome? (refusal unfit) = some e ↔ ReportsFirst unfit leaves e := by
  rw [List.findSome?_eq_some_iff]
  constructor
  · rintro ⟨before, leaf, after, rfl, hleaf, hbefore⟩
    exact .intro (fun l hl => refusal_eq_none_iff.mp (hbefore l hl)) (refusal_eq_some_iff.mp hleaf)
  · rintro ⟨hbefore, hleaf⟩
    exact ⟨_, _, _, rfl, refusal_eq_some_iff.mpr hleaf,
      fun l hl => refusal_eq_none_iff.mpr (hbefore l hl)⟩

/-- Leaves have no error when none of them gives offence. -/
theorem findSome?_refusal_eq_none_iff {leaves : List (String × List Value)} :
    leaves.findSome? (refusal unfit) = none ↔ ∀ leaf ∈ leaves, ¬Offends unfit leaf := by
  rw [List.findSome?_eq_none_iff]
  exact forall₂_congr fun _ _ => refusal_eq_none_iff

/-- An error is reported exactly if a leaf gives offence. -/
theorem exists_reportsFirst_iff {leaves : List (String × List Value)} :
    (∃ e, ReportsFirst unfit leaves e) ↔ ∃ leaf ∈ leaves, Offends unfit leaf := by
  constructor
  · rintro ⟨e, h⟩
    cases h with
    | @intro before after leaf _ _ hleaf => exact ⟨leaf, by simp, hleaf.offends⟩
  · rintro ⟨leaf, hleaf, hoffends⟩
    cases hfirst : leaves.findSome? (refusal unfit) with
    | some e => exact ⟨e, findSome?_refusal_eq_some_iff.mp hfirst⟩
    | none => exact absurd hoffends (findSome?_refusal_eq_none_iff.mp hfirst leaf hleaf)

end

/-! ## The two backends -/

open Sql (leavesOf)

/-- How deep the document of a query's filter nests; without a filter there is none. -/
def Query.nesting (q : Query) : Nat :=
  q.filter.elim 0 Filter.nesting

namespace Sql

/-- Statements are unfit for values that are no texts. -/
theorem offence_eq_refusal : offence = refusal fun v => v.text? = none := by
  funext leaf
  have hunfit : (fun v : Value => v.text?.isNone) = fun v => decide (v.text? = none) := by
    funext v
    cases v.text? <;> rfl
  rw [offence, refusal, hunfit]

/-- A statement fails with the first error among the leaves, and with no other. -/
theorem compile_eq_error_iff {σ : Type} (d : Dialect) (collection : String) (q : Query) (s : σ)
    (e : QueryError) :
    (Statement.compile d collection q s).result = .error e
      ↔ (leavesOf q).findSome? offence = some e := by
  obtain ⟨text, hresult, -⟩ := build_run d q { collection }
  rw [Statement.compile, Act.within, hresult]
  cases (leavesOf q).findSome? offence with
  | none =>
    constructor
    · intro h
      cases h
    · intro h
      cases h
  | some e' =>
    show Except.error e' = Except.error e ↔ _
    rw [Except.error.injEq, Option.some.injEq]

end Sql

namespace Find

/-- A value that is not finite is a double. -/
theorem typeName_of_not_finite {v : Value} (h : ¬v.Finite) : v.typeName = "float" := by
  cases v with
  | float d => rfl
  | _ => exact absurd trivial h

/-- Requests are unfit for values that are not finite. -/
theorem offence_eq_refusal : offence = refusal fun v => ¬v.Finite := by
  funext leaf
  rw [offence, refusal]
  by_cases hempty : leaf.2 = []
  · rw [if_pos hempty, if_pos hempty]
  · rw [if_neg hempty, if_neg hempty]
    -- only a double can be unfit, so the first unfit value gives the type that is reported
    cases hfind : leaf.2.find? fun v => ¬v.Finite with
    | none =>
      have hfinite : ∀ v ∈ leaf.2, v.Finite := by simpa using hfind
      rw [if_pos hfinite, Option.map_none]
    | some v =>
      have hv : ¬v.Finite := by simpa using List.find?_some hfind
      have hsome : ¬∀ v ∈ leaf.2, v.Finite := fun h => hv (h v (List.mem_of_find?_eq_some hfind))
      rw [if_neg hsome, Option.map_some, typeName_of_not_finite hv]

/-- A request fails with the first error among the leaves, or else for its nesting, or else for its
    token. -/
theorem compile_of_leaves {σ : Type} (q : Query) (s : σ) :
    ∃ text filter, (Request.compile q s).result = ((leavesOf q).findSome? offence).elim
      (if q.nesting ≤ Json.maxDepth then (Request.optionsOf q).map (Request.mk text filter)
      else .error (.malformedPredicate (.notJson .malformed))) .error := by
  cases hq : q.filter with
  | none =>
    refine ⟨"", .obj [], ?_⟩
    rw [compile_unfiltered hq, leavesOf, Query.nesting, hq]
    rfl
  | some f =>
    refine ⟨predicate f, document f, ?_⟩
    rw [compile_filtered hq, leavesOf, Query.nesting, hq, depth_document]
    rfl

end Find

/-- Both backends report the first leaf that gives offence.  Nothing else stops a statement.  A
    request without such a leaf is refused if its predicate nests too deep, or else if its token is
    neither empty nor an offset. -/
theorem Query.compile_reports_first_offence {σ : Type} (d : Sql.Dialect) (collection : String)
    (q : Query) (s : σ) :
    ((∃ e, (Sql.Statement.compile d collection q s).result = .error e)
      ↔ ∃ leaf ∈ leavesOf q, Offends (fun v => v.text? = none) leaf)
    ∧ (∀ e, (Sql.Statement.compile d collection q s).result = .error e
      ↔ ReportsFirst (fun v => v.text? = none) (leavesOf q) e)
    ∧ ((∃ leaf ∈ leavesOf q, Offends (fun v => ¬v.Finite) leaf) →
      ∃ e, ReportsFirst (fun v => ¬v.Finite) (leavesOf q) e
        ∧ (Find.Request.compile q s).result = .error e)
    ∧ ((∀ leaf ∈ leavesOf q, ¬Offends (fun v => ¬v.Finite) leaf) →
      (127 < q.nesting →
        ∃ why, (Find.Request.compile q s).result = .error (.malformedPredicate why))
      ∧ (q.nesting ≤ 127 →
        ((q.page.token = "" ∨ ∃ n, Find.parseOffset q.page.token = .ok (some n)) →
          ∃ r, (Find.Request.compile q s).result = .ok r)
        ∧ (¬(q.page.token = "" ∨ ∃ n, Find.parseOffset q.page.token = .ok (some n)) →
          (Find.Request.compile q s).result = .error (.invalidToken q.page.token)))) := by
  have hsql (e : QueryError) : (Sql.Statement.compile d collection q s).result = .error e
      ↔ ReportsFirst (fun v => v.text? = none) (leavesOf q) e := by
    rw [Sql.compile_eq_error_iff, Sql.offence_eq_refusal, findSome?_refusal_eq_some_iff]
  obtain ⟨text, filter, hfind⟩ := Find.compile_of_leaves q s
  rw [Find.offence_eq_refusal] at hfind
  refine ⟨?_, hsql, ?_, ?_⟩
  · simp only [hsql]
    exact exists_reportsFirst_iff
  · -- an offence is reported before the nesting and the token are looked at
    intro hoffends
    obtain ⟨e, he⟩ := exists_reportsFirst_iff.mpr hoffends
    rw [hfind, findSome?_refusal_eq_some_iff.mpr he]
    exact ⟨e, he, rfl⟩
  · intro hnone
    rw [hfind, findSome?_refusal_eq_none_iff.mpr hnone, Option.elim_none]
    constructor
    · intro hdeep
      exact ⟨_, if_neg (Nat.not_le.mpr hdeep)⟩
    · -- the text is read back, so that the token decides
      intro hlimit
      have hmax : q.nesting ≤ Json.maxDepth := hlimit
      rw [if_pos hmax]
      constructor
      · intro htoken
        obtain ⟨options, hoptions⟩ := Find.exists_optionsOf htoken
        rw [hoptions]
        exact ⟨_, rfl⟩
      · intro htoken
        rw [Find.optionsOf_refused htoken]
        rfl

/-- Of three leaves that give offence each backend reports the first one that it is unfit for.  A
    filter without leaves is refused for its nesting before its token is looked at, and for the
    token if it nests less. -/
theorem Query.compile_reports_first_offence_mixed :
    ∃ mixed deep flat : Query,
      mixed.filter = some (.all [.eq "a" (.text "x"),
        .any [.isIn "b" [.text "y", .null, .int 1], .isIn "c" []], .eq "d" (.float .nan)])
      ∧ (Sql.Statement.compile (Sql.Named.dialect ⟨none⟩) "items" mixed ()).result
        = .error (.unsupportedValue "b" "null")
      ∧ (Find.Request.compile mixed ()).result = .error (.emptyInList "c")
      ∧ deep.nesting = 128 ∧ deep.page.token = "7 "
      ∧ (∃ why, (Find.Request.compile deep ()).result = .error (.malformedPredicate why))
      ∧ flat.nesting = 126 ∧ flat.page.token = "7 "
      ∧ (Find.Request.compile flat ()).result = .error (.invalidToken "7 ") := by
  let d : Sql.Dialect := Sql.Named.dialect ⟨none⟩
  let mixed : Query := { filter := some (.all [.eq "a" (.text "x"),
    .any [.isIn "b" [.text "y", .null, .int 1], .isIn "c" []], .eq "d" (.float .nan)]) }
  let deep : Query := ⟨some ((fun f => .any [f])^[63] (.all [])), [], ⟨0, "7 "⟩⟩
  let flat : Query := ⟨some ((fun f => .any [f])^[62] (.all [])), [], ⟨0, "7 "⟩⟩
  have hdeep : deep.nesting = 128 := by decide +kernel
  have hflat : flat.nesting = 126 := by decide +kernel
  have hdeepNone : leavesOf deep = [] := by decide +kernel
  have hflatNone : leavesOf flat = [] := by decide +kernel
  have hrefused : ¬(("7 " : String) = "" ∨ ∃ n, Find.parseOffset "7 " = .ok (some n)) := by
    have hword : Find.wordOf? "7 ".toList = none := by decide
    rintro (hempty | ⟨n, hn⟩)
    · exact absurd hempty (by decide)
    · rw [Find.parseOffset, if_neg (by decide), hword] at hn
      cases hn
  refine ⟨mixed, deep, flat, rfl, ?_, ?_, hdeep, rfl, ?_, hflat, rfl, ?_⟩
  · refine ((Query.compile_reports_first_offence d "items" mixed ()).2.1 _).mpr ?_
    exact findSome?_refusal_eq_some_iff.mp rfl
  · obtain ⟨e, he, hresult⟩ := (Query.compile_reports_first_offence d "items" mixed ()).2.2.1
      ⟨("c", []), by decide, Or.inl rfl⟩
    have hfirst : (leavesOf mixed).findSome? (refusal fun v => ¬v.Finite)
        = some (.emptyInList "c") := rfl
    rw [findSome?_refusal_eq_some_iff.mpr he] at hfirst
    rw [hresult, Option.some.inj hfirst]
  · refine ((Query.compile_reports_first_offence d "items" deep ()).2.2.2 ?_).1 ?_
    · rw [hdeepNone]
      exact fun _ h => absurd h List.not_mem_nil
    · rw [hdeep]
      decide
  · refine (((Query.compile_reports_first_offence d "items" flat ()).2.2.2 ?_).2 ?_).2 hrefused
    · rw [hflatNone]
      exact fun _ h => absurd h List.not_mem_nil
    · rw [hflat]
      decide

end StoreQuery
