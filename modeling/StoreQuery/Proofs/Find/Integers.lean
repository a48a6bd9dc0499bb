import StoreQuery.Proofs.Find.Limit
import StoreQuery.Proofs.Find.Meaning
import StoreQuery.Proofs.Find.Order
import StoreQuery.Proofs.Number.Rounding

/-! # Integers — how far fields are matched and ordered by their exact value

    Numbers are compared as doubles, so integers are compared after
    rounding.  Rounding keeps the order: a comparison never puts the greater
    of two integers first.  But it may tie integers that differ, and an
    equality on one of them then matches the other.  It does so only where
    both are at least `2^53` in magnitude and no more than 2048 apart; both
    bounds are reached. -/

namespace StoreQuery

theorem Integer.natAbs_lt (n : Integer) : n.val.natAbs < 2 ^ 64 := by
  have hlow := n.low
  have hhigh := n.high
  omega

namespace Find

open Std (OrientedCmp)

/-- Two integers that are never rounded to one double: one of them is below `2^53` in magnitude, or
    they are more than 2048 apart. -/
def ToldApart (m n : Int) : Prop :=
  m.natAbs < 2 ^ 53 ∨ n.natAbs < 2 ^ 53 ∨ 2048 < (m - n).natAbs

instance (m n : Int) : Decidable (ToldApart m n) :=
  inferInstanceAs (Decidable (_ ∨ _ ∨ _))

theorem ToldApart.symm {m n : Int} (h : ToldApart m n) : ToldApart n m := by
  rcases h with hm | hn | hfar
  · exact Or.inr (Or.inl hm)
  · exact Or.inl hn
  · exact Or.inr (Or.inr (by omega))

/-! ## Order -/

/-- Integers are compared by the units of their doubles. -/
theorem compareValues_int (m n : Integer) :
    compareValues (.num (.int m)) (.num (.int n))
      = compare (FiniteDouble.ofInt m.val).units (FiniteDouble.ofInt n.val).units :=
  rfl

/-- An integer that comes first is the smaller one. -/
theorem lt_of_compareValues_int {m n : Integer}
    (h : compareValues (.num (.int m)) (.num (.int n)) = .lt) : m.val < n.val := by
  rw [compareValues_int, Int.compare_eq_lt] at h
  rcases Int.lt_or_le m.val n.val with hlt | hle
  · exact hlt
  · have hunits := FiniteDouble.units_ofInt_mono n.natAbs_lt m.natAbs_lt hle
    omega

/-- The smaller one of two integers that are told apart comes first. -/
theorem compareValues_int_of_lt {m n : Integer} (h : m.val < n.val)
    (hapart : ToldApart m.val n.val) : compareValues (.num (.int m)) (.num (.int n)) = .lt := by
  rw [compareValues_int, Int.compare_eq_lt]
  exact FiniteDouble.units_ofInt_lt m.natAbs_lt n.natAbs_lt h hapart

/-- Integers are compared by their exact value if they are the same or told apart. -/
theorem compareValues_int_exact {m n : Integer} (h : m.val = n.val ∨ ToldApart m.val n.val) :
    compareValues (.num (.int m)) (.num (.int n)) = compare m.val n.val := by
  have hself (heq : m.val = n.val) :
      compareValues (.num (.int m)) (.num (.int n)) = compare m.val n.val := by
    rw [compareValues_int, heq, Int.compare_eq_eq.mpr rfl, Int.compare_eq_eq.mpr rfl]
  rcases h with heq | hapart
  · exact hself heq
  · rcases Int.lt_trichotomy m.val n.val with hlt | heq | hgt
    · rw [compareValues_int_of_lt hlt hapart, Int.compare_eq_lt.mpr hlt]
    · exact hself heq
    · rw [OrientedCmp.gt_iff_lt.mpr (compareValues_int_of_lt hgt hapart.symm),
        Int.compare_eq_gt.mpr hgt]

-- integers that are 2048 apart may still tie
example : compareValues (.num (.int (.ofUInt64 0x8000000000000C00)))
    (.num (.int (.ofUInt64 0x8000000000001400))) = .eq := by decide +kernel

/-! ## Equality -/

/-- An equality with an integer is compiled unless the token is refused. -/
theorem compile_integer {σ : Type} {q : Query} {key : String} {v : Value} {n : Integer}
    (hq : q.filter = some (.eq key v)) (hv : v.toJson = .num (.int n))
    (htoken : q.page.token = "" ∨ ∃ k, parseOffset q.page.token = .ok (some k)) (s : σ) :
    ∃ r, (Request.compile q s).result = .ok r ∧ r.filter = document (.eq key v) := by
  -- the doubles that are not finite have `null` as their scalar, which is no integer
  have hfinite : v.Finite := by
    cases v with
    | float d =>
      cases d with
      | finite _ => trivial
      | infinite _ => exact Json.noConfusion hv
      | nan => exact Json.noConfusion hv
    | _ => trivial
  have hrenderable : (Filter.eq key v).Renderable := by
    constructor
    · intro leaf hleaf
      rw [List.mem_singleton.mp hleaf]
      exact List.cons_ne_nil _ _
    · intro w hw
      rw [List.mem_singleton.mp hw]
      exact hfinite
  obtain ⟨options, hoptions⟩ := exists_optionsOf htoken
  refine ⟨⟨predicate (.eq key v), document (.eq key v), options⟩, ?_, rfl⟩
  rw [compile_renderable hq hrenderable, hoptions]
  rfl

/-- An equality with an integer matches a field with an integer when the comparison ties them. -/
theorem satisfies_integer {doc : Json} {key : String} {v : Value} {m n : Integer}
    (hv : v.toJson = .num (.int n)) (hand : key ≠ andClause) (hor : key ≠ orClause)
    (hdoc : resolve doc key = .num (.int m)) :
    satisfies doc (document (.eq key v)) = true
      ↔ compareValues (.num (.int m)) (.num (.int n)) = .eq := by
  -- the field is no list, so it matches as a whole or not at all
  have hmatches : valueMatches (.num (.int m)) (.num (.int n))
      = (compareValues (.num (.int m)) (.num (.int n)) == .eq) := Bool.or_false _
  rw [document, satisfies_clause (toJson_ne_arr v), fieldMatches_toJson, ← resolve_eq_valueAt, hdoc,
    hv, hmatches, beq_iff_eq]
  constructor
  · rintro ⟨-, -, htie⟩
    exact htie
  · intro htie
    exact ⟨hand, hor, htie⟩

/-- Integers are never put in the wrong order, and they are matched and ordered by their exact
    value wherever they are told apart. -/
theorem integers_exact_where_told_apart {σ : Type} (m n : Integer) (s : σ) :
    (compareValues (.num (.int m)) (.num (.int n)) = .lt → m.val < n.val)
    ∧ (compareValues (.num (.int m)) (.num (.int n)) = .gt → n.val < m.val)
    ∧ (m.val = n.val ∨ ToldApart m.val n.val →
        compareValues (.num (.int m)) (.num (.int n)) = compare m.val n.val)
    ∧ ∀ (q : Query) (key : String) (v : Value), q.filter = some (.eq key v) →
        v.toJson = .num (.int n) → key ≠ andClause → key ≠ orClause →
        (q.page.token = "" ∨ ∃ k, parseOffset q.page.token = .ok (some k)) →
        ∃ r, (Request.compile q s).result = .ok r
          ∧ ∀ doc, resolve doc key = .num (.int m) →
            (satisfies doc r.filter = true
              ↔ compareValues (.num (.int m)) (.num (.int n)) = .eq)
            ∧ (m.val = n.val ∨ ToldApart m.val n.val →
              (satisfies doc r.filter = true ↔ m.val = n.val)) := by
  refine ⟨lt_of_compareValues_int, ?_, compareValues_int_exact, ?_⟩
  · intro hgt
    exact lt_of_compareValues_int (OrientedCmp.gt_iff_lt.mp hgt)
  · intro q key v hq hv hand hor htoken
    obtain ⟨r, hcompile, hfilter⟩ := compile_integer hq hv htoken s
    refine ⟨r, hcompile, ?_⟩
    intro doc hdoc
    rw [hfilter, satisfies_integer hv hand hor hdoc]
    refine ⟨Iff.rfl, ?_⟩
    intro hexact
    rw [compareValues_int_exact hexact, Int.compare_eq_eq]

/-- The greatest integer is told apart from one that is 2049 smaller, and an equality with the one
    does not match the other. -/
theorem integers_exact_where_told_apart_greatest :
    let m : Integer := .ofUInt64 0xFFFFFFFFFFFFF7FE
    let n : Integer := .ofUInt64 0xFFFFFFFFFFFFFFFF
    compareValues (.num (.int m)) (.num (.int n)) = .lt
    ∧ ∃ r, (Request.compile { filter := some (.eq "a" (.uint 0xFFFFFFFFFFFFFFFF)) } ()).result
        = .ok r ∧ satisfies (.obj [("a", .num (.int m))]) r.filter = false := by
  intro m n
  have hapart : ToldApart m.val n.val := by decide
  obtain ⟨-, -, hcompare, hmatch⟩ := integers_exact_where_told_apart m n ()
  obtain ⟨r, hcompile, hdoc⟩ := hmatch { filter := some (.eq "a" (.uint 0xFFFFFFFFFFFFFFFF)) } "a"
    _ rfl rfl (by decide) (by decide) (Or.inl rfl)
  refine ⟨(hcompare (Or.inr hapart)).trans (by decide), r, hcompile, ?_⟩
  have hiff := (hdoc (.obj [("a", .num (.int m))]) rfl).2 (Or.inr hapart)
  rw [Bool.eq_false_iff, ne_eq, hiff]
  decide

/-- The first integer that no double holds ties with the one before it, and an equality with it
    matches that one. -/
theorem integers_tie_beyond_doubles :
    let m : Integer := .ofInt64 9007199254740992
    let n : Integer := .ofInt64 9007199254740993
    m.val < n.val ∧ compareValues (.num (.int m)) (.num (.int n)) = .eq
    ∧ ∃ r, (Request.compile { filter := some (.eq "a" (.int 9007199254740993)) } ()).result = .ok r
        ∧ satisfies (.obj [("a", .num (.int m))]) r.filter = true := by
  intro m n
  have htie : compareValues (.num (.int m)) (.num (.int n)) = .eq := by decide +kernel
  let q : Query := { filter := some (.eq "a" (.int 9007199254740993)) }
  obtain ⟨r, hcompile, hfilter⟩ := compile_integer (q := q) rfl rfl (Or.inl rfl) ()
  refine ⟨by decide, htie, r, hcompile, ?_⟩
  rw [hfilter, satisfies_integer (n := n) rfl (by decide) (by decide) rfl]
  exact htie

end Find

end StoreQuery
