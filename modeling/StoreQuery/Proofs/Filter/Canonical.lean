import Mathlib.Data.List.Forall2
import StoreQuery.Filter.Generic
import StoreQuery.Proofs.Act
import StoreQuery.Proofs.Filter.Basic

/-! # Canonical filters — reading accepts exactly what writing produces

    Several filters can have one generic form: an unsigned value below
    `2^63` is written like the signed one, and a double that is not finite
    like `null`.  Reading never gives those, nor a filter that the checked
    constructors refuse.  What is left are the canonical filters, and on
    them reading and writing are inverse to each other.

    The route: `Value.ofJson?_eq_some_iff` says it of the scalars, one
    lemma each inverts the body of a leaf and of a compound, and induction
    on the filter puts the levels together. -/

namespace StoreQuery

/-- A value that reading its JSON scalar gives back: an unsigned value is beyond the signed ones,
    and a double is finite. -/
def Value.Canonical : Value → Prop
  | .uint n => 2 ^ 63 ≤ n.toNat
  | .float (.finite _) => True
  | .float _ => False
  | _ => True

instance : DecidablePred Value.Canonical
  | .uint n => inferInstanceAs (Decidable (2 ^ 63 ≤ n.toNat))
  | .float (.finite _) => .isTrue trivial
  | .float (.infinite _) => .isFalse id
  | .float .nan => .isFalse id
  | .text _ => .isTrue trivial
  | .int _ => .isTrue trivial
  | .bool _ => .isTrue trivial
  | .null => .isTrue trivial

/-- A filter that reading its generic form gives back. -/
structure Filter.Canonical (f : Filter) : Prop where
  wellFormed : f.WellFormed
  values : ∀ v ∈ f.values, v.Canonical

/-! ## Scalars -/

/-- A signed word is read back from its integer. -/
theorem Value.ofJson?_int (n : Int64) : Value.ofJson? (Value.int n).toJson = some (.int n) := by
  have hlt : (Integer.ofInt64 n).val < 2 ^ 63 := n.toInt_lt
  simp only [Value.toJson, Value.ofJson?]
  rw [if_pos hlt, show (Integer.ofInt64 n).val = n.toInt from rfl, Int64.ofInt_toInt]

/-- An unsigned word beyond the signed ones is read back from its integer. -/
theorem Value.ofJson?_uint {n : UInt64} (h : 2 ^ 63 ≤ n.toNat) :
    Value.ofJson? (Value.uint n).toJson = some (.uint n) := by
  have hval : (Integer.ofUInt64 n).val = n.toNat := rfl
  have hge : ¬(Integer.ofUInt64 n).val < 2 ^ 63 := by omega
  simp only [Value.toJson, Value.ofJson?]
  rw [if_neg hge, hval, Int.toNat_natCast, UInt64.ofNat_toNat]

/-- The signed word of an integer that fits is written as that integer. -/
theorem Integer.ofInt64_ofInt {n : Integer} (h : n.val < 2 ^ 63) :
    Integer.ofInt64 (Int64.ofInt n.val) = n := by
  have hval : (Int64.ofInt n.val).toInt = n.val := Int64.toInt_ofInt_of_le n.low h
  obtain ⟨val, low, high⟩ := n
  simp only [Integer.ofInt64, Integer.mk.injEq]
  exact hval

/-- The unsigned word of an integer that is not negative is written as that integer. -/
theorem Integer.ofUInt64_ofNat {n : Integer} (h : 0 ≤ n.val) :
    Integer.ofUInt64 (UInt64.ofNat n.val.toNat) = n := by
  obtain ⟨val, low, high⟩ := n
  have hlt : val.toNat < 2 ^ 64 := by omega
  simp only [Integer.ofUInt64, Integer.mk.injEq, UInt64.toNat_ofNat_of_lt' hlt]
  exact Int.toNat_of_nonneg h

/-- Reading a scalar gives exactly the canonical value that is written like it. -/
theorem Value.ofJson?_eq_some_iff {j : Json} {v : Value} :
    Value.ofJson? j = some v ↔ v.Canonical ∧ v.toJson = j := by
  constructor
  · intro h
    match j, h with
    | .null, h => obtain rfl := Option.some.inj h; exact ⟨trivial, rfl⟩
    | .bool b, h => obtain rfl := Option.some.inj h; exact ⟨trivial, rfl⟩
    | .str s, h => obtain rfl := Option.some.inj h; exact ⟨trivial, rfl⟩
    | .num (.double d), h => obtain rfl := Option.some.inj h; exact ⟨trivial, rfl⟩
    | .num (.int n), h =>
      -- an integer is read as a signed word if it is one, and as an unsigned word beyond them
      simp only [Value.ofJson?] at h
      split at h
      · next hn =>
        obtain rfl := Option.some.inj h
        exact ⟨trivial, by rw [Value.toJson, Integer.ofInt64_ofInt hn]⟩
      · next hn =>
        obtain rfl := Option.some.inj h
        have hlt : n.val.toNat < 2 ^ 64 := by have := n.high; omega
        refine ⟨?_, by rw [Value.toJson, Integer.ofUInt64_ofNat (by omega)]⟩
        show 2 ^ 63 ≤ (UInt64.ofNat n.val.toNat).toNat
        rw [UInt64.toNat_ofNat_of_lt' hlt]
        omega
    | .arr _, h => exact nomatch h
    | .obj _, h => exact nomatch h
  · rintro ⟨hv, rfl⟩
    -- the values that are not canonical leave no case
    match v, hv with
    | .text s, _ => rfl
    | .int n, _ => exact Value.ofJson?_int n
    | .uint n, hv => exact Value.ofJson?_uint hv
    | .float (.finite d), _ => rfl
    | .bool b, _ => rfl
    | .null, _ => rfl

namespace Filter

/-- Reading scalars gives exactly the canonical values that are written like them. -/
theorem valuesOfJson?_eq_some_iff {items : List Json} {vs : List Value} :
    valuesOfJson? items = some vs ↔ (∀ v ∈ vs, v.Canonical) ∧ vs.map Value.toJson = items := by
  induction items generalizing vs with
  | nil =>
    cases vs with
    | nil => simp [valuesOfJson?]
    | cons v rest => simp [valuesOfJson?]
  | cons item rest ih =>
    constructor
    · intro h
      simp only [valuesOfJson?, Option.bind_eq_bind, Option.bind_eq_some_iff, Option.pure_def,
        Option.some.injEq] at h
      obtain ⟨w, hw, ws, hws, rfl⟩ := h
      obtain ⟨hc, rfl⟩ := Value.ofJson?_eq_some_iff.mp hw
      obtain ⟨hcs, rfl⟩ := ih.mp hws
      exact ⟨List.forall_mem_cons.mpr ⟨hc, hcs⟩, rfl⟩
    · rintro ⟨hc, h⟩
      obtain ⟨w, ws, rfl, rfl, hws⟩ := List.map_eq_cons_iff.mp h
      obtain ⟨hw, hcs⟩ := List.forall_mem_cons.mp hc
      simp only [valuesOfJson?, Value.ofJson?_eq_some_iff.mpr ⟨hw, rfl⟩, ih.mpr ⟨hcs, hws⟩]
      rfl

/-- Writing several filters writes each of them. -/
theorem childrenToJson_eq_map (children : List Filter) :
    childrenToJson children = children.map toJson := by
  induction children with
  | nil => rfl
  | cons child rest ih => rw [childrenToJson, ih, List.map_cons]

theorem toJson_compound (connective : Connective) (children : List Filter) :
    (compound connective children).toJson
      = .obj [(connective.operator.name, .arr (childrenToJson children))] := by
  cases connective <;> rw [compound, toJson, Connective.operator]

/-! ## Bodies -/

/-- The body of an equality is read as exactly the filter that is written so. -/
theorem eqOfJson_eq_ok_iff {body : Json} {f : Filter} :
    eqOfJson body = .ok f ↔
      ∃ key value, f = .eq key value ∧ value.Canonical ∧ body = .obj [(key, value.toJson)] := by
  constructor
  · intro h
    unfold eqOfJson at h
    split at h
    · next key j =>
      cases hv : Value.ofJson? j with
      | none => rw [hv] at h; exact nomatch h
      | some value =>
        rw [hv] at h
        obtain ⟨hc, rfl⟩ := Value.ofJson?_eq_some_iff.mp hv
        exact ⟨key, value, (Except.ok.inj h).symm, hc, rfl⟩
    · exact nomatch h
    · exact nomatch h
  · rintro ⟨key, value, rfl, hc, rfl⟩
    simp only [eqOfJson, Value.ofJson?_eq_some_iff.mpr ⟨hc, rfl⟩]

/-- The body of a membership is read as exactly the filter that is written so. -/
theorem isInOfJson_eq_ok_iff {body : Json} {f : Filter} :
    isInOfJson body = .ok f ↔
      ∃ key values, f = .isIn key values ∧ values ≠ [] ∧ (∀ v ∈ values, v.Canonical)
        ∧ body = .obj [(key, .arr (values.map Value.toJson))] := by
  constructor
  · intro h
    unfold isInOfJson at h
    split at h
    · exact nomatch h
    · next key items hne =>
      cases hv : valuesOfJson? items with
      | none => rw [hv] at h; exact nomatch h
      | some values =>
        rw [hv] at h
        obtain ⟨hc, rfl⟩ := valuesOfJson?_eq_some_iff.mp hv
        refine ⟨key, values, (Except.ok.inj h).symm, ?_, hc, rfl⟩
        rintro rfl
        exact hne rfl
    · exact nomatch h
    · exact nomatch h
    · exact nomatch h
  · rintro ⟨key, values, rfl, hne, hc, rfl⟩
    have hread := valuesOfJson?_eq_some_iff.mpr ⟨hc, rfl⟩
    cases values with
    | nil => exact absurd rfl hne
    | cons v rest =>
      rw [List.map_cons] at hread ⊢
      simp only [isInOfJson, hread]

/-- Filters are read one by one. -/
theorem childrenOfJson_eq_ok_iff {items : List Json} {children : List Filter} :
    childrenOfJson items = .ok children ↔
      List.Forall₂ (fun item child => ofJson item = .ok child) items children := by
  induction items generalizing children with
  | nil =>
    rw [List.forall₂_nil_left_iff, childrenOfJson]
    exact ⟨fun h => (Except.ok.inj h).symm, fun h => h ▸ rfl⟩
  | cons item rest ih =>
    rw [List.forall₂_cons_left_iff]
    constructor
    · intro h
      obtain ⟨child, hchild, h⟩ := bind_eq_ok_iff.mp h
      obtain ⟨others, hothers, h⟩ := bind_eq_ok_iff.mp h
      exact ⟨child, others, hchild, ih.mp hothers, (Except.ok.inj h).symm⟩
    · rintro ⟨child, others, hchild, hothers, rfl⟩
      rw [childrenOfJson, hchild, ih.mpr hothers]
      rfl

/-- The body of a compound is read as exactly two filters or more, each read from its item. -/
theorem compoundOfJson_eq_ok_iff {op : Operator} {body : Json} {children : List Filter} :
    compoundOfJson op body = .ok children ↔
      ∃ items, body = .arr items ∧ 2 ≤ items.length
        ∧ List.Forall₂ (fun item child => ofJson item = .ok child) items children := by
  constructor
  · intro h
    unfold compoundOfJson at h
    split at h
    · next items =>
      obtain ⟨_, harity, h⟩ := bind_eq_ok_iff.mp h
      refine ⟨items, rfl, ?_, childrenOfJson_eq_ok_iff.mp h⟩
      -- too few items are refused before any is read
      by_contra hlt
      rw [checkArity, if_pos (by omega)] at harity
      exact nomatch harity
    · exact nomatch h
  · rintro ⟨items, rfl, hlen, h⟩
    rw [compoundOfJson, checkArity, if_neg (by omega)]
    exact bind_eq_ok_iff.mpr ⟨(), rfl, childrenOfJson_eq_ok_iff.mpr h⟩

/-! ## One node -/

/-- What a value that is read as a filter looks like: the operator of the filter names its body. -/
theorem ofJson_eq_ok_cases {j : Json} {f : Filter} (h : ofJson j = .ok f) :
    (∃ key value, f = .eq key value ∧ value.Canonical
        ∧ j = .obj [(Operator.eq.name, .obj [(key, value.toJson)])])
    ∨ (∃ key values, f = .isIn key values ∧ (values ≠ [] ∧ ∀ v ∈ values, v.Canonical)
        ∧ j = .obj [(Operator.isIn.name, .obj [(key, .arr (values.map Value.toJson))])])
    ∨ (∃ connective items children, f = .compound connective children
        ∧ j = .obj [(connective.operator.name, .arr items)] ∧ 2 ≤ items.length
        ∧ List.Forall₂ (fun item child => ofJson item = .ok child) items children) := by
  unfold ofJson at h
  split at h
  · next op body =>
    -- the four names are tried one after the other; a name beyond them leaves nothing to prove
    split_ifs at h with heq hin hall hany
    · obtain ⟨key, value, hf, hc, rfl⟩ := eqOfJson_eq_ok_iff.mp h
      exact Or.inl ⟨key, value, hf, hc, by rw [heq]⟩
    · obtain ⟨key, values, hf, hne, hc, rfl⟩ := isInOfJson_eq_ok_iff.mp h
      exact Or.inr (Or.inl ⟨key, values, hf, ⟨hne, hc⟩, by rw [hin]⟩)
    · obtain ⟨children, hc, hf⟩ := bind_eq_ok_iff.mp h
      obtain ⟨items, rfl, hlen, hread⟩ := compoundOfJson_eq_ok_iff.mp hc
      exact Or.inr (Or.inr
        ⟨.all, items, children, (Except.ok.inj hf).symm, by rw [hall]; rfl, hlen, hread⟩)
    · obtain ⟨children, hc, hf⟩ := bind_eq_ok_iff.mp h
      obtain ⟨items, rfl, hlen, hread⟩ := compoundOfJson_eq_ok_iff.mp hc
      exact Or.inr (Or.inr
        ⟨.any, items, children, (Except.ok.inj hf).symm, by rw [hany]; rfl, hlen, hread⟩)
  · exact nomatch h
  · exact nomatch h

/-- The body of an equality is read under its operator's name. -/
theorem ofJson_eq (body : Json) : ofJson (.obj [(Operator.eq.name, body)]) = eqOfJson body := by
  rw [ofJson, if_pos rfl]

/-- The body of a membership is read under its operator's name. -/
theorem ofJson_isIn (body : Json) :
    ofJson (.obj [(Operator.isIn.name, body)]) = isInOfJson body := by
  rw [ofJson, if_neg (by decide), if_pos rfl]

/-- The body of a compound is read under its operator's name. -/
theorem ofJson_compound {connective : Connective} {body : Json} {children : List Filter}
    (h : compoundOfJson connective.operator body = .ok children) :
    ofJson (.obj [(connective.operator.name, body)]) = .ok (.compound connective children) := by
  cases connective with
  | all =>
    rw [Connective.operator, ofJson, if_neg (by decide), if_neg (by decide), if_pos rfl]
    exact bind_eq_ok_iff.mpr ⟨children, h, rfl⟩
  | any =>
    rw [Connective.operator, ofJson, if_neg (by decide), if_neg (by decide), if_neg (by decide),
      if_pos rfl]
    exact bind_eq_ok_iff.mpr ⟨children, h, rfl⟩

/-! ## Whole filters -/

/-- An equality is canonical when its value is. -/
theorem canonical_eq_iff {key : String} {value : Value} :
    (Filter.eq key value).Canonical ↔ value.Canonical :=
  ⟨fun h => h.values value (List.mem_singleton_self value),
    fun h => ⟨.eq key value, fun _ hv => List.mem_singleton.mp hv ▸ h⟩⟩

/-- A membership is canonical when it lists a value and all its values are. -/
theorem canonical_isIn_iff {key : String} {values : List Value} :
    (Filter.isIn key values).Canonical ↔ values ≠ [] ∧ ∀ v ∈ values, v.Canonical := by
  constructor
  · rintro ⟨hwf, hv⟩
    rw [values_isIn] at hv
    cases hwf with
    | isIn _ hne => exact ⟨hne, hv⟩
  · rintro ⟨hne, hv⟩
    exact ⟨.isIn key hne, by rw [values_isIn]; exact hv⟩

/-- A compound is canonical when it has two children or more and they all are. -/
theorem canonical_compound_iff {connective : Connective} {children : List Filter} :
    (Filter.compound connective children).Canonical
      ↔ 2 ≤ children.length ∧ ∀ c ∈ children, c.Canonical := by
  constructor
  · rintro ⟨hwf, hv⟩
    obtain ⟨hlength, hchildren⟩ := wellFormed_compound_iff.mp hwf
    refine ⟨hlength, fun c hc => ⟨hchildren c hc, fun v hvc => ?_⟩⟩
    exact hv v (mem_values_compound.mpr ⟨c, hc, hvc⟩)
  · rintro ⟨hlength, hchildren⟩
    refine ⟨wellFormed_compound_iff.mpr ⟨hlength, fun c hc => (hchildren c hc).wellFormed⟩, ?_⟩
    intro v hv
    obtain ⟨c, hc, hvc⟩ := mem_values_compound.mp hv
    exact (hchildren c hc).values v hvc

/-- Where each child is read from exactly its own form, so are children from a list of forms. -/
theorem forall₂_ofJson_iff {items : List Json} {children : List Filter}
    (ih : ∀ c ∈ children, ∀ j, ofJson j = .ok c ↔ c.Canonical ∧ c.toJson = j) :
    List.Forall₂ (fun item child => ofJson item = .ok child) items children ↔
      (∀ c ∈ children, c.Canonical) ∧ childrenToJson children = items := by
  rw [childrenToJson_eq_map]
  induction children generalizing items with
  | nil =>
    rw [List.forall₂_nil_right_iff]
    simp [eq_comm]
  | cons child rest ihr =>
    obtain ⟨hchild, hrest⟩ := List.forall_mem_cons.mp ih
    rw [List.forall₂_cons_right_iff, List.forall_mem_cons, List.map_cons]
    constructor
    · rintro ⟨item, items, hitem, hitems, rfl⟩
      obtain ⟨hc, rfl⟩ := (hchild item).mp hitem
      obtain ⟨hcs, rfl⟩ := (ihr hrest).mp hitems
      exact ⟨⟨hc, hcs⟩, rfl⟩
    · rintro ⟨⟨hc, hcs⟩, rfl⟩
      exact ⟨child.toJson, rest.map toJson, (hchild _).mpr ⟨hc, rfl⟩,
        (ihr hrest).mpr ⟨hcs, rfl⟩, rfl⟩

/-- Where each child is read from exactly its own form, enough children are read from exactly the
    list of their forms. -/
theorem children_read_iff {items : List Json} {children : List Filter}
    (ih : ∀ c ∈ children, ∀ j, ofJson j = .ok c ↔ c.Canonical ∧ c.toJson = j) :
    (2 ≤ items.length ∧ List.Forall₂ (fun item child => ofJson item = .ok child) items children) ↔
      (2 ≤ children.length ∧ ∀ c ∈ children, c.Canonical) ∧ childrenToJson children = items := by
  constructor
  · rintro ⟨hlength, hread⟩
    obtain ⟨hcanonical, hitems⟩ := (forall₂_ofJson_iff ih).mp hread
    exact ⟨⟨hread.length_eq ▸ hlength, hcanonical⟩, hitems⟩
  · rintro ⟨⟨hlength, hcanonical⟩, hitems⟩
    have hread := (forall₂_ofJson_iff ih).mpr ⟨hcanonical, hitems⟩
    exact ⟨hread.length_eq ▸ hlength, hread⟩

/-- A filter is read from exactly one value, its own generic form, and only if it is canonical. -/
theorem ofJson_eq_ok_iff (f : Filter) :
    ∀ j, ofJson j = .ok f ↔ f.Canonical ∧ f.toJson = j := by
  -- in each case the value's operator must be that of the filter, and the others drop out
  induction f with
  | eq key value =>
    intro j
    rw [canonical_eq_iff, toJson]
    constructor
    · intro h
      obtain ⟨_, _, ⟨⟩, hc, rfl⟩ | ⟨_, _, ⟨⟩, -⟩ | ⟨_, _, _, hf, -⟩ := ofJson_eq_ok_cases h
      · exact ⟨hc, rfl⟩
      · exact absurd hf (isLeaf_eq _ _ _ _)
    · rintro ⟨hc, rfl⟩
      rw [ofJson_eq]
      exact eqOfJson_eq_ok_iff.mpr ⟨key, value, rfl, hc, rfl⟩
  | isIn key values =>
    intro j
    rw [canonical_isIn_iff, toJson]
    constructor
    · intro h
      obtain ⟨_, _, ⟨⟩, -⟩ | ⟨_, _, ⟨⟩, hc, rfl⟩ | ⟨_, _, _, hf, -⟩ := ofJson_eq_ok_cases h
      · exact ⟨hc, rfl⟩
      · exact absurd hf (isLeaf_isIn _ _ _ _)
    · rintro ⟨⟨hne, hc⟩, rfl⟩
      rw [ofJson_isIn]
      exact isInOfJson_eq_ok_iff.mpr ⟨key, values, rfl, hne, hc, rfl⟩
  | compound connective children ih =>
    intro j
    rw [canonical_compound_iff, toJson_compound]
    constructor
    · intro h
      obtain ⟨_, _, hf, -⟩ | ⟨_, _, hf, -⟩ | ⟨_, _, _, hf, rfl, hread⟩ := ofJson_eq_ok_cases h
      · exact absurd hf.symm (isLeaf_eq _ _ _ _)
      · exact absurd hf.symm (isLeaf_isIn _ _ _ _)
      · obtain ⟨rfl, rfl⟩ := compound_inj hf
        obtain ⟨hcanonical, rfl⟩ := (children_read_iff ih).mp hread
        exact ⟨hcanonical, rfl⟩
    · rintro ⟨hcanonical, rfl⟩
      have hread := (children_read_iff ih).mpr ⟨hcanonical, rfl⟩
      exact ofJson_compound (compoundOfJson_eq_ok_iff.mpr ⟨_, rfl, hread⟩)

/-- Reading filters inverts writing them: it accepts exactly the generic forms of canonical
    filters, gives each one back, and refuses every other value. -/
theorem ofJson_accepts_exactly_canonical :
    (∀ (j : Json) (f : Filter), ofJson j = .ok f ↔ f.Canonical ∧ f.toJson = j)
    ∧ (∀ f : Filter, f.Canonical → ofJson f.toJson = .ok f)
    ∧ (∀ (j : Json) (f : Filter), ofJson j = .ok f → f.toJson = j)
    ∧ (∀ j : Json, (¬∃ f : Filter, f.Canonical ∧ f.toJson = j) → ∃ why, ofJson j = .error why) := by
  refine ⟨fun j f => ofJson_eq_ok_iff f j, ?_, ?_, ?_⟩
  · intro f hf
    exact (ofJson_eq_ok_iff f _).mpr ⟨hf, rfl⟩
  · intro j f h
    exact ((ofJson_eq_ok_iff f j).mp h).2
  · intro j hno
    cases h : ofJson j with
    | error why => exact ⟨why, rfl⟩
    | ok f => exact absurd ⟨f, (ofJson_eq_ok_iff f j).mp h⟩ hno

/-- The first unsigned value beyond the signed ones survives inside a compound. -/
theorem ofJson_toJson_beyond_signed :
    ofJson (Filter.any [.eq "n" (.uint 0x8000000000000000), .isIn "m" [.int (-1), .null]]).toJson
      = .ok (Filter.any [.eq "n" (.uint 0x8000000000000000), .isIn "m" [.int (-1), .null]]) := by
  refine ofJson_accepts_exactly_canonical.2.1 _ ?_
  show (Filter.compound .any _).Canonical
  refine canonical_compound_iff.mpr ⟨by decide, ?_⟩
  rw [List.forall_mem_cons, List.forall_mem_singleton, canonical_eq_iff, canonical_isIn_iff]
  exact ⟨by decide +kernel, by simp, by decide⟩

end Filter

end StoreQuery
