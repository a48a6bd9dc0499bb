import Mathlib.Data.List.Nodup
import StoreQuery.Proofs.Sql.Text

/-! # Reading a statement back — the compiled text means the query

    A filter becomes a proper predicate, whose text has a reading; and as the
    grammar is unambiguous it has no other.  Putting the parameters' values
    back in place of the placeholders, and the keys in place of the fields,
    then undoes `place` (`filter?_place`), because the placeholders are
    numbered in the order in which the values are bound. -/

namespace StoreQuery.Sql

/-! ## Placed filters are proper -/

/-- The predicates of several filters are those of each, at some number of parameters. -/
theorem mem_placeAll {d : Dialect} {k : Nat} {children : List Filter} {p : Predicate}
    (h : p ∈ placeAll d k children) : ∃ c ∈ children, ∃ k, p = place d k c := by
  induction children generalizing k with
  | nil => exact nomatch h
  | cons child rest ih =>
    rcases List.mem_cons.mp h with rfl | hrest
    · exact ⟨child, List.mem_cons_self, k, rfl⟩
    · obtain ⟨c, hc, hp⟩ := ih hrest
      exact ⟨c, List.mem_cons_of_mem child hc, hp⟩

theorem length_placeAll (d : Dialect) (k : Nat) (children : List Filter) :
    (placeAll d k children).length = children.length := by
  induction children generalizing k with
  | nil => rfl
  | cons child rest ih => rw [placeAll, List.length_cons, ih, List.length_cons]

/-- A well-formed filter becomes a proper predicate, in a dialect whose fields and placeholders are
    such. -/
theorem place_proper {d : Dialect} (hplaceholder : ∀ i, IsPlaceholder (d.placeholder i))
    {f : Filter} (h : f.WellFormed) (hfield : ∀ leaf ∈ f.leaves, IsName (d.field leaf.1))
    (k : Nat) : Proper (place d k f) := by
  induction f generalizing k with
  | eq key value => exact .eq (hfield _ (List.mem_singleton_self _)) (hplaceholder k)
  | isIn key values =>
    cases h with
    | isIn _ hne =>
      refine .isIn (hfield _ (List.mem_singleton_self _)) ?_ ?_
      · intro hnil
        have hcount := congrArg List.length hnil
        rw [placeholders, List.length_map, List.length_range'] at hcount
        exact hne (List.length_eq_zero_iff.mp hcount)
      · intro p hp
        obtain ⟨i, _, rfl⟩ := List.mem_map.mp hp
        exact hplaceholder i
  | compound connective children ih =>
    obtain ⟨hlength, hchildren⟩ := Filter.wellFormed_compound_iff.mp h
    rw [place_compound]
    refine .compound (by rw [length_placeAll]; exact hlength) ?_
    intro p hp
    obtain ⟨c, hc, k, rfl⟩ := mem_placeAll hp
    refine ih c hc (hchildren c hc) ?_ k
    exact fun leaf hleaf => hfield leaf (Filter.mem_leaves_compound.mpr ⟨c, hc, hleaf⟩)

/-! ## Putting values and keys back -/

section PutBack

variable (key? : String → Option String) (value? : String → Option Value)

mutual

/-- The filter of a predicate, by the keys of its fields and the values of its placeholders. -/
def Predicate.filter? : Predicate → Option Filter
  | .eq field placeholder => do
      let key ← key? field
      let value ← value? placeholder
      some (.eq key value)
  | .isIn field placeholders => do
      let key ← key? field
      let values ← placeholders.mapM value?
      some (.isIn key values)
  | .all children => do
      let filters ← Predicate.filters? children
      some (.all filters)
  | .any children => do
      let filters ← Predicate.filters? children
      some (.any filters)

/-- The filters of several predicates. -/
def Predicate.filters? : List Predicate → Option (List Filter)
  | [] => some []
  | child :: rest => do
      let filter ← Predicate.filter? child
      let filters ← Predicate.filters? rest
      some (filter :: filters)

end

theorem filter?_compound (connective : Connective) (children : List Predicate) :
    (Predicate.compound connective children).filter? key? value?
      = (Predicate.filters? key? value? children).map (.compound connective) := by
  cases connective with
  | all | any =>
    rw [Predicate.compound, Predicate.filter?]
    cases Predicate.filters? key? value? children <;> rfl

variable {key? value?} {d : Dialect}

/-- The placeholders from the `k`th on have the given values. -/
def Supplies (value? : String → Option Value) (d : Dialect) (k : Nat) : List Value → Prop
  | [] => True
  | value :: rest => value? (d.placeholder k) = some value ∧ Supplies value? d (k + 1) rest

theorem supplies_append {k : Nat} {values more : List Value} :
    Supplies value? d k (values ++ more)
      ↔ Supplies value? d k values ∧ Supplies value? d (k + values.length) more := by
  induction values generalizing k with
  | nil => exact ⟨fun h => ⟨trivial, h⟩, fun h => h.2⟩
  | cons value rest ih =>
    rw [List.cons_append, Supplies, Supplies, ih, List.length_cons, and_assoc, Nat.add_assoc,
      Nat.add_comm 1]

/-- The placeholders of a list of values have these values. -/
theorem mapM_placeholders {k : Nat} {values : List Value} (h : Supplies value? d k values) :
    (placeholders d k values.length).mapM value? = some values := by
  induction values generalizing k with
  | nil => rfl
  | cons value rest ih =>
    rw [List.length_cons, placeholders_succ, List.mapM_cons, h.1, ih h.2]
    rfl

/-- Placed filters are put back in turn, once that is so of each. -/
theorem filters?_placeAll {children : List Filter}
    (ih : ∀ c ∈ children, ∀ k, Supplies value? d k c.values →
      (place d k c).filter? key? value? = some c) {k : Nat}
    (h : Supplies value? d k ((Filter.childLeaves children).flatMap Prod.snd)) :
    Predicate.filters? key? value? (placeAll d k children) = some children := by
  induction children generalizing k with
  | nil => rfl
  | cons child rest ihrest =>
    obtain ⟨hchild, hrest⟩ := List.forall_mem_cons.mp ih
    rw [Filter.childLeaves, List.flatMap_append] at h
    -- the values are supplied in one row, and the child takes the first of them
    obtain ⟨hfirst, hlater⟩ : Supplies value? d k child.values
        ∧ Supplies value? d (k + child.values.length) _ := supplies_append.mp h
    rw [placeAll, Predicate.filters?, hchild k hfirst, ihrest hrest hlater]
    rfl

/-- A placed filter is put back where the fields have their keys and the placeholders their
    values. -/
theorem filter?_place (hkey : ∀ key, key? (d.field key) = some key) {f : Filter} {k : Nat}
    (h : Supplies value? d k f.values) : (place d k f).filter? key? value? = some f := by
  induction f generalizing k with
  | eq key value =>
    rw [place, Predicate.filter?, hkey, h.1]
    rfl
  | isIn key values =>
    rw [Filter.values_isIn] at h
    rw [place, Predicate.filter?, hkey, mapM_placeholders h]
    rfl
  | compound connective children ih =>
    rw [Filter.values, Filter.leaves_compound] at h
    rw [place_compound, filter?_compound, filters?_placeAll (fun c hc k => ih c hc) h]
    rfl

end PutBack

/-! ## Named dialects -/

/-- The value of the parameter with a name. -/
def valueOf (parameters : List Parameter) (name : String) : Option Value :=
  (parameters.find? fun p => p.name == name).map Parameter.value

namespace Named

/-- The key of a field, without the qualifier. -/
def key? (n : Named) (field : String) : Option String :=
  match n.qualifier with
  | some name => ((name ++ ".").toList.isPrefixOf? field.toList).map String.ofList
  | none => some field

theorem key?_field (n : Named) (key : String) : n.key? (n.field key) = some key := by
  obtain ⟨qualifier⟩ := n
  cases qualifier with
  | none => rfl
  | some name =>
    have happend : (name ++ ".").toList.isPrefixOf? (name ++ "." ++ key).toList
        = some key.toList :=
      List.isPrefixOf?_eq_some_iff_append_eq.mpr String.toList_append.symm
    show ((name ++ ".").toList.isPrefixOf? (name ++ "." ++ key).toList).map String.ofList = some key
    rw [happend, Option.map_some, String.ofList_toList]

/-- A name behind a qualifier of name characters is a name. -/
theorem isName_field {n : Named} (hn : ∀ name ∈ n.qualifier, ∀ c ∈ name.toList, isNameChar c = true)
    {key : String} (h : IsName key) : IsName (n.field key) := by
  obtain ⟨qualifier⟩ := n
  cases qualifier with
  | none => exact h
  | some name =>
    have htext : (name ++ "." ++ key).toList = name.toList ++ '.' :: key.toList := by
      rw [String.toList_append, String.toList_append, List.append_assoc]
      rfl
    constructor
    · intro hempty
      have hnil : (name ++ "." ++ key).toList = [] := congrArg String.toList hempty
      rw [htext] at hnil
      exact List.append_ne_nil_of_right_ne_nil _ (List.cons_ne_nil _ _) hnil
    · intro c hc
      have hc' : c ∈ name.toList ++ '.' :: key.toList := htext ▸ hc
      rcases List.mem_append.mp hc' with hc | hc
      · exact hn name rfl c hc
      · rcases List.mem_cons.mp hc with rfl | hc
        · decide
        · exact h.2 c hc

/-- The placeholders are such. -/
theorem isPlaceholder_placeholder (n : Named) (i : Nat) :
    IsPlaceholder (n.dialect.placeholder i) := by
  have htext : ("p" ++ toString i).toList = 'p' :: Nat.toDigits 10 i := by
    rw [String.toList_append, Nat.toString_eq_repr, Nat.toList_repr]
    rfl
  refine ⟨"p" ++ toString i, ⟨?_, ?_⟩, ?_⟩
  · intro hempty
    rw [hempty] at htext
    exact nomatch htext
  · intro c hc
    rw [htext] at hc
    refine isNameChar_of_isAlphanum ?_
    rcases List.mem_cons.mp hc with rfl | hc
    · decide
    · rw [Char.isAlphanum, Nat.isDigit_of_mem_toDigits (by decide) (by decide) hc, Bool.or_true]
  · show "@" ++ "p" ++ toString i = _
    rw [String.append_assoc]

/-- Different parameters have different placeholders. -/
theorem placeholder_injective (n : Named) : Function.Injective n.dialect.placeholder := by
  intro i j h
  have hdigits : Nat.toDigits 10 i = Nat.toDigits 10 j := by
    have hlist : ("@p" ++ toString i).toList = ("@p" ++ toString j).toList :=
      congrArg String.toList h
    rw [String.toList_append, String.toList_append, Nat.toString_eq_repr, Nat.toString_eq_repr,
      Nat.toList_repr, Nat.toList_repr] at hlist
    exact List.append_cancel_left hlist
  have hvalue := congrArg (Nat.ofDigitChars 10 · 0) hdigits
  rw [Nat.ofDigitChars_ten_toDigits, Nat.ofDigitChars_ten_toDigits] at hvalue
  exact hvalue

end Named

/-- The names of bound parameters are the placeholders that come next. -/
theorem map_name_bound (d : Dialect) (k : Nat) (values : List Value) :
    (bound d k values).map Parameter.name = placeholders d k values.length := by
  induction values generalizing k with
  | nil => rfl
  | cons value rest ih => rw [bound, List.map_cons, ih, List.length_cons, placeholders_succ]

/-- No two of them are the same. -/
theorem Named.nodup_name_bound (n : Named) (k : Nat) (values : List Value) :
    ((bound n.dialect k values).map Parameter.name).Nodup := by
  rw [map_name_bound, placeholders]
  exact (List.nodup_range' 1).map n.placeholder_injective

/-- Where no placeholder is used twice, parameters have the values that were bound, also behind
    earlier ones. -/
theorem supplies_bound {d : Dialect} (hd : Function.Injective d.placeholder) {k : Nat}
    (values : List Value) (earlier : List Parameter)
    (h : ∀ p ∈ earlier, ∃ i < k, p.name = d.placeholder i) :
    Supplies (valueOf (earlier ++ bound d k values)) d k values := by
  -- each value in turn joins the earlier parameters, whose numbers stay below the next one
  induction values generalizing k earlier with
  | nil => trivial
  | cons value rest ih =>
    constructor
    · have hearlier : earlier.find? (fun p => p.name == d.placeholder k) = none := by
        rw [List.find?_eq_none]
        intro p hp hname
        obtain ⟨i, hi, hpi⟩ := h p hp
        rw [beq_iff_eq, hpi] at hname
        exact absurd (hd hname) (Nat.ne_of_lt hi)
      rw [valueOf, List.find?_append, hearlier, Option.none_or, bound,
        List.find?_cons_of_pos (by exact beq_self_eq_true _)]
      rfl
    · have hrest : earlier ++ bound d k (value :: rest)
          = (earlier ++ [⟨d.placeholder k, value⟩]) ++ bound d (k + 1) rest := by
        rw [bound, List.append_assoc, List.singleton_append]
      rw [hrest]
      refine ih _ ?_
      intro p hp
      rcases List.mem_append.mp hp with hp | hp
      · obtain ⟨i, hi, hpi⟩ := h p hp
        exact ⟨i, Nat.lt_succ_of_lt hi, hpi⟩
      · rw [List.mem_singleton.mp hp]
        exact ⟨k, Nat.lt_succ_self k, rfl⟩

/-! ## Statements -/

/-- A filter whose leaves list texts only gives no offence. -/
theorem findSome?_offence_eq_none {f : Filter} (h : f.WellFormed)
    (htext : ∀ v ∈ f.values, ∃ t, v = .text t) : f.leaves.findSome? offence = none := by
  rw [List.findSome?_eq_none_iff]
  intro leaf hleaf
  refine offence_eq_none_iff.mpr ⟨h.leaves_ne_nil leaf hleaf, fun v hv => ?_⟩
  exact htext v (List.mem_flatMap.mpr ⟨leaf, hleaf, hv⟩)

/-- The options tell the limit, and its absence that there is none. -/
theorem maxItemCount_optionsOf (page : Pagination) :
    ((Statement.optionsOf page).maxItemCount = none ↔ page.limit = 0)
      ∧ (Statement.optionsOf page).maxItemCount.getD 0 = page.limit := by
  rw [Statement.optionsOf]
  by_cases h : page.limit = 0 <;> simp [h]

/-- The options tell the token, and its absence that it is empty. -/
theorem continuation_optionsOf (page : Pagination) :
    ((Statement.optionsOf page).continuation = none ↔ page.token = "")
      ∧ (Statement.optionsOf page).continuation.getD "" = page.token := by
  rw [Statement.optionsOf]
  by_cases h : page.token = "" <;> simp [h]

/-- The fields that are sorted by tell the sort keys. -/
theorem map_key?_sort (n : Named) (sort : List Sorting) :
    (sort.map fun k => (n.dialect.field k.key, k.order)).map (fun key => (n.key? key.1, key.2))
      = sort.map fun key => (some key.key, key.order) := by
  rw [List.map_map]
  refine List.map_congr_left fun k _ => ?_
  exact congrArg (·, k.order) (n.key?_field k.key)

/-- A text that has a reading has no other. -/
theorem readsAs_iff {text : String} {reading : Reading} (h : ReadsAs text reading) (r : Reading) :
    ReadsAs text r ↔ r = reading :=
  ⟨fun h' => h'.unique h, fun heq => heq ▸ h⟩

/-- A compiled statement has exactly one reading, which gives the query back.  The values of the
    parameters stand where the placeholders are, the fields without the qualifier are the keys, and
    options that are absent mean no limit and no token. -/
theorem compile_reads_back {σ : Type} (n : Named) (collection : String) (q : Query) (s : σ)
    (hn : ∀ name ∈ n.qualifier, ∀ c ∈ name.toList, isNameChar c = true)
    (hf : ∀ f ∈ q.filter, f.WellFormed ∧ (∀ v ∈ f.values, ∃ t, v = .text t)
      ∧ ∀ key ∈ f.keys, IsName key)
    (hs : ∀ k ∈ q.sort, IsName k.key) :
    ∃ (t : Statement) (rest : String) (reading : Reading),
      (Statement.compile n.dialect collection q s).result = .ok t
      ∧ t.text = "SELECT * FROM " ++ n.source collection ++ rest
      ∧ (∀ r, ReadsAs rest r ↔ r = reading)
      ∧ (t.parameters.map Parameter.name).Nodup
      ∧ reading.predicate.map (Predicate.filter? n.key? (valueOf t.parameters))
        = q.filter.map some
      ∧ reading.sort.map (fun key => (n.key? key.1, key.2))
        = q.sort.map (fun key => (some key.key, key.order))
      ∧ (t.options.maxItemCount = none ↔ q.page.limit = 0)
      ∧ t.options.maxItemCount.getD 0 = q.page.limit
      ∧ (t.options.continuation = none ↔ q.page.token = "")
      ∧ t.options.continuation.getD "" = q.page.token := by
  have hfield : ∀ k ∈ q.sort, IsName (n.dialect.field k.key) :=
    fun k hk => Named.isName_field hn (hs k hk)
  have hsort := map_key?_sort n q.sort
  obtain ⟨hcount, hlimit⟩ := maxItemCount_optionsOf q.page
  obtain ⟨hcontinuation, htoken⟩ := continuation_optionsOf q.page
  cases hq : q.filter with
  | none =>
    -- no clause is written, and none is read
    have hclause : ReadsWhere (tokens (if "" = "" then "" else " WHERE " ++ "")) none := by
      rw [if_pos rfl]
      exact .absent
    exact ⟨_, _, _, compile_unfiltered n.dialect hq collection s, selectText_eq _ _ _ _,
      readsAs_iff (readsAs_clauses hclause hfield), List.nodup_nil, rfl, hsort, hcount, hlimit,
      hcontinuation, htoken⟩
  | some f =>
    -- the clause is read as the placed filter, because that is a proper predicate
    obtain ⟨hwell, htext, hkeys⟩ := hf f hq
    have hproper : Proper (place n.dialect 0 f) :=
      place_proper n.isPlaceholder_placeholder hwell (fun leaf hleaf =>
        Named.isName_field hn (hkeys leaf.1 (List.mem_map_of_mem hleaf))) 0
    have hclause : ReadsWhere (tokens (if (place n.dialect 0 f).text = "" then ""
        else " WHERE " ++ (place n.dialect 0 f).text)) (some (place n.dialect 0 f)) := by
      rw [if_neg hproper.text_ne_empty]
      exact hproper.readsWhere
    -- texts give no offence, so all values are bound
    have hoffence := findSome?_offence_eq_none hwell htext
    have hcompile := compile_filtered n.dialect hq collection s
    rw [hoffence, Option.elim_none, accepted_eq_flatMap hoffence] at hcompile
    -- and each is found again under its own placeholder
    have hsupplied : Supplies (valueOf (bound n.dialect 0 f.values)) n.dialect 0 f.values :=
      supplies_bound n.placeholder_injective f.values [] (List.forall_mem_nil _)
    exact ⟨_, _, _, hcompile, selectText_eq _ _ _ _,
      readsAs_iff (readsAs_clauses hclause hfield), n.nodup_name_bound 0 f.values,
      congrArg some (filter?_place n.key?_field hsupplied), hsort, hcount, hlimit,
      hcontinuation, htoken⟩

/-- A query with nested compounds, fields named like the words of the grammar, and values that look
    like statements reads back under an alias. -/
theorem compile_reads_back_nested :
    ∃ (q : Query) (t : Statement) (rest : String) (reading : Reading),
      q.filter = some (.any [
        .all [.eq "AND" (.text "x OR y"), .any [.eq "a_1.b" (.text "@p0"), .eq "OR" (.text "")]],
        .isIn "IN" [.text ") --", .text "b"]])
      ∧ q.sort = [⟨"ORDER", .desc⟩, ⟨"BY", .asc⟩]
      ∧ (Statement.compile (Named.dialect ⟨some "c"⟩) "items" q ()).result = .ok t
      ∧ (∀ r, ReadsAs rest r ↔ r = reading)
      ∧ reading.predicate.map (Predicate.filter? (Named.key? ⟨some "c"⟩) (valueOf t.parameters))
        = q.filter.map some := by
  let f : Filter := .any [
    .all [.eq "AND" (.text "x OR y"), .any [.eq "a_1.b" (.text "@p0"), .eq "OR" (.text "")]],
    .isIn "IN" [.text ") --", .text "b"]]
  have hwell : f.WellFormed := by
    refine .any (by decide) (List.forall_mem_cons.mpr ⟨?_, List.forall_mem_singleton.mpr ?_⟩)
    · refine .all (by decide) (List.forall_mem_cons.mpr ⟨.eq _ _, List.forall_mem_singleton.mpr ?_⟩)
      exact .any (by decide) (List.forall_mem_cons.mpr ⟨.eq _ _,
        List.forall_mem_singleton.mpr (.eq _ _)⟩)
    · exact .isIn "IN" (List.cons_ne_nil _ _)
  have htext : ∀ v ∈ f.values, ∃ t, v = .text t := by
    simp [f, Filter.values, Filter.leaves, Filter.childLeaves]
  obtain ⟨t, rest, reading, hcompile, -, hreads, -, hfilter, -⟩ :=
    compile_reads_back ⟨some "c"⟩ "items" ⟨some f, [⟨"ORDER", .desc⟩, ⟨"BY", .asc⟩], {}⟩ ()
      (by rintro name ⟨⟩; exact List.all_eq_true.mp (by decide))
      (by rintro g ⟨⟩; exact ⟨hwell, htext, by decide⟩) (by decide)
  exact ⟨_, t, rest, reading, rfl, rfl, hcompile, hreads, hfilter⟩

end StoreQuery.Sql
