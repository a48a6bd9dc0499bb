import StoreQuery.Proofs.Filter.Canonical
import StoreQuery.Proofs.Json.Compact
import StoreQuery.Proofs.Json.Nesting
import StoreQuery.Query

/-! # Queries survive being written and read again

    A query is written as an object of up to three members, each of which
    leaves out what is empty, and read from one that may spell its sections
    in several ways.  Two facts meet here.  A query with a canonical filter
    is read back from its own form, section by section (`ofJson_toJson`);
    its keys stand in order, so the text of that form is read as the form.
    And whatever text a query was read from, its filter is canonical and
    its own form nests within the limit (`canonical_of_parse`): the filter
    is written just as it stood in the text, and the other sections are
    shallow. -/

namespace StoreQuery

/-! ## Sort keys -/

namespace SortOrder

/-- The names of the orders are in upper case already. -/
theorem toUpper_name (order : SortOrder) : Text.toUpper order.name = order.name := by
  cases order with
  | asc => decide +kernel
  | desc => decide +kernel

/-- An order is read back from its name. -/
theorem ofText_name (order : SortOrder) : ofText order.name = .ok order := by
  unfold ofText
  rw [toUpper_name]
  cases order with
  | asc => rfl
  | desc => rfl

theorem ofJson_name (order : SortOrder) : decoder.ofJson (.str order.name) = .ok order := by
  have hread : decoder.ofJson (.str order.name) = decoder.accept order.name := by
    simp only [decoder, Json.Decoder.scalar, Json.Found.ofJson]
  rw [hread, decoder.accept, ofText_name]

end SortOrder

theorem Json.Decoder.map_ofJson {α β : Type} (f : α → β) (d : Decoder α) (j : Json) :
    (d.map f).ofJson j = f <$> d.ofJson j := rfl

/-- A member that names a field the draft lacks updates that field. -/
theorem Json.Record.takeMember_field {ρ : Type} {r : Record ρ} {draft : Draft ρ} {key : String}
    {value : Json} {f : Field ρ} {u : ρ → ρ} (hfield : r.field? key = some f)
    (hnew : draft.seen.contains f.name = false) (hupdate : f.update.ofJson value = .ok u) :
    r.takeMember draft (key, value) = .ok ⟨u draft.record, f.name :: draft.seen⟩ := by
  simp only [takeMember, hfield, hnew, hupdate]
  rfl

/-- A sort key is read back from its JSON form. -/
theorem Sorting.ofJson_toJson (s : Sorting) : decoder.ofJson s.toJson = .ok s := by
  obtain ⟨key, order⟩ := s
  have hkey : record.takeMember record.start ("key", .str key) = .ok ⟨⟨key, .asc⟩, ["key"]⟩ := rfl
  have hupdate : (SortOrder.decoder.map fun order (s : Sorting) => { s with order }).ofJson
      (.str order.name) = .ok fun s => { s with order } := by
    rw [Json.Decoder.map_ofJson, SortOrder.ofJson_name]
    rfl
  have hfield : record.field? "order"
      = some { name := "order", update := SortOrder.decoder.map fun order s => { s with order } } :=
    rfl
  have horder : record.takeMember ⟨⟨key, .asc⟩, ["key"]⟩ ("order", .str order.name)
      = .ok ⟨⟨key, order⟩, ["order", "key"]⟩ := by
    rw [Json.Record.takeMember_field hfield rfl hupdate]
  have hmembers : [("key", Json.str key), ("order", Json.str order.name)].foldlM record.takeMember
      record.start = .ok ⟨⟨key, order⟩, ["order", "key"]⟩ :=
    bind_eq_ok_iff.mpr ⟨_, hkey, bind_eq_ok_iff.mpr ⟨_, horder, rfl⟩⟩
  exact bind_eq_ok_iff.mpr ⟨_, hmembers, rfl⟩

/-- Sort keys are read back one by one. -/
theorem Query.sortingsOfJson_map_toJson (keys : List Sorting) :
    sortingsOfJson (keys.map Sorting.toJson) = .ok keys := by
  induction keys with
  | nil => rfl
  | cons key rest ih =>
    rw [List.map_cons, sortingsOfJson, Sorting.ofJson_toJson, ih]
    rfl

/-! ## Paging -/

/-- A page request is read back from its JSON form, whether or not it has a token. -/
theorem Pagination.ofJson_toJson (p : Pagination) : decoder.ofJson p.toJson = .ok p := by
  obtain ⟨limit, token⟩ := p
  have hlimit : UInt64.ofNat limit.toNat = limit := UInt64.ofNat_toNat
  by_cases htoken : token = ""
  · subst htoken
    have hread : decoder.ofJson (Pagination.mk limit "").toJson
        = .ok ⟨UInt64.ofNat limit.toNat, ""⟩ := rfl
    rw [hread, hlimit]
  · have hread : decoder.ofJson
        (.obj [("limit", .num (.int (.ofUInt64 limit))), ("token", .str token)])
        = .ok ⟨UInt64.ofNat limit.toNat, token⟩ := rfl
    rw [toJson, if_neg htoken, hread, hlimit]

namespace Query

/-! ## Sections -/

/-- A query is read from an object section by section. -/
theorem ofJson_eq_ok_iff {j : Json} {q : Query} :
    ofJson j = .ok q ↔ j.isObject = true ∧ filterOfJson (j.get? "filter") = .ok q.filter
      ∧ sortOfJson (j.get? "sort") = .ok q.sort
      ∧ pageOfJson ((j.get? "pagination").or (j.get? "page")) = .ok q.page := by
  unfold ofJson
  constructor
  · intro h
    split at h
    · next hobj =>
      obtain ⟨filter, hfilter, h⟩ := bind_eq_ok_iff.mp h
      obtain ⟨sort, hsort, h⟩ := bind_eq_ok_iff.mp h
      obtain ⟨page, hpage, h⟩ := bind_eq_ok_iff.mp h
      obtain rfl := Except.ok.inj h
      exact ⟨hobj, hfilter, hsort, hpage⟩
    · exact nomatch h
  · rintro ⟨hobj, hfilter, hsort, hpage⟩
    rw [if_pos hobj, hfilter, hsort, hpage]
    rfl

/-- A query is read from a text through the value that the text holds. -/
theorem parse_eq_ok_iff {text : String} {q : Query} :
    parse text = .ok q ↔ ∃ j, Json.parse text = .ok j ∧ ofJson j = .ok q := by
  unfold parse
  cases Json.parse text with
  | error why => exact iff_of_false (fun h => nomatch h) (fun ⟨_, h, _⟩ => nomatch h)
  | ok j =>
    constructor
    · intro h
      exact ⟨j, rfl, h⟩
    · rintro ⟨_, ⟨⟩, h⟩
      exact h

/-- A filter is read from a section that holds its generic form. -/
theorem filterOfJson_eq_some_iff {part : Option Json} {f : Filter} :
    filterOfJson part = .ok (some f) ↔ f.Canonical ∧ part = some f.toJson := by
  constructor
  · intro h
    unfold filterOfJson at h
    split at h
    · exact nomatch h
    · exact nomatch h
    · next j _ =>
      cases hread : Filter.ofJson j with
      | error why => rw [hread] at h; exact nomatch h
      | ok g =>
        rw [hread] at h
        obtain rfl := Option.some.inj (Except.ok.inj h)
        obtain ⟨hcanonical, rfl⟩ := (Filter.ofJson_eq_ok_iff g j).mp hread
        exact ⟨hcanonical, rfl⟩
  · rintro ⟨hcanonical, rfl⟩
    have hread := (Filter.ofJson_eq_ok_iff f _).mpr ⟨hcanonical, rfl⟩
    -- a filter is written as an object, so its section is not taken for an absent one
    rw [filterOfJson.eq_3 _ (by cases f <;> exact Json.noConfusion), hread]
    rfl

/-- The members that a query is written with: in the order of their keys, and each one a section
    of the query. -/
theorem toJson_members (q : Query) :
    ∃ members, q.toJson = .obj members ∧ (members.map Prod.fst).Pairwise (· < ·)
      ∧ ∀ m ∈ members, (∃ f, q.filter = some f ∧ m.2 = f.toJson)
        ∨ m.2 = q.page.toJson ∨ m.2 = .arr (q.sort.map Sorting.toJson) := by
  obtain ⟨filter, sort, page⟩ := q
  refine ⟨_, rfl, ?_, ?_⟩
  · -- sections may be left out, but the others keep their order
    have hkeys : ["filter", "pagination", "sort"].Pairwise (· < ·) := by decide
    have hsort : List.Sublist ((if sort.isEmpty then [] else
        [("sort", Json.arr (sort.map Sorting.toJson))]).map Prod.fst) ["sort"] := by
      cases sort with
      | nil => exact List.nil_sublist _
      | cons _ _ => exact List.Sublist.refl _
    refine hkeys.sublist ?_
    cases filter with
    | none => exact .cons _ (.cons_cons _ hsort)
    | some f => exact .cons_cons _ (.cons_cons _ hsort)
  · intro m hm
    rcases List.mem_append.mp hm with hfilter | hrest
    · cases filter with
      | none => exact nomatch hfilter
      | some f =>
        rw [List.mem_singleton.mp hfilter]
        exact Or.inl ⟨f, rfl, rfl⟩
    · rcases List.mem_cons.mp hrest with rfl | hsort
      · exact Or.inr (Or.inl rfl)
      · cases sort with
        | nil => exact nomatch hsort
        | cons key keys =>
          rw [List.mem_singleton.mp hsort]
          exact Or.inr (Or.inr rfl)

/-- A query with a canonical filter is read back from its JSON form. -/
theorem ofJson_toJson {q : Query} (h : ∀ f, q.filter = some f → f.Canonical) :
    ofJson q.toJson = .ok q := by
  obtain ⟨filter, sort, page⟩ := q
  have hfilter : (Query.mk filter sort page).toJson.get? "filter" = filter.map Filter.toJson := by
    cases filter <;> cases sort <;> rfl
  have hsort : (Query.mk filter sort page).toJson.get? "sort"
      = if sort.isEmpty then none else some (.arr (sort.map Sorting.toJson)) := by
    cases filter <;> cases sort <;> rfl
  have hpage : (Query.mk filter sort page).toJson.get? "pagination" = some page.toJson := by
    cases filter <;> cases sort <;> rfl
  refine ofJson_eq_ok_iff.mpr ⟨rfl, ?_, ?_, ?_⟩
  · rw [hfilter]
    cases filter with
    | none => rfl
    | some f => exact filterOfJson_eq_some_iff.mpr ⟨h f rfl, rfl⟩
  · rw [hsort]
    cases sort with
    | nil => rfl
    | cons key keys => simp only [List.isEmpty_cons, Bool.false_eq_true, if_false, sortOfJson,
        sortingsOfJson_map_toJson]
  · rw [hpage, Option.some_or, Pagination.toJson, pageOfJson, ← Pagination.toJson,
      Pagination.ofJson_toJson]

end Query

/-! ## Order and nesting of the form -/

theorem Value.ordered_toJson (v : Value) : v.toJson.Ordered := by
  unfold Value.toJson
  split
  · exact .str _
  · exact .num _
  · exact .num _
  · exact .num _
  · exact .null
  · exact .bool _
  · exact .null

theorem Filter.ordered_toJson (f : Filter) : f.toJson.Ordered := by
  induction f with
  | eq key value => exact Json.ordered_singleton (Json.ordered_singleton value.ordered_toJson)
  | isIn key values =>
    refine Json.ordered_singleton (Json.ordered_singleton (.arr ?_))
    exact List.forall_mem_map.mpr fun v _ => v.ordered_toJson
  | compound connective children ih =>
    rw [toJson_compound, childrenToJson_eq_map]
    exact Json.ordered_singleton (.arr (List.forall_mem_map.mpr ih))

theorem Sorting.ordered_toJson (s : Sorting) : s.toJson.Ordered := by
  refine .obj (show ["key", "order"].Pairwise (· < ·) by decide) ?_
  rw [List.forall_mem_cons, List.forall_mem_singleton]
  exact ⟨.str _, .str _⟩

theorem Pagination.ordered_toJson (p : Pagination) : p.toJson.Ordered := by
  unfold Pagination.toJson
  split
  · exact Json.ordered_singleton (.num _)
  · refine .obj (show ["limit", "token"].Pairwise (· < ·) by decide) ?_
    rw [List.forall_mem_cons, List.forall_mem_singleton]
    exact ⟨.num _, .str _⟩

theorem Pagination.depth_toJson (p : Pagination) : p.toJson.depth = 1 := by
  unfold Pagination.toJson
  split
  · rfl
  · rfl

namespace Query

/-- The keys of a written query stand in order at every level. -/
theorem ordered_toJson (q : Query) : q.toJson.Ordered := by
  obtain ⟨members, hq, hkeys, hmembers⟩ := q.toJson_members
  rw [hq]
  refine .obj hkeys ?_
  intro m hm
  rcases hmembers m hm with ⟨f, -, hf⟩ | hpage | hsort
  · rw [hf]
    exact f.ordered_toJson
  · rw [hpage]
    exact q.page.ordered_toJson
  · rw [hsort]
    exact .arr (List.forall_mem_map.mpr fun s _ => s.ordered_toJson)

/-- A written query nests one level deeper than its filter, or three levels for its sort keys. -/
theorem depth_toJson_le {q : Query} {n : Nat} (hn : 2 ≤ n)
    (hfilter : ∀ f, q.filter = some f → f.toJson.depth ≤ n) : q.toJson.depth ≤ n + 1 := by
  obtain ⟨members, hq, -, hmembers⟩ := q.toJson_members
  rw [hq]
  refine Nat.succ_le_succ (Json.membersDepth_le_iff.mpr ?_)
  intro m hm
  rcases hmembers m hm with ⟨f, hf, hm⟩ | hpage | hsort
  · rw [hm]
    exact hfilter f hf
  · rw [hpage, Pagination.depth_toJson]
    omega
  · have hkeys : Json.itemsDepth (q.sort.map Sorting.toJson) ≤ 1 :=
      Json.itemsDepth_le_iff.mpr (List.forall_mem_map.mpr fun _ _ => Nat.le_refl 1)
    rw [hsort, Json.depth]
    omega

/-! ## Round trips -/

/-- A query that reading its own text gives back: its filter is canonical, and its JSON form nests
    within the limit. -/
structure Canonical (q : Query) : Prop where
  filter : ∀ f, q.filter = some f → f.Canonical
  nesting : q.toJson.depth ≤ 127

/-- A canonical query is read back from the text of its JSON form. -/
theorem parse_compact_toJson {q : Query} (h : q.Canonical) : parse q.toJson.compact = .ok q := by
  have htext : Json.parse q.toJson.compact = .ok q.toJson :=
    (Json.parse_compact q.ordered_toJson).trans (if_pos h.nesting)
  exact parse_eq_ok_iff.mpr ⟨q.toJson, htext, ofJson_toJson h.filter⟩

/-- The filter of a query that was read is canonical, and its generic form leaves room for the
    object around it. -/
theorem filter_of_parse {text : String} {q : Query} {f : Filter} (h : parse text = .ok q)
    (hf : q.filter = some f) : f.Canonical ∧ f.toJson.depth < Json.maxDepth := by
  obtain ⟨j, htext, hj⟩ := parse_eq_ok_iff.mp h
  obtain ⟨-, hfilter, -⟩ := ofJson_eq_ok_iff.mp hj
  rw [hf] at hfilter
  obtain ⟨hcanonical, hpart⟩ := filterOfJson_eq_some_iff.mp hfilter
  exact ⟨hcanonical, Nat.lt_of_lt_of_le (Json.depth_lt_of_get? hpart) (Json.parse_depth_le htext)⟩

/-- A query that was read from any text is canonical. -/
theorem canonical_of_parse {text : String} {q : Query} (h : parse text = .ok q) :
    q.Canonical where
  filter _ hf := (filter_of_parse h hf).1
  nesting := depth_toJson_le (by decide) fun _ hf => Nat.le_of_lt_succ (filter_of_parse h hf).2

/-- A canonical query survives being written out and read again; every query that was read is
    canonical, so it survives too. -/
theorem parse_survives_writing :
    (∀ q : Query, q.Canonical → parse q.toJson.compact = .ok q)
    ∧ ∀ (text : String) (q : Query), parse text = .ok q →
        q.Canonical ∧ parse q.toJson.compact = .ok q := by
  refine ⟨fun q hq => parse_compact_toJson hq, ?_⟩
  intro text q h
  have hq := canonical_of_parse h
  exact ⟨hq, parse_compact_toJson hq⟩

/-- A text with a sort key by position, an order of `null`, the other name of the paging section
    and a member that nobody asked for is read, and what it says survives. -/
theorem parse_survives_writing_positional :
    ∃ q : Query, q.sort = [⟨"a", .asc⟩, ⟨"b", .asc⟩] ∧ q.page = ⟨3, ""⟩
      ∧ parse (Json.obj [
          ("filter", .obj [("EQ", .obj [("k", .str "\"")])]),
          ("page", .obj [("limit", .num (.int ⟨3, by decide, by decide⟩))]),
          ("sort", .arr [.arr [.str "a"], .obj [("key", .str "b"), ("order", .null)]]),
          ("x", .arr [])]).compact = .ok q
      ∧ q.Canonical ∧ parse q.toJson.compact = .ok q := by
  let j : Json := .obj [
    ("filter", .obj [("EQ", .obj [("k", .str "\"")])]),
    ("page", .obj [("limit", .num (.int ⟨3, by decide, by decide⟩))]),
    ("sort", .arr [.arr [.str "a"], .obj [("key", .str "b"), ("order", .null)]]),
    ("x", .arr [])]
  let q : Query := ⟨some (.eq "k" (.text "\"")), [⟨"a", .asc⟩, ⟨"b", .asc⟩], ⟨3, ""⟩⟩
  have hkeys : (Json.obj [("key", .str "b"), ("order", .null)]).Ordered := by
    refine .obj (show ["key", "order"].Pairwise (· < ·) by decide) ?_
    rw [List.forall_mem_cons, List.forall_mem_singleton]
    exact ⟨.str _, .null⟩
  have hordered : j.Ordered := by
    refine .obj (show ["filter", "page", "sort", "x"].Pairwise (· < ·) by decide) ?_
    rw [List.forall_mem_cons, List.forall_mem_cons, List.forall_mem_cons, List.forall_mem_singleton]
    refine ⟨Json.ordered_singleton (Json.ordered_singleton (.str _)),
      Json.ordered_singleton (.num _), .arr ?_, .arr (List.forall_mem_nil _)⟩
    rw [List.forall_mem_cons, List.forall_mem_singleton]
    exact ⟨.arr (List.forall_mem_singleton.mpr (.str _)), hkeys⟩
  have htext : Json.parse j.compact = .ok j :=
    (Json.parse_compact hordered).trans (if_pos (by decide))
  have hread : parse j.compact = .ok q := parse_eq_ok_iff.mpr ⟨j, htext, rfl⟩
  exact ⟨q, rfl, rfl, hread, parse_survives_writing.2 _ q hread⟩

end Query

end StoreQuery
