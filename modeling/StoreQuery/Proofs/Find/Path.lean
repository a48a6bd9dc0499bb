import StoreQuery.Proofs.Find.Meaning

/-! # Paths compose

    A path is a text, and what it means is said by its segments: the names
    between the dots, of which there is always at least one.  A dot between
    two texts ends the segments of the first and begins those of the second
    (`segments_append`), whatever dots stand beside it; and names without
    dots are the segments of their join, if there is a name at all.

    What names lead to is a relation, `Reaches`, and a walk that reaches
    nothing breaks at some name (`Breaks`).  Following names gives what they
    reach, and `null` for a walk that breaks. -/

namespace StoreQuery.Find

/-! ## Walks -/

/-- Following names as members of nested objects, one after the other, reaches a value. -/
inductive Reaches : Json → List String → Json → Prop where
  | here (doc : Json) : Reaches doc [] doc
  | member {members : List (String × Json)} {name : String} {inner found : Json}
      {rest : List String} : members.lookup name = some inner → Reaches inner rest found →
      Reaches (.obj members) (name :: rest) found

/-- Some name cannot be followed: those before it reach a value that is no object, or an object
    that lacks the name. -/
def Breaks (doc : Json) (names : List String) : Prop :=
  ∃ before name behind holder, names = before ++ name :: behind ∧ Reaches doc before holder
    ∧ ∀ members, holder = .obj members → members.lookup name = none

/-- Names behind other names are followed from where the others lead. -/
theorem follow_append (xs ys : List String) (doc : Json) :
    follow (xs ++ ys) doc = follow ys (follow xs doc) := by
  simp only [follow_eq_foldl, List.foldl_append]

/-- Following names leads to what they reach. -/
theorem follow_of_reaches {doc found : Json} {names : List String} (h : Reaches doc names found) :
    follow names doc = found := by
  induction h with
  | here doc => rfl
  | @member members name inner found rest hlookup _ ih =>
    have hget : (Json.obj members).get? name = some inner := hlookup
    rw [follow, hget]
    exact ih

/-- A walk reaches something, or it breaks. -/
theorem reaches_or_breaks (doc : Json) (names : List String) :
    (∃ found, Reaches doc names found) ∨ Breaks doc names := by
  induction names generalizing doc with
  | nil => exact Or.inl ⟨doc, .here doc⟩
  | cons name rest ih =>
    cases doc with
    | obj members =>
      cases hlookup : members.lookup name with
      | none =>
        refine Or.inr ⟨[], name, rest, .obj members, rfl, .here _, ?_⟩
        intro _ h
        cases h
        exact hlookup
      | some inner =>
        -- the walk goes on inside, and what it comes to there it comes to here
        rcases ih inner with ⟨found, hfound⟩ | ⟨before, name', behind, holder, rfl, hholder, hnone⟩
        · exact Or.inl ⟨found, .member hlookup hfound⟩
        · exact Or.inr ⟨name :: before, name', behind, holder, rfl, .member hlookup hholder, hnone⟩
    | _ =>
      refine Or.inr ⟨[], name, rest, _, rfl, .here _, ?_⟩
      intro _ h
      cases h

/-- A walk that breaks leads to `null`. -/
theorem follow_of_breaks {doc : Json} {names : List String} (h : Breaks doc names) :
    follow names doc = .null := by
  obtain ⟨before, name, behind, holder, rfl, hholder, hnone⟩ := h
  have hget : holder.get? name = none := by
    cases holder with
    | obj members => exact hnone members rfl
    | _ => rfl
  rw [follow_append, follow_of_reaches hholder, follow, hget]

/-- A value other than `null` is found where names reach it, and nowhere else. -/
theorem follow_eq_iff {doc found : Json} {names : List String} (h : found ≠ .null) :
    follow names doc = found ↔ Reaches doc names found := by
  constructor
  · rintro rfl
    rcases reaches_or_breaks doc names with ⟨found, hfound⟩ | hbreaks
    · rwa [follow_of_reaches hfound]
    · exact absurd (follow_of_breaks hbreaks) h
  · exact follow_of_reaches

/-- `null` is found where names reach one, and where they break. -/
theorem follow_eq_null_iff {doc : Json} {names : List String} :
    follow names doc = .null ↔ Breaks doc names ∨ Reaches doc names .null := by
  constructor
  · intro h
    rcases reaches_or_breaks doc names with ⟨found, hfound⟩ | hbreaks
    · rw [follow_of_reaches hfound] at h
      subst h
      exact Or.inr hfound
    · exact Or.inl hbreaks
  · rintro (hbreaks | hnull)
    · exact follow_of_breaks hbreaks
    · exact follow_of_reaches hnull

/-! ## Segments -/

/-- A dot ends the segments before it and begins those behind it. -/
theorem segments_append (p q : List Char) :
    segments (p ++ '.' :: q) = segments p ++ segments q := by
  simp only [segments_eq_splitOn, List.splitOn_append_cons_self]

/-- Names without dots are the segments of their join. -/
theorem segments_intercalate {names : List String} (hne : names ≠ [])
    (h : ∀ name ∈ names, '.' ∉ name.toList) :
    segments (".".intercalate names).toList = names.map String.toList := by
  have hchars : ∀ cs ∈ names.map String.toList, '.' ∉ cs := List.forall_mem_map.mpr h
  rw [segments_eq_splitOn, String.toList_intercalate]
  exact List.splitOn_intercalate '.' hchars (mt List.map_eq_nil_iff.mp hne)

/-! ## Paths -/

/-- A path behind a path is resolved from where the first leads. -/
theorem resolve_append (doc : Json) (p q : String) :
    resolve doc (p ++ "." ++ q) = resolve (resolve doc p) q := by
  have htext : (p ++ "." ++ q).toList = p.toList ++ '.' :: q.toList := by simp
  rw [resolve, htext, segments_append, List.map_append, follow_append, resolve, resolve]

/-- The join of names without dots is resolved name by name. -/
theorem resolve_intercalate {names : List String} (hne : names ≠ [])
    (h : ∀ name ∈ names, '.' ∉ name.toList) (doc : Json) :
    resolve doc (".".intercalate names) = follow names doc := by
  have hnames : (names.map String.toList).map String.ofList = names := by
    simp [Function.comp_def]
  rw [resolve, segments_intercalate hne h, hnames]

/-- Paths compose at every dot.  The join of one or more names without dots leads to a value other
    than `null` when following the names reaches it, and to `null` when they reach one or when one
    of them is missing or is looked up in something that is no object. -/
theorem paths_compose :
    (∀ (doc : Json) (p q : String), resolve doc (p ++ "." ++ q) = resolve (resolve doc p) q)
    ∧ ∀ (doc : Json) (names : List String), names ≠ [] → (∀ name ∈ names, '.' ∉ name.toList) →
        (∀ found, found ≠ .null →
          (resolve doc (".".intercalate names) = found ↔ Reaches doc names found))
        ∧ (resolve doc (".".intercalate names) = .null
            ↔ Breaks doc names ∨ Reaches doc names .null) := by
  refine ⟨resolve_append, ?_⟩
  intro doc names hne hnames
  rw [resolve_intercalate hne hnames]
  exact ⟨fun found hfound => follow_eq_iff hfound, follow_eq_null_iff⟩

/-- Empty names are followed like others: the doubled dot leads through the member without a name,
    and the name behind it breaks at an array. -/
theorem paths_compose_empty_name :
    resolve (.obj [("a", .obj [("", .arr [.null])])]) "a." = .arr [.null]
    ∧ resolve (.obj [("a", .obj [("", .arr [.null])])]) "a..0" = .null := by
  let inner : Json := .obj [("", .arr [.null])]
  let doc : Json := .obj [("a", inner)]
  have hreaches : Reaches doc ["a", ""] (.arr [.null]) := .member rfl (.member rfl (.here _))
  have hbreaks : Breaks doc ["a", "", "0"] := by
    refine ⟨["a", ""], "0", [], .arr [.null], rfl, hreaches, ?_⟩
    intro _ h
    cases h
  constructor
  · have hjoin : ".".intercalate ["a", ""] = "a." := by decide
    rw [← hjoin]
    refine ((paths_compose.2 doc ["a", ""] (List.cons_ne_nil _ _) ?_).1 _ Json.noConfusion).mpr
      hreaches
    decide
  · have hjoin : ".".intercalate ["a", "", "0"] = "a..0" := by decide
    rw [← hjoin]
    refine (paths_compose.2 doc ["a", "", "0"] (List.cons_ne_nil _ _) ?_).2.mpr (Or.inl hbreaks)
    decide

/-- No names at all are not the segments of any path: they reach the document itself, but their
    join is the empty text, whose one segment is the empty name. -/
theorem no_names_are_no_path :
    ¬(resolve (.obj [("a", .bool true)]) (".".intercalate []) = .obj [("a", .bool true)]
      ↔ Reaches (.obj [("a", .bool true)]) [] (.obj [("a", .bool true)])) := by
  intro h
  have hnull : resolve (.obj [("a", .bool true)]) (".".intercalate []) = .null := by
    rw [String.intercalate_nil]
    rfl
  have hself := h.mpr (.here _)
  rw [hnull] at hself
  cases hself

end StoreQuery.Find
