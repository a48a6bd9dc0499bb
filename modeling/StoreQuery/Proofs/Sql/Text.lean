import Mathlib.Data.List.Pairwise
import StoreQuery.Proofs.Sql.Rendering

/-! # The text of a statement — it is read as the predicate and the sort keys it was made of

    The text of a predicate falls into the tokens that the grammar asks for:
    every separator begins and ends with a character that no word holds, so
    no word runs across.  Compounds within compounds stand in parentheses,
    so each is read as one part (`Proper.reads`). -/

namespace StoreQuery.Sql

/-! ## The tokens of a text -/

/-- Two texts can be taken apart into tokens one by one, unless a word runs across. -/
theorem tokens_append {a b : String}
    (h : ∀ x ∈ a.toList.getLast?, ∀ y ∈ b.toList.head?, (isWordChar x && isWordChar y) = false) :
    tokens (a ++ b) = tokens a ++ tokens b := by
  rw [tokens, String.toList_append, List.splitBy_append h, List.filter_append, List.map_append]
  rfl

/-- A word is one token. -/
theorem tokens_word {w : String} (hne : w ≠ "") (h : ∀ c ∈ w.toList, isWordChar c = true) :
    tokens w = [w] := by
  have hlist : w.toList ≠ [] := by
    intro hnil
    exact hne (String.toList_inj.mp hnil)
  -- no two characters are parted, and the one run that they make is not white space
  have hchain : w.toList.IsChain fun a b => (isWordChar a && isWordChar b) = true := by
    refine (List.pairwise_of_forall_mem_list fun a ha b hb => ?_).isChain
    rw [h a ha, h b hb]
    rfl
  have hspace : w.toList.all Char.isWhitespace = false := by
    obtain ⟨c, cs, hcons⟩ := List.exists_cons_of_ne_nil hlist
    have hc : isWordChar c = true := h c (by rw [hcons]; exact List.mem_cons_self)
    rw [isWordChar, Bool.and_eq_true, Bool.not_eq_true'] at hc
    rw [hcons, List.all_cons, hc.1, Bool.false_and]
  rw [tokens, List.splitBy_of_isChain hlist hchain, List.filter_cons_of_pos (by rw [hspace]; rfl),
    List.filter_nil, List.map_singleton, String.ofList_toList]

/-- A text that begins and ends with characters that no word holds. -/
def separates (sep : String) : Bool :=
  sep.toList.head?.any (!isWordChar ·) && sep.toList.getLast?.any (!isWordChar ·)

/-- No word runs across a text that separates. -/
theorem tokens_between (a sep b : String) (h : separates sep = true) :
    tokens (a ++ sep ++ b) = tokens a ++ tokens sep ++ tokens b := by
  rw [separates, Bool.and_eq_true, Option.any_eq_true, Option.any_eq_true] at h
  obtain ⟨⟨first, hfirst, hopen⟩, ⟨last, hlast, hclose⟩⟩ := h
  rw [Bool.not_eq_true'] at hopen hclose
  rw [tokens_append, tokens_append]
  · intro x hx y hy
    rw [hfirst] at hy
    rw [← Option.some.inj hy, hopen, Bool.and_false]
  · intro x hx y hy
    rw [String.toList_append, List.getLast?_append, hlast] at hx
    rw [← Option.some.inj hx, hclose, Bool.false_and]

/-- No word runs into a text that separates. -/
theorem tokens_before (a sep : String) (h : separates sep = true) :
    tokens (a ++ sep) = tokens a ++ tokens sep := by
  have hbetween := tokens_between a sep "" h
  rw [String.append_empty] at hbetween
  rw [hbetween]
  exact List.append_nil _

/-- No word runs out of a text that separates. -/
theorem tokens_behind (sep b : String) (h : separates sep = true) :
    tokens (sep ++ b) = tokens sep ++ tokens b := by
  have hbetween := tokens_between "" sep b h
  rw [String.empty_append] at hbetween
  exact hbetween

/-- No word runs into a text that begins with one that separates. -/
theorem tokens_ahead (a sep b : String) (h : separates sep = true) :
    tokens (a ++ (sep ++ b)) = tokens a ++ tokens (sep ++ b) := by
  rw [← String.append_assoc, tokens_between a sep b h, tokens_behind sep b h, List.append_assoc]

/-- Texts with a separator between them fall into their tokens and those of the separator. -/
theorem tokens_intercalate {sep : String} (h : separates sep = true) (items : List String) :
    tokens (sep.intercalate items) = (tokens sep).intercalate (items.map tokens) := by
  induction items with
  | nil => rfl
  | cons item rest ih =>
    cases rest with
    | nil => rw [String.intercalate_singleton, List.map_singleton, List.intercalate_singleton]
    | cons next rest =>
      rw [String.intercalate_cons_cons, tokens_between _ _ _ h, ih]
      exact List.intercalate_cons_cons.symm

/-- Letters and digits can stand in a name. -/
theorem isNameChar_of_isAlphanum {c : Char} (h : c.isAlphanum = true) : isNameChar c = true := by
  have hother : [' ', '\t', '\r', '\n', '=', '(', ')', ',', '@'].all (!·.isAlphanum) = true := by
    decide
  have hmem : c ∉ [' ', '\t', '\r', '\n', '=', '(', ')', ',', '@'] := by
    intro hc
    have hnot := List.all_eq_true.mp hother c hc
    rw [h] at hnot
    exact nomatch hnot
  simp only [List.mem_cons, List.not_mem_nil, or_false, not_or] at hmem
  simp [isNameChar, isWordChar, marks, Char.isWhitespace, hmem]

theorem isWordChar_of_isNameChar {c : Char} (h : isNameChar c = true) : isWordChar c = true :=
  (Bool.and_eq_true_iff.mp h).1

theorem IsName.tokens_eq {t : String} (h : IsName t) : tokens t = [t] :=
  tokens_word h.1 fun c hc => isWordChar_of_isNameChar (h.2 c hc)

theorem IsPlaceholder.tokens_eq {t : String} (h : IsPlaceholder t) : tokens t = [t] := by
  obtain ⟨name, hname, rfl⟩ := h
  refine tokens_word ?_ ?_
  · intro hempty
    exact absurd (congrArg String.toList hempty) (by simp)
  · intro c hc
    rw [String.toList_append, List.mem_append] at hc
    rcases hc with hc | hc
    · rw [List.mem_singleton.mp hc]
      decide
    · exact isWordChar_of_isNameChar (hname.2 c hc)

/-! ## Predicates are read as themselves -/

/-- A predicate over names and placeholders, whose lists are long enough to be seen as such. -/
inductive Proper : Predicate → Prop where
  | eq {field placeholder : String} : IsName field → IsPlaceholder placeholder →
      Proper (.eq field placeholder)
  | isIn {field : String} {placeholders : List String} : IsName field → placeholders ≠ [] →
      (∀ p ∈ placeholders, IsPlaceholder p) → Proper (.isIn field placeholders)
  | all {children : List Predicate} : 2 ≤ children.length → (∀ c ∈ children, Proper c) →
      Proper (.all children)
  | any {children : List Predicate} : 2 ≤ children.length → (∀ c ∈ children, Proper c) →
      Proper (.any children)

theorem Proper.compound {connective : Connective} {children : List Predicate}
    (hlength : 2 ≤ children.length) (h : ∀ c ∈ children, Proper c) :
    Proper (.compound connective children) := by
  cases connective with
  | all => exact .all hlength h
  | any => exact .any hlength h

/-- A primary stands alone as a conjunction. -/
theorem Reads.conjunction_of_primary {ts : List String} {p : Predicate} (h : Reads .primary ts p) :
    Reads .conjunction ts p := by
  have hone := Reads.conjunction [(ts, p)] (List.cons_ne_nil _ _) (List.forall_mem_singleton.mpr h)
  rw [List.map_singleton, List.intercalate_singleton] at hone
  exact hone

/-- A conjunction stands alone as a disjunction. -/
theorem Reads.disjunction_of_conjunction {ts : List String} {p : Predicate}
    (h : Reads .conjunction ts p) : Reads .disjunction ts p := by
  have hone := Reads.disjunction [(ts, p)] (List.cons_ne_nil _ _) (List.forall_mem_singleton.mpr h)
  rw [List.map_singleton, List.intercalate_singleton] at hone
  exact hone

/-- Two parts or more are joined by their connective. -/
theorem gathered_of_two_le (connective : List Predicate → Predicate) {ps : List Predicate}
    (h : 2 ≤ ps.length) : gathered connective ps = connective ps := by
  match ps, h with
  | _ :: _ :: _, _ => rfl

/-- A predicate as a part of a compound. -/
def part (p : Predicate) : List String × Predicate :=
  (tokens (Statement.operand p.fragment), p)

theorem map_snd_part (children : List Predicate) : (children.map part).map Prod.snd = children := by
  rw [List.map_map]
  exact List.map_id children

/-- The tokens of a compound are those of its parts. -/
theorem tokens_join (connective word : String) (h : separates connective = true)
    (hword : tokens connective = [word]) (children : List Predicate) :
    tokens (Statement.join connective (Predicate.fragments children))
      = [word].intercalate ((children.map part).map Prod.fst) := by
  rw [Statement.join, tokens_intercalate h, hword, fragments_eq_map, List.map_map, List.map_map,
    List.map_map]
  rfl

/-- A text in parentheses is read as what stands in them. -/
theorem Reads.grouped {text : String} {p : Predicate} (h : Reads .disjunction (tokens text) p) :
    Reads .primary (tokens ("(" ++ text ++ ")")) p := by
  have htokens : tokens ("(" ++ text ++ ")") = "(" :: (tokens text ++ [")"]) := by
    rw [tokens_before _ ")" (by decide), tokens_behind "(" _ (by decide)]
    rfl
  rw [htokens]
  exact .group h

/-- The text of a compound is read as that compound, if its parts are read as primaries. -/
theorem Reads.compound (connective : Connective) {children : List Predicate}
    (hlength : 2 ≤ children.length) (h : ∀ c ∈ children, Reads .primary (part c).1 c) :
    Reads .disjunction (tokens (Predicate.compound connective children).text)
      (.compound connective children) := by
  have hne : children.map part ≠ [] :=
    List.ne_nil_of_length_pos (by rw [List.length_map]; omega)
  rw [Predicate.text_compound]
  cases connective with
  | all =>
    have hreads := Reads.conjunction (children.map part) hne (List.forall_mem_map.mpr h)
    rw [map_snd_part, gathered_of_two_le _ hlength] at hreads
    rw [separator, tokens_join " AND " "AND" (by decide) (by decide)]
    exact hreads.disjunction_of_conjunction
  | any =>
    have hreads := Reads.disjunction (children.map part) hne
      (List.forall_mem_map.mpr fun c hc => (h c hc).conjunction_of_primary)
    rw [map_snd_part, gathered_of_two_le _ hlength] at hreads
    rw [separator, tokens_join " OR " "OR" (by decide) (by decide)]
    exact hreads

/-- The tokens of a proper predicate are read as that predicate, and within a compound they are
    read as one part of it. -/
theorem Proper.reads {p : Predicate} (h : Proper p) :
    Reads .disjunction (tokens p.text) p ∧ Reads .primary (part p).1 p := by
  induction h with
  | @eq field placeholder hfield hplaceholder =>
    have hprimary : Reads .primary (tokens (Predicate.eq field placeholder).text)
        (.eq field placeholder) := by
      rw [Predicate.text, tokens_between _ " = " _ (by decide), hfield.tokens_eq,
        hplaceholder.tokens_eq]
      exact .eq hfield hplaceholder
    -- a leaf is a part without parentheses, and alone it is one part at both upper levels
    exact ⟨hprimary.conjunction_of_primary.disjunction_of_conjunction, hprimary⟩
  | @isIn field placeholders hfield hne hplaceholders =>
    have hlist : tokens (String.intercalate ", " placeholders)
        = [","].intercalate (placeholders.map ([·])) := by
      rw [tokens_intercalate (by decide)]
      refine congrArg (List.intercalate [","]) (List.map_congr_left fun p hp => ?_)
      exact (hplaceholders p hp).tokens_eq
    have hprimary : Reads .primary (tokens (Predicate.isIn field placeholders).text)
        (.isIn field placeholders) := by
      have hreads := Reads.isIn (placeholders.map fun p => ([p], p)) hfield (by simpa using hne)
        (List.forall_mem_map.mpr fun p hp => ⟨rfl, hplaceholders p hp⟩)
      rw [List.map_map, List.map_map, Function.comp_def, Function.comp_def, List.map_id'] at hreads
      rw [Predicate.text, tokens_before _ ")" (by decide), tokens_between _ " IN (" _ (by decide),
        hfield.tokens_eq, hlist]
      exact hreads
    exact ⟨hprimary.conjunction_of_primary.disjunction_of_conjunction, hprimary⟩
  -- within a compound a conjunction stands in parentheses, also where it would not have to
  | all hlength _ ih =>
    have hall := Reads.compound .all hlength fun c hc => (ih c hc).2
    exact ⟨hall, hall.grouped⟩
  | any hlength _ ih =>
    have hany := Reads.compound .any hlength fun c hc => (ih c hc).2
    exact ⟨hany, hany.grouped⟩

/-- Two parts or more have a text, because the connective stands between them. -/
theorem join_ne_empty {connective : String} (hne : connective ≠ "") {children : List Predicate}
    (h : 2 ≤ children.length) : Statement.join connective (Predicate.fragments children) ≠ "" := by
  cases children with
  | nil => exact absurd h (by decide)
  | cons first rest =>
    cases rest with
    | nil => exact absurd h (Nat.not_succ_le_self 1)
    | cons second rest =>
      simp [Predicate.fragments, Statement.join, String.intercalate_cons_cons, hne]

/-- A proper predicate has a text. -/
theorem Proper.text_ne_empty {p : Predicate} (h : Proper p) : p.text ≠ "" := by
  cases h with
  | eq _ _ => simp [Predicate.text]
  | isIn _ _ _ => simp [Predicate.text]
  | all hlength _ | any hlength _ => exact join_ne_empty (by decide) hlength

/-! ## Clauses -/

/-- The text of a predicate behind its word is a `WHERE` clause. -/
theorem Proper.readsWhere {p : Predicate} (h : Proper p) :
    ReadsWhere (tokens (" WHERE " ++ p.text)) (some p) := by
  rw [tokens_behind " WHERE " _ (by decide)]
  exact .present h.reads.1

/-- The text of the sort keys behind its words is a sort clause. -/
theorem readsOrder_keys {d : Dialect} {sort : List Sorting} (hne : sort ≠ [])
    (h : ∀ s ∈ sort, IsName (d.field s.key)) :
    ReadsOrder
      (tokens (" ORDER BY " ++ String.intercalate ", " (sort.map (Statement.sortText d))))
      (sort.map fun s => (d.field s.key, s.order)) := by
  have hkey : ∀ s ∈ sort, tokens (Statement.sortText d s) = [d.field s.key, s.order.name] := by
    intro s hs
    have hname : tokens s.order.name = [s.order.name] := by
      cases s.order <;> decide
    rw [Statement.sortText, tokens_between _ " " _ (by decide), (h s hs).tokens_eq, hname]
    rfl
  have hparts : ∀ x ∈ sort.map fun s => (tokens (Statement.sortText d s), (d.field s.key, s.order)),
      ReadsKey x.1 x.2 := by
    intro x hx
    obtain ⟨s, hs, rfl⟩ := List.mem_map.mp hx
    show ReadsKey (tokens (Statement.sortText d s)) (d.field s.key, s.order)
    rw [hkey s hs]
    cases s.order with
    | asc => exact .asc (h s hs)
    | desc => exact .desc (h s hs)
  have hreads := ReadsOrder.present _ (by simpa using hne) hparts
  rw [List.map_map, List.map_map] at hreads
  rw [tokens_behind " ORDER BY " _ (by decide), tokens_intercalate (by decide), List.map_map]
  exact hreads

/-- What follows the source of a statement. -/
def clauses (d : Dialect) (predicate : String) (sort : List Sorting) : String :=
  (if predicate = "" then "" else " WHERE " ++ predicate) ++
    (if sort.isEmpty then ""
      else " ORDER BY " ++ String.intercalate ", " (sort.map (Statement.sortText d)))

theorem selectText_eq (d : Dialect) (collection predicate : String) (sort : List Sorting) :
    Statement.selectText d collection predicate sort
      = "SELECT * FROM " ++ d.source collection ++ clauses d predicate sort :=
  String.append_assoc

/-- What follows the source of a statement is read as its predicate and its sort keys. -/
theorem readsAs_clauses {d : Dialect} {sort : List Sorting} {predicate : String}
    {p : Option Predicate}
    (hclause : ReadsWhere (tokens (if predicate = "" then "" else " WHERE " ++ predicate)) p)
    (h : ∀ s ∈ sort, IsName (d.field s.key)) :
    ReadsAs (clauses d predicate sort) ⟨p, sort.map fun s => (d.field s.key, s.order)⟩ := by
  rw [clauses]
  by_cases hempty : sort = []
  · rw [hempty]
    refine ⟨_, [], ?_, hclause, .absent⟩
    rw [List.append_nil]
    exact congrArg tokens String.append_empty
  · have hsort : ¬ sort.isEmpty = true := by simpa using hempty
    rw [if_neg hsort]
    exact ⟨_, _, tokens_ahead _ " ORDER BY " _ (by decide), hclause, readsOrder_keys hempty h⟩

end StoreQuery.Sql
