import Mathlib.Data.List.Infix
import StoreQuery.Proofs.Sql.Values

/-! # Keys and text — which keys keep the structure of a statement

    Keys are written into the text of a statement as they are.  A key that
    holds a comparison with a placeholder of its own, or that begins with a
    parenthesis, can be read as a part of the structure around it, and then
    two filters may have one statement.

    With all other keys the text tells the shape of the filter
    (`spelled_append_inj`): a leaf ends at the first comparison, so its key
    is told from what follows (`comparison_unique`), and no leaf begins with
    as many parentheses as a compound does.  Which placeholder comes next is
    known at every point, so its digits need no end.  The parameters then
    tell the values, and shape and values are the filter. -/

namespace StoreQuery.Sql

/-! ## Where a key ends -/

/-- How a leaf compares its field. -/
inductive Comparison where
  | equality
  | membership

namespace Comparison

/-- What stands between a key and the number of its first placeholder. -/
def chars : Comparison → List Char
  | .equality => [' ', '=', ' ', '@', 'p']
  | .membership => [' ', 'I', 'N', ' ', '(', '@', 'p']

/-- No comparison begins within another one. -/
theorem apart (a b : Comparison) : ∀ e ∈ a.chars.tails, e ≠ [] → e ≠ a.chars →
    ¬e <+: b.chars ∧ ¬b.chars <+: e := by
  cases a <;> cases b <;> decide

/-- A comparison in front of a text is the first one there, if what precedes another one does not
    hold it. -/
theorem eq_nil_of_append {a b : Comparison} {more rest rest' : List Char}
    (hmore : ¬a.chars <:+: more) (h : a.chars ++ rest = more ++ (b.chars ++ rest')) :
    more = [] := by
  rcases List.append_eq_append_iff.mp h with ⟨e, he, -⟩ | ⟨e, he, hrest⟩
  · exact absurd ⟨[], e, he.symm⟩ hmore
  · by_contra hne
    have hnil : e ≠ [] := by
      rintro rfl
      rw [List.append_nil] at he
      exact hmore (he ▸ List.infix_rfl)
    have hproper : e ≠ a.chars := by
      intro heq
      exact hne (List.append_left_eq_self.mp (he.symm.trans heq.symm))
    -- what is left of the first comparison lies where the second one begins
    obtain ⟨hfirst, hsecond⟩ := a.apart b e ((List.mem_tails _ _).mpr ⟨more, he.symm⟩) hnil hproper
    rcases List.prefix_or_prefix_of_prefix (List.prefix_append e rest) ⟨rest', hrest⟩ with hp | hp
    · exact hfirst hp
    · exact hsecond hp

/-- Two comparisons in front of a text are the same. -/
theorem append_inj {a b : Comparison} {rest rest' : List Char}
    (h : a.chars ++ rest = b.chars ++ rest') : a = b ∧ rest = rest' := by
  cases a <;> cases b
  · exact ⟨rfl, List.append_cancel_left h⟩
  · simp [chars] at h
  · simp [chars] at h
  · exact ⟨rfl, List.append_cancel_left h⟩

end Comparison

/-- A text that holds no comparison is told by the text it begins, in front of one. -/
theorem comparison_unique {key key' : List Char} {a b : Comparison} {rest rest' : List Char}
    (hkey : ∀ c : Comparison, ¬c.chars <:+: key) (hkey' : ∀ c : Comparison, ¬c.chars <:+: key')
    (h : key ++ (a.chars ++ rest) = key' ++ (b.chars ++ rest')) :
    key = key' ∧ a = b ∧ rest = rest' := by
  -- one key begins the other one; what is left of the longer one would hold a comparison
  rcases List.append_eq_append_iff.mp h with ⟨more, hmore, hrest⟩ | ⟨more, hmore, hrest⟩
  · have hnil : more = [] := by
      refine Comparison.eq_nil_of_append (fun hinfix => hkey' a ?_) hrest
      rw [hmore]
      exact hinfix.trans (List.suffix_append key more).isInfix
    rw [hnil] at hmore hrest
    exact ⟨by rw [hmore, List.append_nil], Comparison.append_inj hrest⟩
  · have hnil : more = [] := by
      refine Comparison.eq_nil_of_append (fun hinfix => hkey b ?_) hrest
      rw [hmore]
      exact hinfix.trans (List.suffix_append key' more).isInfix
    rw [hnil] at hmore hrest
    obtain ⟨hsame, htail⟩ := Comparison.append_inj hrest
    exact ⟨by rw [hmore, List.append_nil], hsame.symm, htail.symm⟩

/-! ## Fields -/

namespace Named

/-- What stands before the key in a field. -/
def qualification (n : Named) : List Char :=
  n.qualifier.elim [] fun name => name.toList ++ ['.']

theorem toList_field (n : Named) (key : String) :
    (n.field key).toList = n.qualification ++ key.toList := by
  obtain ⟨qualifier⟩ := n
  cases qualifier with
  | none => rfl
  | some name =>
    show (name ++ "." ++ key).toList = (name.toList ++ ['.']) ++ key.toList
    rw [String.toList_append, String.toList_append]
    rfl

/-- A key that keeps to its place: it holds no comparison with a placeholder, and where it stands
    without a qualifier it does not begin with a parenthesis. -/
structure HarmlessKey (n : Named) (key : String) : Prop where
  comparison : ∀ c : Comparison, ¬c.chars <:+: key.toList
  parenthesis : n.qualifier = none → key.toList.head? ≠ some '('

end Named

/-- How many opening parentheses a text begins with. -/
def opening (cs : List Char) : Nat :=
  (cs.takeWhile (· == '(')).length

/-- A field begins with as many parentheses as its qualifier. -/
theorem opening_field {n : Named} {key : String} (h : n.HarmlessKey key) (c : Comparison)
    (rest : List Char) :
    opening (n.qualification ++ (key.toList ++ (c.chars ++ rest))) = opening n.qualification := by
  obtain ⟨qualifier⟩ := n
  cases qualifier with
  | none =>
    show opening (key.toList ++ (c.chars ++ rest)) = 0
    cases hkey : key.toList with
    | nil => cases c <;> rfl
    | cons x xs =>
      have hx : x ≠ '(' := by
        rintro rfl
        exact h.parenthesis rfl (congrArg List.head? hkey)
      simp [opening, hx]
  | some name =>
    -- the point behind the name ends the parentheses, whatever follows
    have hpoint (cs : List Char) :
        (name.toList ++ '.' :: cs).takeWhile (· == '(') = name.toList.takeWhile (· == '(') := by
      rw [List.takeWhile_append, List.takeWhile_cons_of_neg (by decide), List.append_nil]
      split
      · rename_i hall
        exact ((List.takeWhile_prefix _).eq_of_length hall).symm
      · rfl
    show opening ((name.toList ++ ['.']) ++ _) = opening (name.toList ++ ['.'])
    rw [opening, opening, List.append_assoc, List.singleton_append, hpoint, hpoint]

/-! ## The text of a filter within a compound -/

section Spelled

variable (n : Named)

/-- The text of a filter within a compound, with its values bound from the `k`th parameter on. -/
def spelled (k : Nat) (f : Filter) : List Char :=
  (Statement.operand (place n.dialect k f).fragment).toList

/-- Further filters within a compound, each behind the connective. -/
def spelledAll (connective : Connective) : Nat → List Filter → List Char
  | _, [] => []
  | k, child :: rest =>
      (separator connective).toList
        ++ (spelled n k child ++ spelledAll connective (k + child.values.length) rest)

/-- The number of a placeholder. -/
def digits (k : Nat) : List Char :=
  (toString k).toList

/-- Further placeholders of a list, each behind a comma. -/
def listed : Nat → Nat → List Char
  | _, 0 => []
  | k, count + 1 => [',', ' ', '@', 'p'] ++ (digits k ++ listed (k + 1) count)

theorem toList_placeholder (k : Nat) :
    (n.dialect.placeholder k).toList = ['@', 'p'] ++ digits k := by
  show ("@p" ++ toString k).toList = _
  rw [String.toList_append]
  rfl

/-- The placeholders of a list are the first one and further ones. -/
theorem intercalate_placeholders (k count : Nat) :
    [',', ' '].intercalate ((placeholders n.dialect k (count + 1)).map String.toList)
      = ['@', 'p'] ++ (digits k ++ listed (k + 1) count) := by
  induction count generalizing k with
  | zero =>
    rw [placeholders_succ, List.map_cons, toList_placeholder]
    simp [placeholders, listed]
  | succ count ih =>
    have hnext := ih (k + 1)
    rw [placeholders_succ, List.map_cons] at hnext
    rw [placeholders_succ, placeholders_succ, List.map_cons, List.map_cons,
      List.intercalate_cons_cons, hnext, toList_placeholder, listed]
    simp

/-- The parts of a compound are the first one and further ones. -/
theorem toList_join (connective : Connective) (k : Nat) (c : Filter) (rest : List Filter) :
    (Statement.join (separator connective)
        (Predicate.fragments (placeAll n.dialect k (c :: rest)))).toList
      = spelled n k c ++ spelledAll n connective (k + c.values.length) rest := by
  rw [Statement.join, String.toList_intercalate, fragments_eq_map]
  induction rest generalizing k c with
  | nil =>
    rw [spelledAll, List.append_nil]
    exact List.intercalate_singleton
  | cons next rest ih =>
    rw [placeAll, placeAll, List.map_cons, List.map_cons, List.map_cons, List.map_cons,
      List.map_cons, List.map_cons, List.intercalate_cons_cons, spelledAll,
      ← ih (k + c.values.length) next, List.append_assoc]
    rfl

/-! ## Leaves and compounds -/

/-- The shape of a leaf with `count` values behind the first. -/
def leafShape (key : String) (count : Nat) : Comparison → Filter
  | .equality => .eq key .null
  | .membership => .isIn key (List.replicate (count + 1) .null)

/-- How a leaf ends behind its first placeholder. -/
def ending (k count : Nat) : Comparison → List Char
  | .equality => []
  | .membership => listed k count ++ [')']

/-- A well-formed filter whose keys keep to their places. -/
structure Legible (f : Filter) : Prop where
  wellFormed : f.WellFormed
  keys : ∀ key ∈ f.keys, n.HarmlessKey key

variable {n}

/-- The children of a legible compound are legible like it. -/
theorem Legible.children {connective : Connective} {children : List Filter}
    (h : Legible n (.compound connective children)) : ∀ c ∈ children, Legible n c := by
  intro c hc
  refine ⟨(Filter.wellFormed_compound_iff.mp h.wellFormed).2 c hc, fun key hkey => h.keys key ?_⟩
  obtain ⟨leaf, hleaf, rfl⟩ := List.mem_map.mp hkey
  exact List.mem_map_of_mem (Filter.mem_leaves_compound.mpr ⟨c, hc, hleaf⟩)

/-- There are two of them or more. -/
theorem Legible.two_children {connective : Connective} {children : List Filter}
    (h : Legible n (.compound connective children)) :
    ∃ c next rest, children = c :: next :: rest := by
  obtain ⟨hlength, -⟩ := Filter.wellFormed_compound_iff.mp h.wellFormed
  cases children with
  | nil => exact absurd hlength (Nat.not_succ_le_zero 1)
  | cons c rest =>
    cases rest with
    | nil => exact absurd hlength (Nat.not_succ_le_self 1)
    | cons next rest => exact ⟨c, next, rest, rfl⟩

/-- Every legible filter is a leaf, or a compound of two children or more. -/
theorem Legible.cases {f : Filter} (h : Legible n f) :
    f.IsLeaf ∨ ∃ connective c next rest, f = .compound connective (c :: next :: rest) := by
  induction f with
  | eq key value => exact Or.inl (Filter.isLeaf_eq key value)
  | isIn key values => exact Or.inl (Filter.isLeaf_isIn key values)
  | compound connective children =>
    obtain ⟨c, next, rest, rfl⟩ := h.two_children
    exact Or.inr ⟨connective, c, next, rest, rfl⟩

/-- The text of a leaf. -/
theorem text_leaf {f : Filter} (h : Legible n f) (hleaf : f.IsLeaf) (k : Nat) :
    ∃ key count comparison, n.HarmlessKey key ∧ f.shape = leafShape key count comparison
      ∧ spelled n k f = n.qualification ++ (key.toList ++ (comparison.chars
        ++ (digits k ++ ending (k + 1) count comparison)))
      ∧ (place n.dialect k f).text.toList = spelled n k f := by
  cases f with
  | eq key value =>
    refine ⟨key, 0, .equality, h.keys key (List.mem_singleton_self _), rfl, ?_, rfl⟩
    show (n.field key ++ " = " ++ n.dialect.placeholder k).toList = _
    rw [String.toList_append, String.toList_append, n.toList_field, toList_placeholder]
    simp [Comparison.chars, ending]
  | isIn key values =>
    -- a list has its first placeholder right behind the comparison, like an equality
    cases values with
    | nil =>
      cases h.wellFormed with
      | isIn _ hne => exact absurd rfl hne
    | cons value rest =>
      refine ⟨key, rest.length, .membership, h.keys key (List.mem_singleton_self _), ?_, ?_, rfl⟩
      · rw [Filter.shape, List.map_const', leafShape, List.length_cons]
      · show (n.field key ++ " IN (" ++ String.intercalate ", "
          (placeholders n.dialect k (rest.length + 1)) ++ ")").toList = _
        rw [String.toList_append, String.toList_append, String.toList_append, n.toList_field,
          String.toList_intercalate]
        show _ ++ _ ++ [',', ' '].intercalate _ ++ _ = _
        rw [intercalate_placeholders]
        simp [Comparison.chars, ending]
  | all children => exact absurd rfl (hleaf .all children)
  | any children => exact absurd rfl (hleaf .any children)

/-- The text of a compound, and the same text in parentheses. -/
theorem spelled_compound (connective : Connective) (c : Filter) (rest : List Filter) (k : Nat) :
    (place n.dialect k (.compound connective (c :: rest))).text.toList
        = spelled n k c ++ spelledAll n connective (k + c.values.length) rest
      ∧ spelled n k (.compound connective (c :: rest)) = '(' :: (spelled n k c
        ++ (spelledAll n connective (k + c.values.length) rest ++ [')'])) := by
  have htext : (place n.dialect k (.compound connective (c :: rest))).text.toList
      = spelled n k c ++ spelledAll n connective (k + c.values.length) rest := by
    rw [place_compound, Predicate.text_compound, toList_join]
  -- compounds of both kinds stand in parentheses within another one
  have hgroup : Statement.operand (place n.dialect k (.compound connective (c :: rest))).fragment
      = "(" ++ (place n.dialect k (.compound connective (c :: rest))).text ++ ")" := by
    cases connective <;> rfl
  refine ⟨htext, ?_⟩
  rw [spelled, hgroup, String.toList_append, String.toList_append, htext, List.append_assoc,
    List.append_assoc]
  rfl

/-! ## The text tells the shape -/

/-- Two lists of further placeholders, up to the closing parenthesis, are the same. -/
theorem listed_append_inj {k count count' : Nat} {rest rest' : List Char}
    (h : listed k count ++ ')' :: rest = listed k count' ++ ')' :: rest') :
    count = count' ∧ rest = rest' := by
  induction count generalizing k count' with
  | zero =>
    cases count' with
    | zero => exact ⟨rfl, (List.cons.inj h).2⟩
    | succ count' => exact nomatch (List.cons.inj h).1
  | succ count ih =>
    cases count' with
    | zero => exact nomatch (List.cons.inj h).1
    | succ count' =>
      simp only [listed, List.append_assoc] at h
      obtain ⟨rfl, hrest⟩ := ih (List.append_cancel_left (List.append_cancel_left h))
      exact ⟨rfl, hrest⟩

/-- Two leaves that begin the same text have one shape. -/
theorem ending_append_inj {key : String} {k count count' : Nat} {comparison : Comparison}
    {rest rest' : List Char}
    (h : ending k count comparison ++ rest = ending k count' comparison ++ rest') :
    leafShape key count comparison = leafShape key count' comparison ∧ rest = rest' := by
  cases comparison with
  | equality => exact ⟨rfl, h⟩
  | membership =>
    rw [ending, ending, List.append_assoc, List.append_assoc] at h
    obtain ⟨rfl, hrest⟩ := listed_append_inj h
    exact ⟨rfl, hrest⟩

/-- A leaf begins with as many parentheses as the qualifier of its field. -/
theorem opening_leaf {f : Filter} (h : Legible n f)
    (hleaf : f.IsLeaf) (k : Nat) (rest : List Char) :
    opening (spelled n k f ++ rest) = opening n.qualification := by
  obtain ⟨key, count, comparison, hkey, -, htext, -⟩ := text_leaf h hleaf k
  rw [htext, List.append_assoc, List.append_assoc, List.append_assoc]
  exact opening_field hkey comparison _

/-- No filter begins with fewer. -/
theorem opening_le {f : Filter} (h : Legible n f) (k : Nat) (rest : List Char) :
    opening n.qualification ≤ opening (spelled n k f ++ rest) := by
  induction f generalizing rest with
  | eq key value => exact (opening_leaf h (Filter.isLeaf_eq key value) k rest).ge
  | isIn key values => exact (opening_leaf h (Filter.isLeaf_isIn key values) k rest).ge
  | compound connective children ih =>
    obtain ⟨c, next, more, rfl⟩ := h.two_children
    rw [(spelled_compound connective c _ k).2, List.cons_append, List.append_assoc]
    have hfirst := ih c List.mem_cons_self (h.children c List.mem_cons_self)
    exact Nat.le_succ_of_le (hfirst _)

/-- A compound begins with more parentheses than any leaf. -/
theorem opening_compound {connective : Connective} {children : List Filter}
    (h : Legible n (.compound connective children)) (k : Nat) (rest : List Char) :
    opening n.qualification < opening (spelled n k (.compound connective children) ++ rest) := by
  obtain ⟨c, next, more, rfl⟩ := h.two_children
  rw [(spelled_compound connective c _ k).2, List.cons_append, List.append_assoc]
  exact Nat.lt_succ_of_le (opening_le (h.children c List.mem_cons_self) k _)

/-- The text of a legible filter tells its shape and where it ends. -/
def TextTellsShape (n : Named) (f : Filter) : Prop :=
  ∀ g k rest rest', Legible n f → Legible n g → spelled n k f ++ rest = spelled n k g ++ rest' →
    f.shape = g.shape ∧ rest = rest'

/-- Two leaves are told by their keys and the placeholders behind them. -/
theorem leaf_shape_eq {f g : Filter} {k : Nat} {rest rest' : List Char} (hf : Legible n f)
    (hg : Legible n g) (hleaf : f.IsLeaf) (hleaf' : g.IsLeaf)
    (h : spelled n k f ++ rest = spelled n k g ++ rest') : f.shape = g.shape ∧ rest = rest' := by
  obtain ⟨key, count, comparison, hkey, hshape, htext, -⟩ := text_leaf hf hleaf k
  obtain ⟨key', count', comparison', hkey', hshape', htext', -⟩ := text_leaf hg hleaf' k
  simp only [htext, htext', List.append_assoc] at h
  obtain ⟨hsame, rfl, htail⟩ :=
    comparison_unique hkey.comparison hkey'.comparison (List.append_cancel_left h)
  obtain rfl : key = key' := String.toList_inj.mp hsame
  rw [hshape, hshape']
  exact ending_append_inj (List.append_cancel_left htail)

/-- A connective begins with a space. -/
theorem separator_append_ne (connective : Connective) (cs cs' : List Char) :
    (separator connective).toList ++ cs ≠ ')' :: cs' := by
  cases connective <;> exact fun heq => nomatch (List.cons.inj heq).1

/-- Two connectives that begin the same text are the same. -/
theorem separator_append_inj {a b : Connective} {cs cs' : List Char}
    (h : (separator a).toList ++ cs = (separator b).toList ++ cs') : a = b := by
  cases a <;> cases b
  · rfl
  · simp [separator] at h
  · simp [separator] at h
  · rfl

/-- Further parts of a compound are told up to its closing parenthesis, once each of them is. -/
theorem spelledAll_append_inj {connective : Connective} {children children' : List Filter}
    {k : Nat} {rest rest' : List Char} (ih : ∀ c ∈ children, TextTellsShape n c)
    (hf : ∀ c ∈ children, Legible n c) (hg : ∀ c ∈ children', Legible n c)
    (h : spelledAll n connective k children ++ ')' :: rest
      = spelledAll n connective k children' ++ ')' :: rest') :
    Filter.childShapes children = Filter.childShapes children' ∧ rest = rest' := by
  induction children generalizing k children' with
  | nil =>
    cases children' with
    | nil => exact ⟨rfl, (List.cons.inj h).2⟩
    | cons c' more' =>
      rw [spelledAll, spelledAll, List.append_assoc] at h
      exact absurd h.symm (separator_append_ne connective _ _)
  | cons c more ihmore =>
    obtain ⟨hc, hmore⟩ := List.forall_mem_cons.mp hf
    obtain ⟨hchild, hrest⟩ := List.forall_mem_cons.mp ih
    cases children' with
    | nil =>
      rw [spelledAll, spelledAll, List.append_assoc] at h
      exact absurd h (separator_append_ne connective _ _)
    | cons c' more' =>
      obtain ⟨hc', hmore'⟩ := List.forall_mem_cons.mp hg
      simp only [spelledAll, List.append_assoc] at h
      obtain ⟨hshape, htail⟩ := hchild c' k _ _ hc hc' (List.append_cancel_left h)
      -- both children have taken the same placeholders, so the others start with the same one
      rw [Filter.length_values_of_shape hshape] at htail
      obtain ⟨hshapes, hend⟩ := ihmore hrest hmore hmore' htail
      exact ⟨congrArg₂ List.cons hshape hshapes, hend⟩

/-- Two compounds are told by their parts, once each part of the first is. -/
theorem compound_shape_eq {a b : Connective} {c next c' next' : Filter} {more more' : List Filter}
    {k : Nat} {rest rest' : List Char} (hf : Legible n (.compound a (c :: next :: more)))
    (hg : Legible n (.compound b (c' :: next' :: more')))
    (ih : ∀ d ∈ c :: next :: more, TextTellsShape n d)
    (h : spelled n k (.compound a (c :: next :: more)) ++ rest
      = spelled n k (.compound b (c' :: next' :: more')) ++ rest') :
    (Filter.compound a (c :: next :: more)).shape = (Filter.compound b (c' :: next' :: more')).shape
      ∧ rest = rest' := by
  obtain ⟨hc, hmore⟩ := List.forall_mem_cons.mp hf.children
  obtain ⟨hc', hmore'⟩ := List.forall_mem_cons.mp hg.children
  obtain ⟨hfirst, hothers⟩ := List.forall_mem_cons.mp ih
  simp only [(spelled_compound _ _ _ k).2, List.cons_append, List.append_assoc] at h
  obtain ⟨hshape, htail⟩ := hfirst c' k _ _ hc hc' (List.cons.inj h).2
  rw [Filter.length_values_of_shape hshape] at htail
  -- the connective behind the first part tells which kind of compound it is
  have hconnective := htail
  simp only [spelledAll, List.append_assoc] at hconnective
  obtain rfl := separator_append_inj hconnective
  obtain ⟨hshapes, hend⟩ := spelledAll_append_inj hothers hmore hmore' htail
  rw [Filter.shape_compound, Filter.shape_compound]
  exact ⟨congrArg (Filter.compound a) (congrArg₂ List.cons hshape hshapes), hend⟩

/-- The text of a leaf tells its shape, because a compound would begin with more parentheses. -/
theorem textTellsShape_leaf {f : Filter} (hleaf : f.IsLeaf) : TextTellsShape n f := by
  intro g k rest rest' hf hg h
  rcases hg.cases with hleaf' | ⟨connective, c, next, more, rfl⟩
  · exact leaf_shape_eq hf hg hleaf hleaf' h
  · have hless := opening_compound hg k rest'
    rw [← h, opening_leaf hf hleaf] at hless
    exact absurd hless (Nat.lt_irrefl _)

/-- The text of any legible filter tells its shape and where it ends. -/
theorem spelled_append_inj (f : Filter) : TextTellsShape n f := by
  induction f with
  | eq key value => exact textTellsShape_leaf (Filter.isLeaf_eq key value)
  | isIn key values => exact textTellsShape_leaf (Filter.isLeaf_isIn key values)
  | compound connective children ih =>
    intro g k rest rest' hf hg h
    rcases hg.cases with hleaf | ⟨connective', c', next', more', rfl⟩
    · have hless := opening_compound hf k rest
      rw [h, opening_leaf hg hleaf] at hless
      exact absurd hless (Nat.lt_irrefl _)
    · obtain ⟨c, next, more, rfl⟩ := hf.two_children
      exact compound_shape_eq hf hg ih h

/-- Further parts of a compound have a text. -/
theorem spelledAll_ne_nil (connective : Connective) (k : Nat) (c : Filter) (rest : List Filter) :
    spelledAll n connective k (c :: rest) ≠ [] := by
  cases connective <;> exact List.cons_ne_nil _ _

/-- A legible filter has a text. -/
theorem Legible.text_ne_empty {f : Filter} (h : Legible n f) (k : Nat) :
    (place n.dialect k f).text ≠ "" := by
  intro hempty
  have hnil : (place n.dialect k f).text.toList = [] := congrArg String.toList hempty
  rcases h.cases with hleaf | ⟨connective, c, next, more, rfl⟩
  · obtain ⟨key, count, comparison, -, -, htext, hwhole⟩ := text_leaf h hleaf k
    rw [hwhole, htext] at hnil
    cases comparison <;> simp [Comparison.chars] at hnil
  · rw [(spelled_compound connective c _ k).1, List.append_eq_nil_iff] at hnil
    exact spelledAll_ne_nil connective _ _ _ hnil.2

/-- A leaf and a compound have different texts: where the leaf ends, the compound goes on. -/
theorem text_leaf_ne_compound {f : Filter} {k : Nat} (hf : Legible n f) (hleaf : f.IsLeaf)
    {connective : Connective} {c next : Filter} {more : List Filter}
    (hg : Legible n (.compound connective (c :: next :: more))) :
    (place n.dialect k f).text.toList
      ≠ (place n.dialect k (.compound connective (c :: next :: more))).text.toList := by
  intro h
  obtain ⟨-, -, -, -, -, -, hwhole⟩ := text_leaf hf hleaf k
  have hc := hg.children c List.mem_cons_self
  rw [hwhole, (spelled_compound connective c _ k).1, ← List.append_nil (spelled n k f)] at h
  obtain ⟨-, hend⟩ := spelled_append_inj f c k _ _ hf hc h
  exact spelledAll_ne_nil connective _ _ _ hend.symm

/-- The predicate text of a legible filter tells its shape. -/
theorem shape_of_text {f g : Filter} {k : Nat} (hf : Legible n f) (hg : Legible n g)
    (h : (place n.dialect k f).text = (place n.dialect k g).text) : f.shape = g.shape := by
  have htext : (place n.dialect k f).text.toList = (place n.dialect k g).text.toList :=
    congrArg String.toList h
  -- within a compound both would have the same text too, with parentheses or without
  have hspelled : spelled n k f ++ [] = spelled n k g ++ [] := by
    rcases hf.cases with hleaf | ⟨connective, c, next, more, rfl⟩
    · rcases hg.cases with hleaf' | ⟨connective', c', next', more', rfl⟩
      · obtain ⟨-, -, -, -, -, -, hwhole⟩ := text_leaf hf hleaf k
        obtain ⟨-, -, -, -, -, -, hwhole'⟩ := text_leaf hg hleaf' k
        rw [← hwhole, ← hwhole', htext]
      · exact absurd htext (text_leaf_ne_compound hf hleaf hg)
    · rcases hg.cases with hleaf' | ⟨connective', c', next', more', rfl⟩
      · exact absurd htext.symm (text_leaf_ne_compound hg hleaf' hf)
      · obtain ⟨hwhole, hgroup⟩ := spelled_compound (n := n) connective c (next :: more) k
        obtain ⟨hwhole', hgroup'⟩ := spelled_compound (n := n) connective' c' (next' :: more') k
        rw [hgroup, hgroup', ← List.append_assoc, ← List.append_assoc, ← hwhole, ← hwhole', htext]
  exact (spelled_append_inj f g k [] [] hf hg hspelled).1

end Spelled

/-! ## Statements -/

/-- Two statements that differ in their predicates only have different texts. -/
theorem predicate_of_selectText {d : Dialect} {collection p q : String} {sort : List Sorting}
    (hp : p ≠ "") (hq : q ≠ "")
    (h : Statement.selectText d collection p sort = Statement.selectText d collection q sort) :
    p = q := by
  have hclauses {p : String} (hp : p ≠ "") : clauses d p sort = " WHERE " ++ p
      ++ (if sort.isEmpty then ""
        else " ORDER BY " ++ String.intercalate ", " (sort.map (Statement.sortText d))) :=
    congrArg (· ++ _) (if_neg hp)
  rw [selectText_eq, selectText_eq, hclauses hp, hclauses hq] at h
  have hlist := congrArg String.toList h
  simp only [String.toList_append, List.append_assoc] at hlist
  have hbehind := List.append_cancel_left (List.append_cancel_left (List.append_cancel_left hlist))
  exact String.toList_inj.mp (List.append_cancel_right hbehind)

/-- A well-formed filter of texts makes a query that lists texts only. -/
theorem listsTexts_of_wellFormed {f : Filter} (h : f.WellFormed)
    (htext : ∀ v ∈ f.values, ∃ t, v = Value.text t) (sort : List Sorting) (page : Pagination) :
    ListsTexts ⟨some f, sort, page⟩ := by
  intro leaf hleaf
  refine ⟨h.leaves_ne_nil leaf hleaf, fun v hv => ?_⟩
  exact htext v (List.mem_flatMap.mpr ⟨leaf, hleaf, hv⟩)

/-- Well-formed filters of texts whose keys keep to their places are compiled to different
    statements: text and parameters are the same only for the same filter. -/
theorem compile_tells_filters_apart {σ : Type} (n : Named) (collection : String)
    (sort : List Sorting) (page : Pagination) (f g : Filter) (s : σ) (hf : f.WellFormed)
    (hg : g.WellFormed) (hftext : ∀ v ∈ f.values, ∃ t, v = Value.text t)
    (hgtext : ∀ v ∈ g.values, ∃ t, v = Value.text t) (hfkeys : ∀ key ∈ f.keys, n.HarmlessKey key)
    (hgkeys : ∀ key ∈ g.keys, n.HarmlessKey key) :
    ∃ a b : Statement,
      (Statement.compile n.dialect collection ⟨some f, sort, page⟩ s).result = .ok a
      ∧ (Statement.compile n.dialect collection ⟨some g, sort, page⟩ s).result = .ok b
      ∧ (a.text = b.text ∧ a.parameters = b.parameters ↔ f = g) := by
  refine ⟨_, _, compile_of_texts n.dialect collection (listsTexts_of_wellFormed hf hftext _ _) s,
    compile_of_texts n.dialect collection (listsTexts_of_wellFormed hg hgtext _ _) s, ?_, ?_⟩
  · rintro ⟨htext, hparameters⟩
    have hlegible : Legible n f := ⟨hf, hfkeys⟩
    have hlegible' : Legible n g := ⟨hg, hgkeys⟩
    have hpredicate := predicate_of_selectText (hlegible.text_ne_empty 0)
      (hlegible'.text_ne_empty 0) htext
    have hvalues : f.values = g.values := by
      have hbound := congrArg (List.map Parameter.value) hparameters
      rw [map_value_bound, map_value_bound] at hbound
      exact hbound
    exact Filter.eq_of_shape_of_values (shape_of_text hlegible hlegible' hpredicate) hvalues
  · rintro rfl
    exact ⟨rfl, rfl⟩

/-- Connectives, parentheses and the sign of placeholders in keys do no harm behind an alias, even
    one that holds a comparison itself. -/
theorem compile_tells_filters_apart_qualified :
    ∃ (f g : Filter) (a b : Statement),
      f = .any [.eq "@type OR k" (.text "x"), .isIn "(l" [.text "y"]]
      ∧ g = .any [.eq "@type" (.text "x"), .isIn "k OR (l" [.text "y"]]
      ∧ (Statement.compile (Named.dialect ⟨some "(c = @p0 AND c"⟩) "items" { filter := some f }
        ()).result = .ok a
      ∧ (Statement.compile (Named.dialect ⟨some "(c = @p0 AND c"⟩) "items" { filter := some g }
        ()).result = .ok b
      ∧ ¬(a.text = b.text ∧ a.parameters = b.parameters) := by
  let f : Filter := .any [.eq "@type OR k" (.text "x"), .isIn "(l" [.text "y"]]
  let g : Filter := .any [.eq "@type" (.text "x"), .isIn "k OR (l" [.text "y"]]
  have hwell (key key' : String) :
      (Filter.any [.eq key (.text "x"), .isIn key' [.text "y"]]).WellFormed := by
    refine .any (Nat.le_refl 2) (List.forall_mem_cons.mpr ⟨.eq _ _, ?_⟩)
    exact List.forall_mem_singleton.mpr (.isIn _ (List.cons_ne_nil _ _))
  have htext (key key' : String) :
      ∀ v ∈ (Filter.any [.eq key (.text "x"), .isIn key' [.text "y"]]).values,
        ∃ t, v = Value.text t := by
    simp [Filter.values, Filter.leaves, Filter.childLeaves]
  have hkeys : ∀ key ∈ f.keys ++ g.keys, Named.HarmlessKey ⟨some "(c = @p0 AND c"⟩ key := by
    have hcomparison : ∀ key ∈ f.keys ++ g.keys, ∀ c : Comparison, ¬c.chars <:+: key.toList := by
      intro key hkey c
      cases c with
      | equality =>
        revert key
        decide
      | membership =>
        revert key
        decide
    exact fun key hkey => ⟨hcomparison key hkey, fun h => absurd h (Option.some_ne_none _)⟩
  obtain ⟨hfkeys, hgkeys⟩ := List.forall_mem_append.mp hkeys
  obtain ⟨a, b, ha, hb, hiff⟩ := compile_tells_filters_apart ⟨some "(c = @p0 AND c"⟩ "items" [] {} f
    g () (hwell _ _) (hwell _ _) (htext _ _) (htext _ _) hfkeys hgkeys
  refine ⟨f, g, a, b, rfl, rfl, ha, hb, ?_⟩
  intro hsame
  exact absurd (congrArg Filter.keys (hiff.mp hsame)) (by decide)

/-- A key that holds another leaf and a connective is no such key.  A disjunction and a conjunction
    with such keys are compiled to the same statement. -/
theorem compile_confuses_hostile_keys :
    ∃ (f g : Filter) (a b : Statement),
      f.WellFormed ∧ g.WellFormed ∧ (∀ v ∈ f.values, ∃ t, v = Value.text t)
      ∧ (∀ v ∈ g.values, ∃ t, v = Value.text t)
      ∧ (Statement.compile (Named.dialect ⟨none⟩) "items" { filter := some f } ()).result = .ok a
      ∧ (Statement.compile (Named.dialect ⟨none⟩) "items" { filter := some g } ()).result = .ok b
      ∧ a.text = "SELECT * FROM items WHERE a = @p0 OR b = @p0 AND c = @p1"
      ∧ a.text = b.text ∧ a.parameters = b.parameters ∧ f ≠ g := by
  let f : Filter := .any [.eq "a" (.text "x"), .eq "b = @p0 AND c" (.text "y")]
  let g : Filter := .all [.eq "a = @p0 OR b" (.text "x"), .eq "c" (.text "y")]
  have hf : f.WellFormed := by
    refine .any (by decide) (List.forall_mem_cons.mpr ⟨.eq _ _, ?_⟩)
    exact List.forall_mem_singleton.mpr (.eq _ _)
  have hg : g.WellFormed := by
    refine .all (by decide) (List.forall_mem_cons.mpr ⟨.eq _ _, ?_⟩)
    exact List.forall_mem_singleton.mpr (.eq _ _)
  have hftext : ∀ v ∈ f.values, ∃ t, v = Value.text t := by
    simp [f, Filter.values, Filter.leaves, Filter.childLeaves]
  have hgtext : ∀ v ∈ g.values, ∃ t, v = Value.text t := by
    simp [g, Filter.values, Filter.leaves, Filter.childLeaves]
  have hne : f ≠ g := fun h => Filter.noConfusion h
  exact ⟨f, g, _, _, hf, hg, hftext, hgtext, rfl, rfl, by decide, by decide, rfl, hne⟩

end StoreQuery.Sql
