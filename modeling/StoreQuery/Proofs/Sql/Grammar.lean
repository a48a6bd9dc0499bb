import Mathlib.Data.List.SplitBy
import StoreQuery.Sorting

/-! # A grammar of statements — every text has at most one reading

    What follows the source of a statement is read in two steps.  The text
    falls into tokens: the marks, and the longest runs of other characters
    between white space.  The tokens are then read by a grammar with three
    levels, in which `AND` binds tighter than `OR` and parentheses group.

    No word is reserved: a field may be called `AND`, and its place alone
    tells what it is.  So that a text has at most one reading needs a proof.
    It goes by induction on one of two readings: where both begin alike and
    what follows cannot continue them, they are the same
    (`Reads.settled`).  Lists of parts with a separator between them
    stand at every level, and are compared once, in `joined_unique`. -/

namespace StoreQuery.Sql

/-! ## Tokens -/

/-- The characters that are tokens by themselves. -/
def marks : List Char := ['=', '(', ')', ',']

/-- Whether a character can stand in a word. -/
def isWordChar (c : Char) : Bool :=
  !c.isWhitespace && !marks.contains c

/-- The tokens of a text: single marks, and the longest runs of word characters. -/
def tokens (text : String) : List String :=
  ((text.toList.splitBy fun a b => isWordChar a && isWordChar b).filter
    fun run => !run.all Char.isWhitespace).map String.ofList

/-- Whether a character can stand in a name: all word characters can, except for the sign that
    begins a placeholder. -/
def isNameChar (c : Char) : Bool :=
  isWordChar c && c != '@'

/-- A word that is no placeholder.  Words of letters, digits, `_` and `.` are names. -/
def IsName (t : String) : Prop :=
  t ≠ "" ∧ ∀ c ∈ t.toList, isNameChar c = true

instance : DecidablePred IsName := fun t =>
  decidable_of_iff (t ≠ "" ∧ t.toList.all isNameChar = true) (by rw [List.all_eq_true, IsName])

/-- A name behind the sign of placeholders. -/
def IsPlaceholder (t : String) : Prop :=
  ∃ name, IsName name ∧ t = "@" ++ name

/-! ## Readings -/

/-- A predicate over fields and placeholders. -/
inductive Predicate where
  | eq (field placeholder : String)
  | isIn (field : String) (placeholders : List String)
  | all (children : List Predicate)
  | any (children : List Predicate)

/-- What a statement asks for. -/
structure Reading where
  predicate : Option Predicate
  sort : List (String × SortOrder)

/-- How tight a part of a predicate holds together. -/
inductive Tightness where
  | primary
  | conjunction
  | disjunction

/-- Parts joined by a connective; one part alone is that part. -/
def gathered (connective : List Predicate → Predicate) : List Predicate → Predicate
  | [p] => p
  | ps => connective ps

/-- Tokens that are read as a placeholder. -/
def ReadsPlaceholder (ts : List String) (placeholder : String) : Prop :=
  ts = [placeholder] ∧ IsPlaceholder placeholder

/-- Tokens that are read as a predicate of a level. -/
inductive Reads : Tightness → List String → Predicate → Prop where
  | eq {field placeholder : String} : IsName field → IsPlaceholder placeholder →
      Reads .primary [field, "=", placeholder] (.eq field placeholder)
  | isIn {field : String} (parts : List (List String × String)) : IsName field → parts ≠ [] →
      (∀ x ∈ parts, ReadsPlaceholder x.1 x.2) →
      Reads .primary
        (field :: "IN" :: "(" :: ([","].intercalate (parts.map Prod.fst) ++ [")"]))
        (.isIn field (parts.map Prod.snd))
  | group {ts : List String} {p : Predicate} : Reads .disjunction ts p →
      Reads .primary ("(" :: (ts ++ [")"])) p
  | conjunction (parts : List (List String × Predicate)) : parts ≠ [] →
      (∀ x ∈ parts, Reads .primary x.1 x.2) →
      Reads .conjunction (["AND"].intercalate (parts.map Prod.fst))
        (gathered .all (parts.map Prod.snd))
  | disjunction (parts : List (List String × Predicate)) : parts ≠ [] →
      (∀ x ∈ parts, Reads .conjunction x.1 x.2) →
      Reads .disjunction (["OR"].intercalate (parts.map Prod.fst))
        (gathered .any (parts.map Prod.snd))

/-- Tokens that are read as an optional `WHERE` clause. -/
inductive ReadsWhere : List String → Option Predicate → Prop where
  | absent : ReadsWhere [] none
  | present {ts : List String} {p : Predicate} : Reads .disjunction ts p →
      ReadsWhere ("WHERE" :: ts) (some p)

/-- Tokens that are read as a sort key, which ascends unless it says otherwise. -/
inductive ReadsKey : List String → String × SortOrder → Prop where
  | plain {field : String} : IsName field → ReadsKey [field] (field, .asc)
  | asc {field : String} : IsName field → ReadsKey [field, "ASC"] (field, .asc)
  | desc {field : String} : IsName field → ReadsKey [field, "DESC"] (field, .desc)

/-- Tokens that are read as an optional `ORDER BY` clause. -/
inductive ReadsOrder : List String → List (String × SortOrder) → Prop where
  | absent : ReadsOrder [] []
  | present (parts : List (List String × (String × SortOrder))) : parts ≠ [] →
      (∀ x ∈ parts, ReadsKey x.1 x.2) →
      ReadsOrder ("ORDER" :: "BY" :: [","].intercalate (parts.map Prod.fst)) (parts.map Prod.snd)

/-- A reading of the text that follows the source of a statement. -/
def ReadsAs (text : String) (r : Reading) : Prop :=
  ∃ clause order, tokens text = clause ++ order
    ∧ ReadsWhere clause r.predicate ∧ ReadsOrder order r.sort

/-! ## Unambiguity -/

section Joined

variable {α : Type} {R : List String → α → Prop} {E : List String → Prop} {sep : String}

/-- A part that is told from every other one by the text that it begins, in front of what can end
    a part. -/
def Settled (R : List String → α → Prop) (E : List String → Prop) (x : List String × α) : Prop :=
  ∀ ts a rest rest', R ts a → E rest → E rest' → x.1 ++ rest = ts ++ rest' →
    x.1 = ts ∧ x.2 = a

/-- Parts that each stand behind a separator can follow a part, if what is behind them can. -/
theorem ends_separated (hsep : ∀ rest, E (sep :: rest)) (parts : List (List String × α))
    {rest : List String} (hrest : E rest) :
    E (parts.flatMap (fun x => sep :: x.1) ++ rest) := by
  cases parts with
  | nil => exact hrest
  | cons x xs => exact hsep _

/-- Two lists of parts, each behind a separator, that begin the same text are the same, if what
    follows them does not go on with the separator. -/
theorem separated_unique (hsep : ∀ rest, E (sep :: rest)) {parts parts' : List (List String × α)}
    (h : ∀ x ∈ parts, Settled R E x) (h' : ∀ x ∈ parts', R x.1 x.2) {rest rest' : List String}
    (hrest : E rest) (hrest' : E rest') (hstop : rest.head? ≠ some sep)
    (hstop' : rest'.head? ≠ some sep)
    (heq : parts.flatMap (fun x => sep :: x.1) ++ rest
      = parts'.flatMap (fun x => sep :: x.1) ++ rest') :
    parts = parts' := by
  -- where one list ends, the other would go on with the separator
  induction parts generalizing parts' with
  | nil =>
    cases parts' with
    | nil => rfl
    | cons y ys =>
      rw [List.flatMap_nil, List.nil_append] at heq
      exact absurd (by rw [heq]; rfl) hstop
  | cons x xs ih =>
    cases parts' with
    | nil =>
      rw [List.flatMap_nil, List.nil_append] at heq
      exact absurd (by rw [← heq]; rfl) hstop'
    | cons y ys =>
      obtain ⟨hx, hxs⟩ := List.forall_mem_cons.mp h
      obtain ⟨hy, hys⟩ := List.forall_mem_cons.mp h'
      rw [List.flatMap_cons, List.flatMap_cons, List.cons_append, List.cons_append,
        List.cons_append, List.cons_append, List.append_assoc, List.append_assoc] at heq
      have htail := (List.cons.inj heq).2
      obtain ⟨htext, hvalue⟩ := hx _ _ _ _ hy (ends_separated hsep xs hrest)
        (ends_separated hsep ys hrest') htail
      rw [htext] at htail
      rw [ih hxs hys (List.append_cancel_left htail), Prod.ext htext hvalue]

/-- A separator in front makes the parts of a list alike. -/
theorem cons_intercalate {parts : List (List String)} (h : parts ≠ []) :
    sep :: [sep].intercalate parts = parts.flatMap (sep :: ·) := by
  induction parts with
  | nil => exact absurd rfl h
  | cons x xs ih =>
    cases xs with
    | nil => rw [List.intercalate_singleton, List.flatMap_cons, List.flatMap_nil, List.append_nil]
    | cons y ys =>
      rw [List.intercalate_cons_cons, List.flatMap_cons, ← ih (List.cons_ne_nil y ys),
        List.append_assoc, List.singleton_append, List.cons_append]

/-- Two lists of parts with a separator between them that begin the same text are the same, if
    what follows them does not go on with the separator. -/
theorem joined_unique (hsep : ∀ rest, E (sep :: rest)) {parts parts' : List (List String × α)}
    (hne : parts ≠ []) (hne' : parts' ≠ []) (h : ∀ x ∈ parts, Settled R E x)
    (h' : ∀ x ∈ parts', R x.1 x.2) {rest rest' : List String} (hrest : E rest)
    (hrest' : E rest') (hstop : rest.head? ≠ some sep) (hstop' : rest'.head? ≠ some sep)
    (heq : [sep].intercalate (parts.map Prod.fst) ++ rest
      = [sep].intercalate (parts'.map Prod.fst) ++ rest') :
    parts = parts' := by
  -- with a separator put in front of both texts, no part is special
  refine separated_unique hsep h h' hrest hrest' hstop hstop' ?_
  have hcons := congrArg (sep :: ·) heq
  rw [← List.cons_append, ← List.cons_append, cons_intercalate (by simpa using hne),
    cons_intercalate (by simpa using hne'), List.flatMap_map, List.flatMap_map] at hcons
  exact hcons

end Joined

/-- What cannot continue a predicate of a level. -/
def Ends : Tightness → List String → Prop
  | .primary, _ => True
  | .conjunction, rest => rest.head? ≠ some "AND"
  | .disjunction, rest => rest.head? ≠ some "AND" ∧ rest.head? ≠ some "OR"

/-- A parenthesis is no name. -/
theorem IsName.ne_parenthesis {t : String} (h : IsName t) : t ≠ "(" := by
  rintro rfl
  exact absurd (h.2 '(' (by decide)) (by decide)

/-- A placeholder is told from every other one by the text that it begins. -/
theorem ReadsPlaceholder.settled {ts : List String} {p : String} (h : ReadsPlaceholder ts p) :
    Settled ReadsPlaceholder (fun _ => True) (ts, p) := by
  obtain ⟨rfl, -⟩ := h
  rintro ts' p' rest rest' ⟨rfl, -⟩ - - heq
  obtain rfl : p = p' := (List.cons.inj heq).1
  exact ⟨rfl, rfl⟩

/-- A predicate is told from every other one of its level by the text that it begins, in front of
    what cannot continue it. -/
theorem Reads.settled {l : Tightness} {ts : List String} {p : Predicate} (h : Reads l ts p) :
    Settled (Reads l) (Ends l) (ts, p) := by
  -- the second reading is of the same level, so only primaries leave a choice of rule: the second
  -- token tells a comparison from a list, and no name is a parenthesis
  induction h with
  | eq hfield _ =>
    intro ts' p' rest rest' h' _ _ heq
    cases h' with
    | eq _ _ =>
      simp only [List.cons_append, List.nil_append, List.cons.injEq] at heq
      obtain ⟨rfl, -, rfl, -⟩ := heq
      exact ⟨rfl, rfl⟩
    | isIn _ _ _ _ => simp at heq
    | group _ => exact absurd (List.cons.inj heq).1 hfield.ne_parenthesis
  | isIn parts hfield hne hparts =>
    intro ts' p' rest rest' h' _ _ heq
    cases h' with
    | eq _ _ => simp at heq
    | isIn parts' _ hne' hparts' =>
      simp only [List.cons_append, List.append_assoc, List.nil_append, List.cons.injEq,
        true_and] at heq
      obtain ⟨rfl, hlist⟩ := heq
      rw [joined_unique (fun _ => trivial) hne hne' (fun x hx => (hparts x hx).settled) hparts'
        trivial trivial (by simp) (by simp) hlist]
      exact ⟨rfl, rfl⟩
    | group _ => exact absurd (List.cons.inj heq).1 hfield.ne_parenthesis
  | group _ ih =>
    intro ts' p' rest rest' h' _ _ heq
    cases h' with
    | eq hfield _ => exact absurd (List.cons.inj heq).1.symm hfield.ne_parenthesis
    | isIn _ hfield _ _ => exact absurd (List.cons.inj heq).1.symm hfield.ne_parenthesis
    | group hinner =>
      simp only [List.cons_append, List.append_assoc, List.nil_append, List.cons.injEq,
        true_and] at heq
      -- both groups end at a closing parenthesis, which continues nothing
      obtain ⟨rfl, rfl⟩ := ih _ _ _ _ hinner ⟨by simp, by simp⟩ ⟨by simp, by simp⟩ heq
      exact ⟨rfl, rfl⟩
  | conjunction parts hne _ ih =>
    intro ts' p' rest rest' h' hrest hrest' heq
    cases h' with
    | conjunction parts' hne' hparts' =>
      rw [joined_unique (fun _ => trivial) hne hne' ih hparts' trivial trivial hrest hrest' heq]
      exact ⟨rfl, rfl⟩
  | disjunction parts hne _ ih =>
    intro ts' p' rest rest' h' hrest hrest' heq
    cases h' with
    | disjunction parts' hne' hparts' =>
      rw [joined_unique (E := Ends .conjunction) (fun _ => by simp [Ends]) hne hne' ih hparts'
        hrest.1 hrest'.1 hrest.2 hrest'.2 heq]
      exact ⟨rfl, rfl⟩

/-- A sort key is told from every other one by the text that it begins, in front of what is no
    direction. -/
theorem ReadsKey.settled {ts : List String} {key : String × SortOrder} (h : ReadsKey ts key) :
    Settled ReadsKey (fun rest => rest.head? ≠ some "ASC" ∧ rest.head? ≠ some "DESC")
      (ts, key) := by
  intro ts' key' rest rest' h' hrest hrest' heq
  -- the field is the first token of both; a direction behind it belongs to both keys, because the
  -- key without one would have it as the first token of what follows
  cases h with
  | plain _ =>
    cases h' with
    | plain _ =>
      obtain ⟨rfl, -⟩ := List.cons.inj heq
      exact ⟨rfl, rfl⟩
    | asc _ => exact absurd (congrArg List.head? (List.cons.inj heq).2) hrest.1
    | desc _ => exact absurd (congrArg List.head? (List.cons.inj heq).2) hrest.2
  | asc _ =>
    cases h' with
    | plain _ => exact absurd (congrArg List.head? (List.cons.inj heq).2).symm hrest'.1
    | asc _ =>
      obtain ⟨rfl, -⟩ := List.cons.inj heq
      exact ⟨rfl, rfl⟩
    | desc _ => exact absurd (List.cons.inj (List.cons.inj heq).2).1 (by decide)
  | desc _ =>
    cases h' with
    | plain _ => exact absurd (congrArg List.head? (List.cons.inj heq).2).symm hrest'.2
    | asc _ => exact absurd (List.cons.inj (List.cons.inj heq).2).1 (by decide)
    | desc _ =>
      obtain ⟨rfl, -⟩ := List.cons.inj heq
      exact ⟨rfl, rfl⟩

/-- The sort keys of a list of tokens are all its readings. -/
theorem ReadsOrder.unique {ts : List String} {keys keys' : List (String × SortOrder)}
    (h : ReadsOrder ts keys) (h' : ReadsOrder ts keys') : keys = keys' := by
  cases h with
  | absent =>
    cases h'
    rfl
  | present parts hne hparts =>
    generalize hts : "ORDER" :: "BY" :: [","].intercalate (parts.map Prod.fst) = ts at h'
    cases h' with
    | absent => exact nomatch hts
    | present parts' hne' hparts' =>
      have hkeys := congrArg (· ++ []) (List.cons.inj (List.cons.inj hts).2).2
      rw [joined_unique (fun _ => by simp) hne hne' (fun x hx => (hparts x hx).settled) hparts'
        (by simp) (by simp) (by simp) (by simp) hkeys]

/-- A sort clause begins with its own word, if it is there. -/
theorem ReadsOrder.head_ne {ts : List String} {keys : List (String × SortOrder)}
    (h : ReadsOrder ts keys) {word : String} (hword : "ORDER" ≠ word) :
    ts.head? ≠ some word := by
  cases h with
  | absent => exact nofun
  | present _ _ _ => exact fun heq => hword (Option.some.inj heq)

/-- A sort clause cannot continue a predicate. -/
theorem ReadsOrder.ends {ts : List String} {keys : List (String × SortOrder)}
    (h : ReadsOrder ts keys) : Ends .disjunction ts :=
  ⟨h.head_ne (by decide), h.head_ne (by decide)⟩

/-- Two `WHERE` clauses that begin the same text in front of sort clauses are the same. -/
theorem ReadsWhere.unique {ts ts' order order' : List String} {p p' : Option Predicate}
    {keys keys' : List (String × SortOrder)} (h : ReadsWhere ts p) (h' : ReadsWhere ts' p')
    (horder : ReadsOrder order keys) (horder' : ReadsOrder order' keys')
    (heq : ts ++ order = ts' ++ order') : ts = ts' ∧ p = p' := by
  cases h with
  | absent =>
    cases h' with
    | absent => exact ⟨rfl, rfl⟩
    | present _ => exact absurd (congrArg List.head? heq) (horder.head_ne (by decide))
  | present hp =>
    cases h' with
    | absent => exact absurd (congrArg List.head? heq).symm (horder'.head_ne (by decide))
    | present hp' =>
      obtain ⟨hts, hpredicate⟩ :=
        hp.settled _ _ _ _ hp' horder.ends horder'.ends (List.cons.inj heq).2
      exact ⟨congrArg ("WHERE" :: ·) hts, congrArg some hpredicate⟩

/-- A text has at most one reading. -/
theorem ReadsAs.unique {text : String} {r r' : Reading} (h : ReadsAs text r)
    (h' : ReadsAs text r') : r = r' := by
  obtain ⟨clause, order, htokens, hwhere, horder⟩ := h
  obtain ⟨clause', order', htokens', hwhere', horder'⟩ := h'
  rw [htokens] at htokens'
  obtain ⟨hclause, hpredicate⟩ := hwhere.unique hwhere' horder horder' htokens'
  rw [hclause] at htokens'
  rw [List.append_cancel_left htokens'] at horder
  have hsort := horder.unique horder'
  cases r
  cases r'
  exact congrArg₂ Reading.mk hpredicate hsort

end StoreQuery.Sql
