import StoreQuery.Proofs.Find.Growth
import StoreQuery.Proofs.Find.Limit
import StoreQuery.Proofs.Find.Order

/-! # Arrangements — a page is a slice of the only right order

    Keys may tie documents, so being sorted does not settle the order of a
    result.  An arrangement of documents by keys is sorted, and the
    documents of each tie stand in it as they stood before.

    Sorting gives an arrangement: the documents of a tie are a sorted
    sublist of the input, and a stable sort keeps such sublists.  And there
    is no other one.  Of two arrangements of the same documents, the first
    document of each occurs in the other, so neither comes behind the
    other; they tie, and within a tie the order is given.  What follows
    them is compared in the same way. -/

namespace StoreQuery.Find

open Std (OrientedCmp ReflCmp TransCmp)

/-- Whether keys tie two documents. -/
def tied (keys : List SortKey) (a b : Json) : Bool :=
  compareBy keys a b == .eq

/-- The found documents in the order of keys: all of them, none of them behind a greater one, and
    those that tie with any given document in the order in which they were found. -/
structure Arranges (keys : List SortKey) (found arranged : List Json) : Prop where
  perm : arranged.Perm found
  sorted : arranged.Pairwise fun a b => compareBy keys a b ≠ .gt
  stable : ∀ doc, arranged.filter (tied keys doc) = found.filter (tied keys doc)

variable {keys : List SortKey}

theorem tied_iff {a b : Json} : tied keys a b = true ↔ compareBy keys a b = .eq :=
  beq_iff_eq

theorem tied_self (doc : Json) : tied keys doc doc = true :=
  tied_iff.mpr ReflCmp.compare_self

/-! ## Sorting arranges -/

/-- "Not behind" carries over. -/
theorem not_behind_trans (a b c : Json) (hab : (compareBy keys a b != .gt) = true)
    (hbc : (compareBy keys b c != .gt) = true) : (compareBy keys a c != .gt) = true := by
  simp only [bne_iff_ne, Ordering.ne_gt_iff_isLE] at hab hbc ⊢
  exact TransCmp.isLE_trans hab hbc

/-- Of two documents one is not behind the other. -/
theorem not_behind_total (a b : Json) :
    ((compareBy keys a b != .gt) || (compareBy keys b a != .gt)) = true := by
  have hswap : compareBy keys b a = (compareBy keys a b).swap := OrientedCmp.eq_swap
  rw [hswap]
  cases compareBy keys a b <;> rfl

/-- Documents that tie with one document tie with each other, so they are sorted as they stand. -/
theorem pairwise_filter_tied (doc : Json) (docs : List Json) :
    (docs.filter (tied keys doc)).Pairwise fun a b => (compareBy keys a b != .gt) = true := by
  refine List.Pairwise.imp_of_mem ?_ (List.pairwise_of_forall fun _ _ => trivial)
  intro a b ha hb _
  have hadoc : compareBy keys doc a = .eq := tied_iff.mp (List.mem_filter.mp ha).2
  have hbdoc : compareBy keys doc b = .eq := tied_iff.mp (List.mem_filter.mp hb).2
  have htie : compareBy keys a b = .eq := (TransCmp.congr_left hadoc).symm.trans hbdoc
  rw [htie]
  rfl

/-- Sorting documents by keys arranges them. -/
theorem arranges_sortBy (keys : List SortKey) (docs : List Json) :
    Arranges keys docs (sortBy keys docs) where
  perm := List.mergeSort_perm docs _
  sorted := (List.pairwise_mergeSort not_behind_trans not_behind_total docs).imp bne_iff_ne.mp
  stable doc := by
    have hkept : (docs.filter (tied keys doc)).Sublist (sortBy keys docs) :=
      List.sublist_mergeSort not_behind_trans not_behind_total (pairwise_filter_tied doc docs)
        List.filter_sublist
    have hsub : (docs.filter (tied keys doc)).Sublist
        ((sortBy keys docs).filter (tied keys doc)) := by
      have hfilter := hkept.filter (tied keys doc)
      simpa only [List.filter_filter, Bool.and_self] using hfilter
    -- a sublist of the same length is the whole list
    have hperm := (List.mergeSort_perm docs fun a b => compareBy keys a b != .gt).filter
      (tied keys doc)
    exact (hsub.eq_of_length hperm.length_eq.symm).symm

/-! ## There is no other arrangement -/

/-- Nothing in a sorted list comes before its first document. -/
theorem head_not_behind {a b : Json} {docs : List Json}
    (h : (b :: docs).Pairwise fun a b => compareBy keys a b ≠ .gt) (ha : a ∈ b :: docs) :
    compareBy keys b a ≠ .gt := by
  rcases List.mem_cons.mp ha with rfl | ha
  · rw [tied_iff.mp (tied_self a)]
    exact Ordering.noConfusion
  · exact List.rel_of_pairwise_cons h ha

/-- Lists with the same ties have the same documents. -/
theorem mem_of_filter_tied {xs ys : List Json}
    (h : ∀ doc, xs.filter (tied keys doc) = ys.filter (tied keys doc)) {a : Json} (ha : a ∈ xs) :
    a ∈ ys := by
  have hmem : a ∈ xs.filter (tied keys a) := List.mem_filter.mpr ⟨ha, tied_self a⟩
  rw [h a] at hmem
  exact (List.mem_filter.mp hmem).1

/-- Sorted lists with the same ties are the same. -/
theorem eq_of_filter_tied {xs ys : List Json}
    (hxs : xs.Pairwise fun a b => compareBy keys a b ≠ .gt)
    (hys : ys.Pairwise fun a b => compareBy keys a b ≠ .gt)
    (h : ∀ doc, xs.filter (tied keys doc) = ys.filter (tied keys doc)) : xs = ys := by
  induction xs generalizing ys with
  | nil =>
    refine (List.eq_nil_iff_forall_not_mem.mpr fun b hb => ?_).symm
    exact List.not_mem_nil (mem_of_filter_tied (fun doc => (h doc).symm) hb)
  | cons a xs ih =>
    cases ys with
    | nil => exact absurd (mem_of_filter_tied h List.mem_cons_self) List.not_mem_nil
    | cons b ys =>
      have hba := head_not_behind hys (mem_of_filter_tied h List.mem_cons_self)
      have hab := head_not_behind hxs
        (mem_of_filter_tied (fun doc => (h doc).symm) List.mem_cons_self)
      have htie : compareBy keys a b = .eq := by
        rw [ne_eq, Ordering.ne_gt_iff_isLE] at hab hba
        exact OrientedCmp.isLE_antisymm hab hba
      -- both lists begin with the first document of that tie
      have hhead := h a
      rw [List.filter_cons_of_pos (tied_self a),
        List.filter_cons_of_pos (tied_iff.mpr htie)] at hhead
      obtain ⟨rfl, -⟩ := List.cons.inj hhead
      rw [ih hxs.of_cons hys.of_cons]
      intro doc
      have hdoc := h doc
      cases hfirst : tied keys doc a with
      | true =>
        rw [List.filter_cons_of_pos hfirst, List.filter_cons_of_pos hfirst] at hdoc
        exact (List.cons.inj hdoc).2
      | false =>
        have hnot : ¬tied keys doc a = true := by simp [hfirst]
        rwa [List.filter_cons_of_neg hnot, List.filter_cons_of_neg hnot] at hdoc

/-- The arrangements of documents are what sorting gives. -/
theorem arranges_iff {found docs : List Json} :
    Arranges keys found docs ↔ docs = sortBy keys found := by
  constructor
  · intro h
    have hsort := arranges_sortBy keys found
    exact eq_of_filter_tied h.sorted hsort.sorted fun doc =>
      (h.stable doc).trans (hsort.stable doc).symm
  · rintro rfl
    exact arranges_sortBy keys found

/-! ## Slices -/

namespace Collection

/-- The records of a page are a slice of the matching documents. -/
theorem page_records (docs : List Json) (r : Request) (skip : UInt64) :
    (page docs r skip).records = (matching docs r).extract skip.toNat
      (r.options.limit.elim (matching docs r).length fun limit => skip.toNat + limit.toNat) := by
  rw [List.extract_eq_take_drop]
  cases h : r.options.limit with
  | none =>
    rw [page_unlimited h, Option.elim_none, ← List.length_drop, List.take_length]
  | some limit =>
    rw [page_limited h, Option.elim_some, Nat.add_sub_cancel_left]

/-- Where a fetch starts: where the request says if the token is empty, and else at the token's
    offset. -/
theorem startOffset_eq (r : Request) {token : String}
    (h : token = "" ∨ ∃ n, parseOffset token = .ok (some n)) :
    ∃ skip, startOffset r token = .ok skip ∧ (token = "" → skip = r.options.skip.getD 0)
      ∧ ∀ n, parseOffset token = .ok (some n) → skip = n := by
  rcases h with rfl | ⟨n, hn⟩
  · exact ⟨_, rfl, fun _ => rfl, fun n hn => nomatch hn⟩
  · refine ⟨n, by rw [startOffset, hn], ?_, ?_⟩
    · rintro rfl
      exact nomatch hn
    · intro m hm
      rw [hn] at hm
      cases hm
      rfl

/-- A fetch gives a slice of the only arrangement of the documents that match, from the offset of
    its token or of its request on and as long as the limit says. -/
theorem fetch_slices_arrangement (c : Collection) (r : Request) (token : String)
    (htoken : token = "" ∨ ∃ n, parseOffset token = .ok (some n)) :
    ∃ (arranged : List Json) (skip : UInt64) (page : Page),
      (∀ docs, Arranges r.options.sort (c.docs.filter fun doc => satisfies doc r.filter) docs
        ↔ docs = arranged)
      ∧ (r.options.sort = [] → arranged = c.docs.filter fun doc => satisfies doc r.filter)
      ∧ (token = "" → skip = r.options.skip.getD 0)
      ∧ (∀ n, parseOffset token = .ok (some n) → skip = n)
      ∧ (fetch r token c).result = .ok page
      ∧ page.records = arranged.extract skip.toNat
          (r.options.limit.elim arranged.length fun limit => skip.toNat + limit.toNat) := by
  obtain ⟨skip, hstart, hempty, hoffset⟩ := startOffset_eq r htoken
  obtain ⟨events, hfetch⟩ := fetch_run hstart c
  refine ⟨matching c.docs r, skip, page c.docs r skip, ?_, ?_, hempty, hoffset, ?_, ?_⟩
  · intro docs
    exact arranges_iff
  · intro hsort
    exact matching_unsorted hsort c.docs
  · rw [hfetch]
  · exact page_records c.docs r skip

/-- Under a descending key a document without the field and one that holds `null` there tie: they
    stand behind the one with a text, in the order of their insertion. -/
theorem fetch_slices_arrangement_descending :
    ∃ (q : Query) (r : Request) (page : Page),
      q.sort = [⟨"a", .desc⟩] ∧ q.page = ⟨2, ""⟩ ∧ (Request.compile q ()).result = .ok r
      ∧ (fetch r "1" ⟨"letters", [.obj [("b", .bool true)], .obj [("a", .str "x")],
          .obj [("a", .null)]]⟩).result = .ok page
      ∧ page.records = [.obj [("b", .bool true)], .obj [("a", .null)]] := by
  let absent : Json := .obj [("b", .bool true)]
  let text : Json := .obj [("a", .str "x")]
  let blank : Json := .obj [("a", .null)]
  let keys : List SortKey := [⟨"a", -1⟩]
  let q : Query := ⟨none, [⟨"a", .desc⟩], ⟨2, ""⟩⟩
  let r : Request := ⟨"", .obj [], ⟨keys, some 2, none⟩⟩
  have hcompile : (Request.compile q ()).result = .ok r := by
    rw [compile_unfiltered rfl]
    rfl
  have hone : parseOffset "1" = .ok (some 1) := parseOffset_offsetToken 1
  have harranges : Arranges keys [absent, text, blank] [text, absent, blank] := by
    refine ⟨.swap _ _ _, by decide, ?_⟩
    intro doc
    have hsame : tied keys doc blank = tied keys doc absent := by
      have htie : compareBy keys blank absent = .eq := by decide
      rw [tied, tied, TransCmp.congr_right htie]
    cases habsent : tied keys doc absent with
    | true =>
      have hapart : tied keys doc text = false := by
        rw [tied, TransCmp.congr_left (tied_iff.mp habsent)]
        decide
      simp [hsame, habsent, hapart]
    | false => simp [List.filter_cons, hsame, habsent]
  obtain ⟨arranged, skip, page, honly, -, -, hskip, hresult, hrecords⟩ :=
    fetch_slices_arrangement ⟨"letters", [absent, text, blank]⟩ r "1" (Or.inr ⟨1, hone⟩)
  have harranged : [text, absent, blank] = arranged := (honly _).mp harranges
  rw [hskip 1 hone, ← harranged] at hrecords
  exact ⟨q, r, page, rfl, rfl, hcompile, hresult, hrecords⟩

end Collection

end StoreQuery.Find
