import StoreQuery.Proofs.Find.Paging

/-! # Resuming — a read that goes on with a query of its own

    A reader may stop behind any page, keep its token, and go on later with
    a new query that holds the token, perhaps with another limit.  The offset
    then arrives as part of the query and not beside it.

    Limit and token have no part in the predicate.  So a filter that compiles
    does so with every limit and every offset, and selects the same documents
    in the same order (`compile_repaged`).  The token of a page with a limit
    is the offset behind it, also where the page is empty or shorter than its
    limit (`next_repaged`), which makes every sequence of such pages one read
    (`readPages_run`). -/

namespace StoreQuery.Find

/-! ## The same request for another part of the result -/

/-- A request with another limit and another offset. -/
def Request.repaged (r : Request) (limit : UInt64) (start : Option UInt64) : Request :=
  { r with options := ⟨r.options.sort, if limit = 0 then none else some limit, start⟩ }

/-- A compiled query has the same text and filter on every page, so there only the token can be
    refused. -/
theorem compile_on_page {σ : Type} {q : Query} {s : σ} {r : Request}
    (h : (Request.compile q s).result = .ok r) (page : Pagination) :
    (Request.compile ⟨q.filter, q.sort, page⟩ s).result =
      (Request.optionsOf ⟨q.filter, q.sort, page⟩).map (Request.mk r.text r.filter) := by
  cases hq : q.filter with
  | none =>
    rw [compile_unfiltered hq] at h
    obtain ⟨options, -, rfl⟩ := map_eq_ok_iff.mp h
    exact compile_unfiltered rfl s
  | some f =>
    rw [compile_filtered hq] at h
    rw [compile_filtered rfl]
    cases hoffence : f.leaves.findSome? offence with
    | some e =>
      rw [hoffence] at h
      exact nomatch h
    | none =>
      -- neither the leaves nor the nesting depend on the page
      rw [hoffence, Option.elim_none] at h
      rw [Option.elim_none]
      split at h
      · rename_i hdepth
        obtain ⟨options, -, rfl⟩ := map_eq_ok_iff.mp h
        rw [if_pos hdepth]
      · exact nomatch h

/-- A compiled query keeps the sort keys. -/
theorem sort_of_compile {σ : Type} {q : Query} {s : σ} {r : Request}
    (h : (Request.compile q s).result = .ok r) :
    r.options.sort = q.sort.map Request.sortKey := by
  obtain ⟨skip, -, hoptions⟩ := bind_eq_ok_iff.mp (compile_ok_options h)
  rw [← Except.ok.inj hoptions]

/-- A query that compiles does so with every limit and every offset. -/
theorem compile_repaged {σ : Type} {q : Query} {s : σ} {r : Request}
    (h : (Request.compile q s).result = .ok r) {token : String} {start : Option UInt64}
    (hstart : parseOffset token = .ok start) (limit : UInt64) :
    (Request.compile ⟨q.filter, q.sort, ⟨limit, token⟩⟩ s).result
      = .ok (r.repaged limit start) := by
  have hoptions : Request.optionsOf ⟨q.filter, q.sort, ⟨limit, token⟩⟩
      = .ok (r.repaged limit start).options := by
    rw [Request.repaged, sort_of_compile h]
    exact bind_eq_ok_iff.mpr ⟨start, hstart, rfl⟩
  rw [compile_on_page h, hoptions]
  rfl

namespace Collection

/-! ## One page -/

/-- Reads a page with a query of its own, which holds the limit and the token. -/
def readPage (filter : Option Filter) (sort : List Sorting) (limit : UInt64) (token : String) :
    Act StoreError Collection Page := do
  let r ← client.compile ⟨filter, sort, ⟨limit, token⟩⟩
  client.fetch r ""

section Repaged

variable {c : Collection} {q : Query} {r : Request} {token : String} {start : Option UInt64}

/-- Compiling with another limit and another offset leaves the collection. -/
theorem client_compile_repaged (h : (client.compile q c).result = .ok r)
    (hstart : parseOffset token = .ok start) (limit : UInt64) :
    ∃ events, client.compile ⟨q.filter, q.sort, ⟨limit, token⟩⟩ c
      = ⟨.ok (r.repaged limit start), c, events⟩ := by
  have hresult : (client.compile ⟨q.filter, q.sort, ⟨limit, token⟩⟩ c).result
      = .ok (r.repaged limit start) :=
    Act.mapError_result_ok.mpr (compile_repaged (Act.mapError_result_ok.mp h) hstart limit)
  refine ⟨(client.compile ⟨q.filter, q.sort, ⟨limit, token⟩⟩ c).events, ?_⟩
  rw [← hresult]
  rfl

/-- A page that is read with a query of its own starts at the offset that the query holds. -/
theorem readPage_run (h : (client.compile q c).result = .ok r)
    (hstart : parseOffset token = .ok start) (limit : UInt64) :
    ∃ events, readPage q.filter q.sort limit token c
      = ⟨.ok (page c.docs (r.repaged limit start) (start.getD 0)), c, events⟩ := by
  obtain ⟨before, hcompile⟩ := client_compile_repaged h hstart limit
  have hoffset : startOffset (r.repaged limit start) "" = .ok (start.getD 0) := rfl
  obtain ⟨behind, hfetch⟩ := fetch_run hoffset c
  have hclient : client.fetch (r.repaged limit start) "" c
      = ⟨.ok (page c.docs (r.repaged limit start) (start.getD 0)), c, behind⟩ := hfetch
  refine ⟨before ++ behind, ?_⟩
  rw [readPage, Act.bind_ok hcompile, hclient]

/-- Another limit and another offset select the same documents, cut otherwise. -/
theorem page_repaged {limit : UInt64} (hlimit : 0 < limit) (docs : List Json) (skip : UInt64) :
    page docs (r.repaged limit start) skip =
      ⟨((matching docs r).drop skip.toNat).take limit.toNat,
        offsetToken (nextOffset skip
          (((matching docs r).drop skip.toNat).take limit.toNat).length)⟩ := by
  have hsome : (r.repaged limit start).options.limit = some limit :=
    if_neg (UInt64.ne_of_lt hlimit).symm
  exact page_limited hsome docs skip

/-- The token of a page with a limit is read as the offset behind its records, also when it has
    none. -/
theorem next_repaged (r : Request) (start : Option UInt64) {docs : List Json}
    (hdocs : docs.length < 2 ^ 64) {limit : UInt64} (hlimit : 0 < limit) (skip : UInt64) :
    ∃ behind, parseOffset (page docs (r.repaged limit start) skip).next = .ok (some behind)
      ∧ behind.toNat
        = skip.toNat + (page docs (r.repaged limit start) skip).records.length := by
  refine ⟨nextOffset skip (page docs (r.repaged limit start) skip).records.length, ?_, ?_⟩
  · rw [page_repaged hlimit]
    exact parseOffset_offsetToken _
  · by_cases hempty : (page docs (r.repaged limit start) skip).records = []
    · -- nothing is added to an offset that a word holds already
      have hword : skip.toNat ≤ 2 ^ 64 - 1 := Nat.le_sub_one_of_lt skip.toNat_lt
      rw [hempty, List.length_nil, Nat.add_zero, nextOffset, Nat.add_zero, Nat.min_eq_left hword,
        UInt64.ofNat_toNat]
    · exact toNat_nextOffset hdocs hempty

end Repaged

/-! ## Many pages -/

/-- Reads one page for each limit, each with a query that holds the token of the page before. -/
def readPages (filter : Option Filter) (sort : List Sorting) :
    List UInt64 → String → Act StoreError Collection (List Page)
  | [], _ => return []
  | limit :: rest, token => do
      let page ← readPage filter sort limit token
      let pages ← readPages filter sort rest page.next
      return page :: pages

/-- How many records the limits let through. -/
def allowance : List UInt64 → Nat
  | [] => 0
  | limit :: rest => limit.toNat + allowance rest

/-- Pages that are read one after the other hold the records behind the first offset, as many as
    their limits let through together. -/
theorem readPages_run {c : Collection} (hdocs : c.docs.length < 2 ^ 64) {q : Query} {r : Request}
    (h : (client.compile q c).result = .ok r) {limits : List UInt64}
    (hlimits : ∀ limit ∈ limits, 0 < limit) {token : String} {start : Option UInt64}
    (hstart : parseOffset token = .ok start) :
    ∃ pages events, readPages q.filter q.sort limits token c = ⟨.ok pages, c, events⟩
      ∧ pages.length = limits.length
      ∧ pages.flatMap Page.records
        = ((matching c.docs r).drop (start.getD 0).toNat).take (allowance limits) := by
  induction limits generalizing token start with
  | nil => exact ⟨[], [], rfl, rfl, List.take_zero.symm⟩
  | cons limit rest ih =>
    obtain ⟨hlimit, hrest⟩ := List.forall_mem_cons.mp hlimits
    obtain ⟨first, hread⟩ := readPage_run h hstart limit
    obtain ⟨behind, hnext, hbehind⟩ := next_repaged r start hdocs hlimit (start.getD 0)
    obtain ⟨pages, later, hpages, hlength, hrecords⟩ := ih hrest hnext
    refine ⟨page c.docs (r.repaged limit start) (start.getD 0) :: pages,
      first ++ (later ++ []), ?_, ?_, ?_⟩
    · rw [readPages, Act.bind_ok hread, Act.bind_ok hpages]
      rfl
    · rw [List.length_cons, hlength, List.length_cons]
    · -- the slices of the first limit and of the others meet at the offset behind the first page
      have hdrop : (matching c.docs r).drop behind.toNat
          = ((matching c.docs r).drop (start.getD 0).toNat).drop limit.toNat := by
        rw [hbehind, page_repaged hlimit, ← List.drop_drop, List.length_take]
        by_cases hshort : limit.toNat ≤ ((matching c.docs r).drop (start.getD 0).toNat).length
        · rw [Nat.min_eq_left hshort]
        · have hle := Nat.le_of_not_le hshort
          rw [Nat.min_eq_right hle, List.drop_length, List.drop_eq_nil_of_le hle]
      rw [Option.getD_some, hdrop] at hrecords
      rw [List.flatMap_cons, hrecords, page_repaged hlimit, allowance, List.take_add]

/-- A read can be cut behind any page and resumed by a new query, with limits of any size.  With a
    filter that compiles, every page is compiled and fetched, and together the pages hold the first
    of the matching documents in their order behind the offset, as many as the limits let through.
    An offset that a fetch is given beside the query, whatever offset the query holds, does the same
    as one that the query holds. -/
theorem pages_resume_exactly (c : Collection) (hdocs : c.docs.length < 2 ^ 64) (q : Query)
    (r : Request) (hcompile : (client.compile q c).result = .ok r) :
    matching c.docs r
      = sortBy (q.sort.map Request.sortKey) (c.docs.filter fun doc => satisfies doc r.filter)
    ∧ (∀ (limits : List UInt64) (token : String) (start : Option UInt64),
      (∀ limit ∈ limits, 0 < limit) → parseOffset token = .ok start →
      ∃ pages events, readPages q.filter q.sort limits token c = ⟨.ok pages, c, events⟩
        ∧ pages.length = limits.length
        ∧ pages.flatMap Page.records
          = ((matching c.docs r).drop (start.getD 0).toNat).take (allowance limits))
    ∧ ∀ (limit n : UInt64) (token other : String) (start : Option UInt64),
      parseOffset token = .ok (some n) → parseOffset other = .ok start →
      ∃ (holding beside : Request) (page : Page),
        (client.compile ⟨q.filter, q.sort, ⟨limit, token⟩⟩ c).result = .ok holding
        ∧ (client.compile ⟨q.filter, q.sort, ⟨limit, other⟩⟩ c).result = .ok beside
        ∧ (client.fetch holding "" c).result = .ok page
        ∧ (client.fetch beside token c).result = .ok page := by
  refine ⟨?_, ?_, ?_⟩
  · rw [matching, sort_of_compile (Act.mapError_result_ok.mp hcompile)]
  · intro limits token start hlimits hstart
    exact readPages_run hdocs hcompile hlimits hstart
  · intro limit n token other start htoken hother
    obtain ⟨_, hholding⟩ := client_compile_repaged hcompile htoken limit
    obtain ⟨_, hbeside⟩ := client_compile_repaged hcompile hother limit
    have hown : startOffset (r.repaged limit (some n)) "" = .ok n := rfl
    have hgiven : startOffset (r.repaged limit start) token = .ok n := by
      rw [startOffset, htoken]
    obtain ⟨_, hfetch⟩ := fetch_run hown c
    obtain ⟨_, hfetch'⟩ := fetch_run hgiven c
    -- both pages start at `n`, where the offset that a request holds has no part in them
    exact ⟨_, _, page c.docs (r.repaged limit (some n)) n, congrArg Outcome.result hholding,
      congrArg Outcome.result hbeside, congrArg Outcome.result hfetch,
      congrArg Outcome.result hfetch'⟩

/-- Four documents are read from the second on, with limits of two, one and five; and the page at
    the third is the same beside a query that holds another offset. -/
theorem pages_resume_exactly_from_second :
    ∃ (c : Collection) (q : Query) (r : Request) (pages : List Page) (holding beside : Request)
      (page : Page),
      c.docs.length = 4 ∧ q.sort = [⟨"n", .desc⟩] ∧ (client.compile q c).result = .ok r
      ∧ (readPages q.filter q.sort [2, 1, 5] "+1" c).result = .ok pages
      ∧ pages.length = 3 ∧ pages.flatMap Page.records = (matching c.docs r).drop 1
      ∧ (client.compile ⟨q.filter, q.sort, ⟨1, "2"⟩⟩ c).result = .ok holding
      ∧ (client.compile ⟨q.filter, q.sort, ⟨1, "+1"⟩⟩ c).result = .ok beside
      ∧ (client.fetch holding "" c).result = .ok page
      ∧ (client.fetch beside "2" c).result = .ok page := by
  let c : Collection :=
    ⟨"letters", [.str "c", .str "a", .str "d", .str "b"].map fun j => .obj [("n", j)]⟩
  let q : Query := { sort := [⟨"n", .desc⟩] }
  let r : Request := ⟨"", .obj [], ⟨[⟨"n", -1⟩], none, none⟩⟩
  have hone : parseOffset "+1" = .ok (some 1) := by
    have hword : wordOf? "+1".toList = some 1 := by decide
    rw [parseOffset, if_neg (by decide), hword]
  have htwo : parseOffset "2" = .ok (some 2) := by
    have hword : wordOf? "2".toList = some 2 := by decide
    rw [parseOffset, if_neg (by decide), hword]
  have hcompile : (client.compile q c).result = .ok r := by
    rw [client, Act.mapError_result_ok, compile_unfiltered rfl]
    rfl
  have hlength : (matching c.docs r).length = 4 := by
    rw [matching, sortBy, List.length_mergeSort]
    rfl
  have hlimits : ∀ limit ∈ ([2, 1, 5] : List UInt64), 0 < limit := by
    rw [List.forall_mem_cons, List.forall_mem_cons, List.forall_mem_singleton]
    decide
  obtain ⟨-, hread, hroutes⟩ := pages_resume_exactly c (by decide) q r hcompile
  obtain ⟨pages, events, hpages, hcount, hrecords⟩ := hread [2, 1, 5] "+1" _ hlimits hone
  obtain ⟨holding, beside, page, hholding, hbeside, hfetch, hfetch'⟩ :=
    hroutes 1 2 "2" "+1" _ htwo hone
  have hall : ((matching c.docs r).drop 1).length ≤ allowance [2, 1, 5] := by
    rw [List.length_drop, hlength]
    decide
  exact ⟨c, q, r, pages, holding, beside, page, rfl, rfl, hcompile, congrArg Outcome.result hpages,
    hcount, hrecords.trans (List.take_of_length_le hall), hholding, hbeside, hfetch, hfetch'⟩

end Collection

end StoreQuery.Find
