import Mathlib.Algebra.Order.Floor.Div
import StoreQuery.Find.Collection
import StoreQuery.Proofs.Find.Document
import StoreQuery.Proofs.Find.Offset
import StoreQuery.Proofs.Store.Pager

/-! # Paging over a collection — every record once, in order, in finitely many fetches

    A pager stands at an offset when its token, or before the first fetch
    the request itself, says so (`StandsAt`).  One fetch from there gives
    the next slice of the matching documents, and a pager behind a slice
    that is not empty stands at the offset behind it (`standsAt_advance`):
    the token is printed and read back, and the offset does not leave the
    range of a word, because it never passes the number of documents.

    By induction on the calls, a run from an offset gives all that follows
    it, and the log of the run holds one fetch for each slice and one for
    the empty page at the end. -/

namespace StoreQuery.Find.Collection

/-! ## Slices -/

/-- No more documents match than there are. -/
theorem length_matching_le (docs : List Json) (r : Request) :
    (matching docs r).length ≤ docs.length := by
  rw [matching, sortBy, List.length_mergeSort]
  exact List.length_filter_le _ _

/-- With a limit a page is a slice of the matching documents. -/
theorem page_limited {r : Request} {limit : UInt64} (h : r.options.limit = some limit)
    (docs : List Json) (skip : UInt64) :
    page docs r skip =
      ⟨((matching docs r).drop skip.toNat).take limit.toNat,
        offsetToken (nextOffset skip
          (((matching docs r).drop skip.toNat).take limit.toNat).length)⟩ := by
  rw [page, h]

/-- Without a limit a page is all that remains, and has no token. -/
theorem page_unlimited {r : Request} (h : r.options.limit = none) (docs : List Json)
    (skip : UInt64) : page docs r skip = ⟨(matching docs r).drop skip.toNat, ""⟩ := by
  rw [page, h]

/-- A page begins what follows its offset. -/
theorem page_begins (docs : List Json) (r : Request) (skip : UInt64) :
    (page docs r skip).records <+: (matching docs r).drop skip.toNat := by
  cases h : r.options.limit with
  | none =>
    rw [page_unlimited h]
  | some limit =>
    rw [page_limited h]
    exact List.take_prefix _ _

/-- What follows an offset is the page there and what follows the offset behind it. -/
theorem page_append_drop (docs : List Json) (r : Request) (skip : UInt64) :
    (page docs r skip).records
      ++ (matching docs r).drop (skip.toNat + (page docs r skip).records.length)
      = (matching docs r).drop skip.toNat := by
  obtain ⟨rest, hrest⟩ := page_begins docs r skip
  rw [← List.drop_drop, ← hrest, List.drop_left]

/-- The offset behind a page that is not empty is not cut to the range of a word. -/
theorem toNat_nextOffset {docs : List Json} (hdocs : docs.length < 2 ^ 64) {r : Request}
    {skip : UInt64} (h : (page docs r skip).records ≠ []) :
    (nextOffset skip (page docs r skip).records.length).toNat
      = skip.toNat + (page docs r skip).records.length := by
  have hpos : 0 < (page docs r skip).records.length := List.length_pos_iff.mpr h
  have hpage := (page_begins docs r skip).length_le
  rw [List.length_drop] at hpage
  have hmatching := length_matching_le docs r
  rw [nextOffset, Nat.min_eq_left (by omega), UInt64.toNat_ofNat_of_lt' (by show _ < 2 ^ 64; omega)]

/-! ## Fetches -/

/-- The pager is about to fetch the page of a request that starts at an offset. -/
structure StandsAt (r : Request) (skip : UInt64) (p : Pager Request) : Prop where
  query : p.query = r
  running : p.done = false
  offset : startOffset r p.token = .ok skip

/-- A fresh pager stands where its request says, or at the start. -/
theorem standsAt_fresh (r : Request) : StandsAt r (r.options.skip.getD 0) { query := r } :=
  ⟨rfl, rfl, rfl⟩

/-- A fetch from an offset gives the page there and leaves the collection. -/
theorem fetch_run {r : Request} {token : String} {skip : UInt64}
    (h : startOffset r token = .ok skip) (c : Collection) :
    ∃ events, fetch r token c = ⟨.ok (page c.docs r skip), c, events⟩ := by
  refine ⟨(fetch r token c).events, ?_⟩
  rw [fetch, h, Act.bind_ok_silent (Act.ofExcept_run _ c), Act.bind_ok_silent (Act.get_run c),
    Act.bind_ok (Act.emit_run _ _ c)]
  rfl

/-- A call from an offset gives the page there, logs one fetch and leaves the collection. -/
theorem next_run {r : Request} {skip : UInt64} {p : Pager Request} (h : StandsAt r skip p)
    (c : Collection) (log : List Fetch) :
    ∃ events, Pager.next client.recorded ((c, log), p) =
      ⟨.ok (if (page c.docs r skip).records.isEmpty then none
          else some (page c.docs r skip).records),
        ((c, log ++ [⟨p.token, .ok (page c.docs r skip)⟩]), p.advance (page c.docs r skip)),
        events⟩ := by
  obtain ⟨rfl, hrunning, hoffset⟩ := h
  obtain ⟨events, hfetch⟩ := fetch_run hoffset c
  have hclient : client.fetch p.query p.token c = ⟨.ok (page c.docs p.query skip), c, events⟩ :=
    hfetch
  exact ⟨_, Pager.next_fetched hrunning (Client.fetch_recorded hclient log)⟩

/-- Behind a page with records the pager stands at the offset behind them. -/
theorem standsAt_advance {r : Request} {limit skip : UInt64} {p : Pager Request}
    (hlimit : r.options.limit = some limit) (h : StandsAt r skip p) {docs : List Json}
    (hne : (page docs r skip).records ≠ []) :
    StandsAt r (nextOffset skip (page docs r skip).records.length)
      (p.advance (page docs r skip)) := by
  have hparse := parseOffset_next docs r skip
  rw [hlimit, Option.map_some] at hparse
  refine ⟨h.query, ?_, ?_⟩
  · show ((page docs r skip).records.isEmpty || (page docs r skip).next == "") = false
    -- an empty token would be read as no offset at all
    have hnext : (page docs r skip).next ≠ "" := by
      intro hempty
      rw [hempty] at hparse
      exact nomatch hparse
    simp [hne, hnext]
  · show startOffset r (page docs r skip).next = _
    rw [startOffset, hparse]

/-! ## Runs -/

/-- The fetches that read `n` records with a limit: one for each page, and one that finds the
    end. -/
structure Paged (limit n : Nat) (calls : List Fetch) : Prop where
  count : calls.length = n ⌈/⌉ limit + 1
  pages : (calls.filter Fetch.gaveRecords).length = n ⌈/⌉ limit
  bounded : ∀ call ∈ calls, call.records.length ≤ limit

/-- Taking a page off the front leaves one page less. -/
theorem ceilDiv_eq_succ {n limit : Nat} (hn : 0 < n) (hlimit : 0 < limit) :
    n ⌈/⌉ limit = (n - limit) ⌈/⌉ limit + 1 := by
  rw [Nat.ceilDiv_eq_add_pred_div, Nat.ceilDiv_eq_add_pred_div]
  by_cases h : limit ≤ n
  · rw [← Nat.add_div_right _ hlimit]
    congr 1
    omega
  · have hone : (n + limit - 1) / limit = 1 := Nat.div_eq_of_lt_le (by omega) (by omega)
    have hzero : (n - limit + limit - 1) / limit = 0 := Nat.div_eq_of_lt (by omega)
    rw [hone, hzero]

/-- Where no records remain, one fetch finds the end. -/
theorem paged_end {limit : Nat} {call : Fetch} (h : call.records = []) : Paged limit 0 [call] := by
  refine ⟨?_, ?_, ?_⟩
  · rw [zero_ceilDiv]
    rfl
  · rw [zero_ceilDiv, List.filter_cons_of_neg (by simp [Fetch.gaveRecords, h])]
    rfl
  · intro call' hcall
    rw [List.mem_singleton.mp hcall, h]
    exact Nat.zero_le limit

/-- A fetch that gives a page goes in front of those that read what is behind it. -/
theorem paged_cons {limit n : Nat} {call : Fetch} {rest : List Fetch} (hn : 0 < n)
    (hlimit : 0 < limit) (hne : call.records ≠ []) (hle : call.records.length ≤ limit)
    (h : Paged limit (n - limit) rest) : Paged limit n (call :: rest) := by
  refine ⟨?_, ?_, ?_⟩
  · rw [List.length_cons, h.count, ceilDiv_eq_succ hn hlimit]
  · rw [List.filter_cons_of_pos (by simp [Fetch.gaveRecords, hne]), List.length_cons, h.pages,
      ceilDiv_eq_succ hn hlimit]
  · exact List.forall_mem_cons.mpr ⟨hle, h.bounded⟩

/-- A run with a limit gives all that follows the offset, in the fetches that this takes. -/
theorem collect_limited {c : Collection} (hdocs : c.docs.length < 2 ^ 64) {r : Request}
    {limit : UInt64} (hlimit : r.options.limit = some limit) (hpos : 0 < limit.toNat)
    {skip : UInt64} {p : Pager Request} (h : StandsAt r skip p) (log : List Fetch) (calls : Nat)
    (hcalls : ((matching c.docs r).length - skip.toNat) ⌈/⌉ limit.toNat < calls) :
    ∃ made, Paged limit.toNat ((matching c.docs r).length - skip.toNat) made
      ∧ (Pager.collect client.recorded calls ((c, log), p)).result
        = .ok (some ((matching c.docs r).drop skip.toNat))
      ∧ (Pager.collect client.recorded calls ((c, log), p)).state.1 = (c, log ++ made) := by
  -- the calls outnumber the pages that remain, and each call that gives records uses up one of both
  induction calls generalizing skip p log with
  | zero => exact absurd hcalls (Nat.not_lt_zero _)
  | succ calls ih =>
    obtain ⟨events, hnext⟩ := next_run h c log
    have hlength : (page c.docs r skip).records.length
        = min limit.toNat ((matching c.docs r).length - skip.toNat) := by
      rw [page_limited hlimit, List.length_take, List.length_drop]
    by_cases hempty : (page c.docs r skip).records = []
    · -- nothing follows the offset, and the one fetch has found that out
      have hnone : (matching c.docs r).length - skip.toNat = 0 := by
        rw [hempty, List.length_nil] at hlength
        omega
      rw [if_pos (List.isEmpty_iff.mpr hempty)] at hnext
      rw [Pager.collect_ended calls hnext, hnone, List.drop_eq_nil_of_le (by omega)]
      exact ⟨[⟨p.token, .ok (page c.docs r skip)⟩], paged_end hempty, rfl, rfl⟩
    · -- the page is the first slice, and the rest of the run starts behind it
      have hlen := List.length_pos_iff.mpr hempty
      have hsome : 0 < (matching c.docs r).length - skip.toNat := by omega
      have hskip := toNat_nextOffset hdocs hempty
      have hbehind : (matching c.docs r).length
          - (nextOffset skip (page c.docs r skip).records.length).toNat
          = (matching c.docs r).length - skip.toNat - limit.toNat := by omega
      rw [ceilDiv_eq_succ hsome hpos, ← hbehind] at hcalls
      obtain ⟨made, hmade, hresult, hstate⟩ :=
        ih (standsAt_advance hlimit h hempty) (log ++ [⟨p.token, .ok (page c.docs r skip)⟩])
          (Nat.lt_of_succ_lt_succ hcalls)
      rw [hbehind] at hmade
      rw [if_neg (by simpa using hempty)] at hnext
      refine ⟨⟨p.token, .ok (page c.docs r skip)⟩ :: made, ?_, ?_, ?_⟩
      · exact paged_cons hsome hpos hempty (hlength.trans_le (Nat.min_le_left _ _)) hmade
      · rw [Pager.collect_continued calls hnext, hresult, hskip, ← page_append_drop c.docs r skip]
        rfl
      · rw [Pager.collect_continued calls hnext, hstate, List.append_assoc]
        rfl

/-- A run without a limit gives all that follows the offset in one fetch. -/
theorem collect_unlimited {c : Collection} {r : Request} (hlimit : r.options.limit = none)
    {skip : UInt64} {p : Pager Request} (h : StandsAt r skip p) (log : List Fetch) (calls : Nat)
    (hcalls : 2 ≤ calls) :
    ∃ call, (Pager.collect client.recorded calls ((c, log), p)).result
        = .ok (some ((matching c.docs r).drop skip.toNat))
      ∧ (Pager.collect client.recorded calls ((c, log), p)).state.1 = (c, log ++ [call]) := by
  obtain ⟨calls, rfl⟩ := Nat.exists_eq_add_of_le' hcalls
  obtain ⟨events, hnext⟩ := next_run h c log
  refine ⟨⟨p.token, .ok (page c.docs r skip)⟩, ?_⟩
  rw [page_unlimited hlimit] at hnext ⊢
  by_cases hempty : (matching c.docs r).drop skip.toNat = []
  · rw [if_pos (List.isEmpty_iff.mpr hempty)] at hnext
    rw [Pager.collect_ended (calls + 1) hnext]
    exact ⟨by rw [hempty], rfl⟩
  · -- the page has no token, so the second call ends the run without a fetch
    rw [if_neg (by simpa using hempty)] at hnext
    have hdone : (p.advance ⟨(matching c.docs r).drop skip.toNat, ""⟩).done = true :=
      Bool.or_true _
    rw [Pager.collect_continued (calls + 1) hnext,
      Pager.collect_ended calls (Pager.next_done hdone)]
    exact ⟨congrArg (fun records => Except.ok (some records)) (List.append_nil _), rfl⟩

/-! ## Whole reads -/

/-- A compiled query keeps the limit, and the offset of its token. -/
theorem compile_options {q : Query} {c : Collection} {r : Request}
    (h : (client.compile q c).result = .ok r) :
    parseOffset q.page.token = .ok r.options.skip
      ∧ r.options.limit = if q.page.limit = 0 then none else some q.page.limit := by
  have hoptions : Request.optionsOf q = .ok r.options :=
    compile_ok_options (Act.mapError_result_ok.mp h)
  obtain ⟨skip, hskip, hok⟩ := bind_eq_ok_iff.mp hoptions
  rw [← Except.ok.inj hok]
  exact ⟨hskip, rfl⟩

/-- Reading all pages of a compiled query gives the matching documents behind the offset of its
    token, in their order, and leaves the collection.  With a limit it fetches one page after the
    other and then finds the end; without one it fetches once.  No page with records has a token
    that is cut to the range of a word. -/
theorem collect_reads_all_once (c : Collection) (hdocs : c.docs.length < 2 ^ 64) (q : Query)
    (r : Request) (hcompile : (client.compile q c).result = .ok r) :
    ∃ start, parseOffset q.page.token = .ok start
      ∧ (∀ calls, ((matching c.docs r).length - (start.getD 0).toNat) ⌈/⌉ q.page.limit.toNat + 1
            < calls →
          (Pager.collect client calls (c, { query := r })).result
            = .ok (some ((matching c.docs r).drop (start.getD 0).toNat))
          ∧ ∃ made,
            (Pager.collect client.recorded calls ((c, []), { query := r })).state.1 = (c, made)
            ∧ (q.page.limit = 0 → made.length = 1)
            ∧ (q.page.limit ≠ 0 → Paged q.page.limit.toNat
                ((matching c.docs r).length - (start.getD 0).toNat) made))
      ∧ ∀ skip, (page c.docs r skip).records ≠ [] →
          (nextOffset skip (page c.docs r skip).records.length).toNat
            = skip.toNat + (page c.docs r skip).records.length := by
  obtain ⟨hstart, hlimit⟩ := compile_options hcompile
  refine ⟨r.options.skip, hstart, ?_, fun skip => toNat_nextOffset hdocs⟩
  intro calls hcalls
  -- results are read off the run with a log, which nobody notices
  have hunrecorded := Pager.collect_recorded client calls c [] { query := r }
  rw [← hunrecorded]
  by_cases hzero : q.page.limit = 0
  · rw [if_pos hzero] at hlimit
    obtain ⟨call, hresult, hstate⟩ :=
      collect_unlimited hlimit (standsAt_fresh r) [] calls (by omega)
    exact ⟨hresult, [call], hstate, fun _ => rfl, fun hne => absurd hzero hne⟩
  · rw [if_neg hzero] at hlimit
    have hpos : 0 < q.page.limit.toNat :=
      Nat.pos_of_ne_zero fun h => hzero (UInt64.toNat_inj.mp h)
    obtain ⟨made, hmade, hresult, hstate⟩ :=
      collect_limited hdocs hlimit hpos (standsAt_fresh r) [] calls (by omega)
    exact ⟨hresult, made, hstate, fun h => absurd h hzero, fun _ => hmade⟩

/-- Three documents read one by one from the second in their order on take three fetches. -/
theorem collect_reads_all_once_from_second :
    ∃ (c : Collection) (q : Query) (r : Request),
      c.docs.length = 3 ∧ q.page = ⟨1, "+01"⟩ ∧ (client.compile q c).result = .ok r
      ∧ (Pager.collect client 4 (c, { query := r })).result
        = .ok (some ((matching c.docs r).drop 1))
      ∧ ∃ made, (Pager.collect client.recorded 4 ((c, []), { query := r })).state.1 = (c, made)
        ∧ Paged 1 2 made := by
  let c : Collection := ⟨"numbers", [.str "c", .str "a", .str "b"].map fun j => .obj [("n", j)]⟩
  let q : Query := { sort := [⟨"n", .desc⟩], page := ⟨1, "+01"⟩ }
  let r : Request := ⟨"", .obj [], ⟨[⟨"n", -1⟩], some 1, some 1⟩⟩
  have hone : parseOffset q.page.token = .ok (some 1) := by
    have hword : wordOf? "+01".toList = some 1 := by decide
    show parseOffset "+01" = _
    rw [parseOffset, if_neg (by decide), hword]
  have hcompile : (client.compile q c).result = .ok r := by
    rw [client, Act.mapError_result_ok, compile_unfiltered rfl, Request.optionsOf, hone]
    rfl
  have hlength : (matching c.docs r).length = 3 := by
    rw [matching, sortBy, List.length_mergeSort]
    rfl
  obtain ⟨start, hstart, hread, -⟩ := collect_reads_all_once c (by decide) q r hcompile
  rw [hone] at hstart
  rw [hlength, ← Except.ok.inj hstart] at hread
  obtain ⟨hresult, made, hstate, -, hpaged⟩ := hread 4 (by decide)
  exact ⟨c, q, r, rfl, rfl, hcompile, hresult, made, hstate, hpaged (by decide)⟩

end StoreQuery.Find.Collection
