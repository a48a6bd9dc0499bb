import StoreQuery.Proofs.Find.Paging

/-! # Growth — paging while records are inserted

    The tokens of a collection are offsets into a result that is computed
    anew for every page, so an insertion between two pages changes what
    they point into.  Without sort keys it changes it only at the end: the
    matching documents stand in the order of their insertion, and what is
    behind an offset stays behind it.

    A `Session` interleaves reads and insertions in any order.  Its
    invariant, `Exact`, says that the records given so far begin what the
    request asks for, and that a pager that has not ended stands right
    behind them.  Each step keeps it: an insertion makes the result longer
    (`exact_insert`), and a read takes its next slice (`exact_read`). -/

namespace StoreQuery.Find.Collection

/-! ## Sessions -/

/-- What may happen to a collection that is being read. -/
inductive Step where
  /-- The reader asks for a page. -/
  | read
  /-- Somebody inserts a batch of records. -/
  | insert (records : List Json)

/-- A collection that is read while records are inserted, with the pages that the reader was
    given and the batches that the collection took in. -/
structure Session where
  store : Collection
  pager : Pager Request
  pages : List (List Json) := []
  taken : List (List Json) := []

namespace Session

/-- The session of a reader that has not read anything. -/
def start (c : Collection) (r : Request) : Session :=
  { store := c, pager := { query := r } }

/-- One step; a step that fails goes without a page or a batch. -/
def step (t : Session) : Step → Session
  | .read =>
      let out := Pager.next client (t.store, t.pager)
      { t with
        store := out.state.1
        pager := out.state.2
        pages :=
          match out.result with
          | .ok (some records) => t.pages ++ [records]
          | _ => t.pages }
  | .insert records =>
      let out := Pager.onStore (client.insert records) (t.store, t.pager)
      { t with
        store := out.state.1
        pager := out.state.2
        taken :=
          match out.result with
          | .ok () => t.taken ++ [records]
          | .error _ => t.taken }

/-- The steps one after the other. -/
def run (t : Session) (steps : List Step) : Session :=
  steps.foldl step t

/-- The records that the reader was given. -/
def given (t : Session) : List Json :=
  t.pages.flatten

end Session

/-- The batch that a step inserts, if it holds objects only. -/
def Step.batch? : Step → Option (List Json)
  | .read => none
  | .insert records => if records.all Json.isObject then some records else none

/-- The batches of objects that are inserted, in order. -/
def batches (steps : List Step) : List (List Json) :=
  steps.filterMap Step.batch?

/-- What a request without sort keys asks for: the documents that satisfy its filter, in the order
    of their insertion, without those that it skips. -/
def asked (r : Request) (docs : List Json) : List Json :=
  (docs.filter fun doc => satisfies doc r.filter).drop (r.options.skip.getD 0).toNat

/-! ## What one step does -/

/-- A batch holds objects only when nothing in it is found to be none. -/
theorem find?_eq_none_iff {records : List Json} :
    (records.find? fun r => !r.isObject) = none ↔ records.all Json.isObject = true := by
  rw [List.find?_eq_none, List.all_eq_true]
  simp only [Bool.not_eq_true', Bool.not_eq_false]

/-- A batch of objects is put behind the documents. -/
theorem insert_objects {records : List Json} (h : records.all Json.isObject = true)
    (c : Collection) :
    ∃ events, insert records c = ⟨.ok (), { c with docs := c.docs ++ records }, events⟩ := by
  refine ⟨(insert records c).events, ?_⟩
  rw [insert, Act.bind_ok_silent (Act.get_run c), find?_eq_none_iff.mpr h]
  rfl

/-- A batch that holds anything else is refused and leaves the collection. -/
theorem insert_refused {records : List Json} (h : ¬records.all Json.isObject = true)
    (c : Collection) :
    ∃ bad events, insert records c = ⟨.error (.invalidRecord bad), c, events⟩ := by
  obtain ⟨bad, hfind⟩ := Option.ne_none_iff_exists'.mp (mt find?_eq_none_iff.mp h)
  refine ⟨bad, (insert records c).events, ?_⟩
  rw [insert, Act.bind_ok_silent (Act.get_run c), hfind]
  rfl

/-- An insertion takes in a batch of objects, and does nothing with any other batch. -/
theorem step_insert (t : Session) (records : List Json) :
    t.step (.insert records) =
      if records.all Json.isObject then
        { t with
          store := { t.store with docs := t.store.docs ++ records }
          taken := t.taken ++ [records] }
      else t := by
  have hclient : client.insert records t.store = insert records t.store := rfl
  by_cases hobjects : records.all Json.isObject = true
  · obtain ⟨events, hinsert⟩ := insert_objects hobjects t.store
    rw [if_pos hobjects, Session.step, Pager.onStore, Act.focus, hclient, hinsert]
  · obtain ⟨bad, events, hinsert⟩ := insert_refused hobjects t.store
    rw [if_neg hobjects, Session.step, Pager.onStore, Act.focus, hclient, hinsert]

/-- Once the pager has ended, a read does nothing. -/
theorem step_read_ended {t : Session} (h : t.pager.done = true) : t.step .read = t := by
  rw [Session.step, Pager.next_done h]

/-- Fetching leaves the collection as it was, also when the token is refused. -/
theorem fetch_state (r : Request) (token : String) (c : Collection) :
    (fetch r token c).state = c := by
  cases hoffset : startOffset r token with
  | error e => rw [fetch, hoffset, Act.bind_error (Act.ofExcept_run _ c)]
  | ok skip =>
    obtain ⟨events, hfetch⟩ := fetch_run hoffset c
    rw [hfetch]

/-- Reading leaves the collection as it was. -/
theorem step_read_store (t : Session) : (t.step .read).store = t.store := by
  cases hdone : t.pager.done with
  | true => rw [step_read_ended hdone]
  | false =>
    have hstate := fetch_state t.pager.query t.pager.token t.store
    cases hfetch : fetch t.pager.query t.pager.token t.store with
    | mk result c events =>
      rw [hfetch] at hstate
      cases result with
      | error e =>
        rw [Session.step, Pager.next_failed hdone hfetch]
        exact hstate
      | ok page =>
        rw [Session.step, Pager.next_fetched hdone hfetch]
        exact hstate

/-- A running pager is given the page where it stands, `none` if that is empty. -/
theorem next_standing {r : Request} {skip : UInt64} {p : Pager Request} (h : StandsAt r skip p)
    (c : Collection) :
    ∃ events, Pager.next client (c, p) =
      ⟨.ok (if (page c.docs r skip).records.isEmpty then none
          else some (page c.docs r skip).records),
        (c, p.advance (page c.docs r skip)), events⟩ := by
  obtain ⟨rfl, hrunning, hoffset⟩ := h
  obtain ⟨events, hfetch⟩ := fetch_run hoffset c
  exact ⟨_, Pager.next_fetched hrunning hfetch⟩

/-- A read that finds an empty page ends the pager. -/
theorem step_read_empty {t : Session} {r : Request} {skip : UInt64} (h : StandsAt r skip t.pager)
    (hempty : (page t.store.docs r skip).records = []) :
    t.step .read = { t with pager := t.pager.advance (page t.store.docs r skip) }
      ∧ (t.step .read).pager.done = true := by
  obtain ⟨events, hnext⟩ := next_standing h t.store
  rw [hempty, List.isEmpty_nil, if_pos rfl] at hnext
  rw [Session.step, hnext]
  refine ⟨rfl, ?_⟩
  show (page t.store.docs r skip).isLast = true
  rw [Page.isLast, hempty]
  rfl

/-- A read that finds a page puts it behind the others. -/
theorem step_read_page {t : Session} {r : Request} {skip : UInt64} (h : StandsAt r skip t.pager)
    (hne : (page t.store.docs r skip).records ≠ []) :
    t.step .read =
      { t with
        pager := t.pager.advance (page t.store.docs r skip)
        pages := t.pages ++ [(page t.store.docs r skip).records] } := by
  obtain ⟨events, hnext⟩ := next_standing h t.store
  rw [if_neg (by simpa using hne)] at hnext
  rw [Session.step, hnext]

/-! ## The invariant -/

/-- Without sort keys nothing moves. -/
theorem sortBy_nil (docs : List Json) : sortBy [] docs = docs :=
  List.mergeSort_of_pairwise (List.pairwise_of_forall fun _ _ => rfl)

/-- Without sort keys the matching documents stand in the order of their insertion. -/
theorem matching_unsorted {r : Request} (h : r.options.sort = []) (docs : List Json) :
    matching docs r = docs.filter fun doc => satisfies doc r.filter := by
  rw [matching, h, sortBy_nil]

/-- Insertion makes what a request asks for longer, at its end. -/
theorem asked_append (r : Request) (docs records : List Json) :
    asked r docs <+: asked r (docs ++ records) := by
  rw [asked, asked, List.filter_append, List.drop_append]
  exact List.prefix_append _ _

/-- The records that were given begin what is asked for, and a pager that has not ended stands
    right behind them. -/
structure Exact (r : Request) (t : Session) : Prop where
  begins : t.given <+: asked r t.store.docs
  stands : t.pager.done = false →
    ∃ skip, StandsAt r skip t.pager ∧ skip.toNat = (r.options.skip.getD 0).toNat + t.given.length

theorem exact_start (c : Collection) (r : Request) : Exact r (Session.start c r) where
  begins := List.nil_prefix
  stands _ := ⟨_, standsAt_fresh r, rfl⟩

/-- An insertion keeps the invariant. -/
theorem exact_insert {r : Request} {t : Session} (h : Exact r t) (records : List Json) :
    Exact r (t.step (.insert records)) := by
  rw [step_insert]
  split
  · exact ⟨h.begins.trans (asked_append r t.store.docs records), h.stands⟩
  · exact h

section Read

variable {r : Request} {limit skip : UInt64} {t : Session}

/-- Right behind the records that were given follows what is still asked for. -/
theorem drop_matching (hsort : r.options.sort = [])
    (hskip : skip.toNat = (r.options.skip.getD 0).toNat + t.given.length) :
    (matching t.store.docs r).drop skip.toNat = (asked r t.store.docs).drop t.given.length := by
  rw [matching_unsorted hsort, hskip, ← List.drop_drop, asked]

/-- An empty page is found only where nothing is left to ask for. -/
theorem given_eq_of_empty (hsort : r.options.sort = []) (hlimit : r.options.limit = some limit)
    (hpos : 0 < limit) (h : Exact r t)
    (hskip : skip.toNat = (r.options.skip.getD 0).toNat + t.given.length)
    (hempty : (page t.store.docs r skip).records = []) : t.given = asked r t.store.docs := by
  rw [page_limited hlimit, drop_matching hsort hskip] at hempty
  have hlimit : limit.toNat ≠ 0 := Nat.ne_of_gt (UInt64.lt_iff_toNat_lt.mp hpos)
  have hnil := (List.take_eq_nil_iff.mp hempty).resolve_left hlimit
  exact h.begins.eq_of_length_le (List.drop_eq_nil_iff.mp hnil)

/-- A read keeps the invariant. -/
theorem exact_read (hsort : r.options.sort = []) (hlimit : r.options.limit = some limit)
    (hsize : t.store.docs.length < 2 ^ 64) (h : Exact r t) : Exact r (t.step .read) := by
  cases hdone : t.pager.done with
  | true =>
    rw [step_read_ended hdone]
    exact h
  | false =>
    obtain ⟨skip, hstands, hskip⟩ := h.stands hdone
    by_cases hempty : (page t.store.docs r skip).records = []
    · -- nothing is given, and the pager ends
      obtain ⟨hstep, hended⟩ := step_read_empty hstands hempty
      refine ⟨?_, fun hrunning => ?_⟩
      · rw [hstep]
        exact h.begins
      · rw [hended] at hrunning
        exact nomatch hrunning
    · -- the page begins right behind what was given, and the next offset right behind the page
      have hmore : t.given ++ (page t.store.docs r skip).records <+: asked r t.store.docs := by
        obtain ⟨rest, hrest⟩ := h.begins
        have hbegins := page_begins t.store.docs r skip
        rw [drop_matching hsort hskip, ← hrest, List.drop_left] at hbegins
        rw [← hrest]
        exact (List.prefix_append_right_inj _).mpr hbegins
      rw [step_read_page hstands hempty]
      have hgiven : (t.pages ++ [(page t.store.docs r skip).records]).flatten
          = t.given ++ (page t.store.docs r skip).records := List.flatten_concat
      refine ⟨?_, fun _ => ⟨_, standsAt_advance hlimit hstands hempty, ?_⟩⟩
      · rw [Session.given, hgiven]
        exact hmore
      · rw [toNat_nextOffset hsize hempty, Session.given, hgiven, List.length_append, hskip,
          Nat.add_assoc]

/-- A running pager is given `none` exactly by the read that ends it, and then all that is asked
    for has been given. -/
theorem read_ends_iff (hsort : r.options.sort = []) (hlimit : r.options.limit = some limit)
    (hpos : 0 < limit) (h : Exact r t) (hrunning : t.pager.done = false) :
    ((Pager.next client (t.store, t.pager)).result = .ok none
        ↔ (t.step .read).pager.done = true)
      ∧ ((t.step .read).pager.done = true →
        (t.step .read).given = asked r (t.step .read).store.docs) := by
  obtain ⟨skip, hstands, hskip⟩ := h.stands hrunning
  obtain ⟨events, hnext⟩ := next_standing hstands t.store
  by_cases hempty : (page t.store.docs r skip).records = []
  · obtain ⟨hstep, hended⟩ := step_read_empty hstands hempty
    rw [if_pos (List.isEmpty_iff.mpr hempty)] at hnext
    have hall := given_eq_of_empty hsort hlimit hpos h hskip hempty
    refine ⟨iff_of_true (by rw [hnext]) hended, fun _ => ?_⟩
    rw [hstep]
    exact hall
  · have hgoes : (t.step .read).pager.done = false := by
      rw [step_read_page hstands hempty]
      exact (standsAt_advance hlimit hstands hempty).running
    rw [if_neg (by simpa using hempty)] at hnext
    rw [hnext, hgoes]
    exact ⟨iff_of_false (fun hnone => nomatch hnone) Bool.false_ne_true,
      fun hended => nomatch hended⟩

/-- No read of a session fails. -/
theorem read_succeeds (h : Exact r t) :
    ∃ answer, (Pager.next client (t.store, t.pager)).result = .ok answer := by
  cases hdone : t.pager.done with
  | true => exact ⟨none, by rw [Pager.next_done hdone]⟩
  | false =>
    obtain ⟨skip, hstands, -⟩ := h.stands hdone
    obtain ⟨events, hnext⟩ := next_standing hstands t.store
    exact ⟨_, by rw [hnext]⟩

end Read

/-! ## Whole sessions -/

theorem run_concat (t : Session) (steps : List Step) (e : Step) :
    t.run (steps ++ [e]) = (t.run steps).step e :=
  List.foldl_concat _ _ _ _

theorem batches_concat (steps : List Step) (e : Step) :
    batches (steps ++ [e]) = batches steps ++ e.batch?.toList := by
  rw [batches, List.filterMap_append, List.filterMap_cons, List.filterMap_nil, batches]
  cases e.batch? <;> rfl

/-- The collection takes in the batches of objects, in their order, and keeps what it has. -/
theorem run_docs (c : Collection) (r : Request) (steps : List Step) :
    ((Session.start c r).run steps).taken = batches steps
      ∧ ((Session.start c r).run steps).store.docs = c.docs ++ (batches steps).flatten := by
  induction steps using List.reverseRecOn with
  | nil => exact ⟨rfl, (List.append_nil c.docs).symm⟩
  | append_singleton steps e ih =>
    -- a read leaves the collection, and so does a batch that holds something else than objects
    obtain ⟨htaken, hdocs⟩ := ih
    rw [run_concat, batches_concat]
    cases e with
    | read =>
      rw [step_read_store, Step.batch?, Option.toList_none, List.append_nil]
      exact ⟨htaken, hdocs⟩
    | insert records =>
      rw [step_insert, Step.batch?]
      by_cases hobjects : records.all Json.isObject = true
      · rw [if_pos hobjects, if_pos hobjects, Option.toList_some, List.flatten_concat,
          ← List.append_assoc, ← hdocs, ← htaken]
        exact ⟨rfl, rfl⟩
      · rw [if_neg hobjects, if_neg hobjects, Option.toList_none, List.append_nil]
        exact ⟨htaken, hdocs⟩

/-- A session keeps the invariant throughout. -/
theorem run_exact {r : Request} {limit : UInt64} (hsort : r.options.sort = [])
    (hlimit : r.options.limit = some limit) (c : Collection) (steps : List Step)
    (hsize : (c.docs ++ (batches steps).flatten).length < 2 ^ 64) :
    Exact r ((Session.start c r).run steps) := by
  induction steps using List.reverseRecOn with
  | nil => exact exact_start c r
  | append_singleton steps e ih =>
    -- the collection never shrinks, so it was small enough before the last step
    have hbefore : (c.docs ++ (batches steps).flatten).length < 2 ^ 64 := by
      rw [batches_concat, List.flatten_append, ← List.append_assoc, List.length_append] at hsize
      omega
    have hexact := ih hbefore
    rw [run_concat]
    cases e with
    | read =>
      rw [← (run_docs c r steps).2] at hbefore
      exact exact_read hsort hlimit hbefore hexact
    | insert records => exact exact_insert hexact records

/-- Reads of an unsorted result stay exact while batches of records are inserted, in any order of
    reads and insertions.  The collection holds what it had and then the batches of objects; the
    pages given so far begin the matching documents behind the offset of the request; and the read
    that ends the pager finds that they are all of them. -/
theorem pages_exact_while_growing (c : Collection) (r : Request) (limit : UInt64)
    (hsort : r.options.sort = []) (hlimit : r.options.limit = some limit) (hpos : 0 < limit)
    (steps : List Step) (hsize : (c.docs ++ (batches steps).flatten).length < 2 ^ 64) :
    let t := (Session.start c r).run steps
    t.taken = batches steps
      ∧ t.store.docs = c.docs ++ t.taken.flatten
      ∧ t.pages.flatten <+: asked r t.store.docs
      ∧ (∃ answer, (Pager.next client (t.store, t.pager)).result = .ok answer)
      ∧ (t.pager.done = false →
        ((Pager.next client (t.store, t.pager)).result = .ok none
          ↔ (t.step .read).pager.done = true)
        ∧ ((t.step .read).pager.done = true →
          (t.step .read).pages.flatten = asked r (t.step .read).store.docs)) := by
  intro t
  obtain ⟨htaken, hdocs⟩ := run_docs c r steps
  have hexact := run_exact hsort hlimit c steps hsize
  refine ⟨htaken, ?_, hexact.begins, read_succeeds hexact, ?_⟩
  · rw [hdocs, htaken]
  · exact read_ends_iff hsort hlimit hpos hexact

/-- A batch is inserted, a page of two is read and a batch is refused; the next read then ends the
    pager, with both documents given. -/
theorem pages_exact_while_growing_interleaved :
    ∃ (c : Collection) (r : Request) (t : Session),
      t = (Session.start c r).run [.insert [.obj []], .read, .insert [.obj [], .null]]
      ∧ t.taken = [[.obj []]] ∧ t.store.docs = [.obj [], .obj []]
      ∧ t.pages.flatten <+: asked r t.store.docs
      ∧ (t.step .read).pager.done = true
      ∧ (t.step .read).pages.flatten = [.obj [], .obj []] := by
  let c : Collection := ⟨"log", [.obj []]⟩
  let r : Request := { options := { limit := some 2 } }
  let steps : List Step := [.insert [.obj []], .read, .insert [.obj [], .null]]
  obtain ⟨htaken, hdocs, hbegins, -, hends⟩ :=
    pages_exact_while_growing c r 2 rfl rfl (by decide) steps (by decide)
  rw [htaken] at hdocs
  -- before the first read
  let s : Session := ⟨⟨"log", [.obj [], .obj []]⟩, { query := r }, [], [[.obj []]]⟩
  have hstands : StandsAt r 0 s.pager := standsAt_fresh r
  have hpage : (page s.store.docs r 0).records = [.obj [], .obj []] := by
    rw [page_limited rfl, matching_unsorted rfl]
    rfl
  have hne : (page s.store.docs r 0).records ≠ [] := by
    rw [hpage]
    exact List.cons_ne_nil _ _
  let t : Session :=
    { s with pager := s.pager.advance (page s.store.docs r 0), pages := [[.obj [], .obj []]] }
  have hrun : (Session.start c r).run steps = t := by
    have hread := step_read_page hstands hne
    rw [hpage] at hread
    show ((s.step .read).step (.insert [.obj [], .null])) = _
    rw [step_insert, hread]
    rfl
  -- before the second
  have hbehind := standsAt_advance rfl hstands hne
  have hempty : (page s.store.docs r (nextOffset 0 (page s.store.docs r 0).records.length)).records
      = [] := by
    rw [page_limited rfl, matching_unsorted rfl, hpage]
    rfl
  have hended : (((Session.start c r).run steps).step .read).pager.done = true := by
    rw [hrun]
    exact (step_read_empty (t := t) hbehind hempty).2
  have hrunning : ((Session.start c r).run steps).pager.done = false := by
    rw [hrun]
    exact hbehind.running
  refine ⟨c, r, _, rfl, htaken, hdocs, hbegins, hended, ?_⟩
  rw [(hends hrunning).2 hended, step_read_store, hdocs]
  rfl

end StoreQuery.Find.Collection
