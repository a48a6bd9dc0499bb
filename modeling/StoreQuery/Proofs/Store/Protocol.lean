import StoreQuery.Proofs.Store.Pager

/-! # The pager's protocol — tokens, failures and the end, with any store

    Nothing is assumed of the store: its answers may be any pages and any
    errors in any order.  A `PagedRun` goes on calling `next`, also behind a
    call that failed, and keeps what each call gave.

    A call does one of three things (`call_done`, `call_failed`,
    `call_fetched`), and each keeps the invariant `FollowsTokens`, which ties
    the pager to the log of the fetches so far.  To compare a run with the run
    without its failures, the answers of the log become a script: a store
    that gives the answers that succeeded, and no others, is read with the
    same results (`after_scripted`). -/

namespace StoreQuery

/-! ## Paged runs -/

/-- What a call of `next` gives. -/
abbrev Pager.Result := Except StoreError (Option (List Json))

/-- The page that a call gave, if it gave one. -/
def Pager.Result.page? : Pager.Result → Option (List Json)
  | .ok records => records
  | .error _ => none

/-- A store, a pager on it, and what the calls so far gave. -/
structure PagedRun (σ κ : Type) where
  store : σ
  pager : Pager κ
  results : List Pager.Result := []

namespace PagedRun

variable {σ κ : Type}

/-- One more call; one that fails is a call like any other. -/
def call (client : Client σ κ) (t : PagedRun σ κ) : PagedRun σ κ :=
  let out := Pager.next client (t.store, t.pager)
  ⟨out.state.1, out.state.2, t.results ++ [out.result]⟩

/-- What a number of calls on a fresh pager come to. -/
def after (client : Client σ κ) (query : κ) (s : σ) : Nat → PagedRun σ κ
  | 0 => { store := s, pager := { query } }
  | n + 1 => (after client query s n).call client

/-- The pages that the calls gave. -/
def given (t : PagedRun σ κ) : List (List Json) :=
  t.results.filterMap Pager.Result.page?

/-- One more result adds its page, if it has one. -/
theorem given_concat (t : PagedRun σ κ) (s : σ) (p : Pager κ) (result : Pager.Result) :
    given ⟨s, p, t.results ++ [result]⟩ = t.given ++ result.page?.toList := by
  rw [given, List.filterMap_append, given]
  cases hpage : result.page? <;> simp [hpage]

/-- A run with its store seen through a view. -/
def through {τ : Type} (view : σ → τ) (t : PagedRun σ κ) : PagedRun τ κ :=
  ⟨view t.store, t.pager, t.results⟩

/-- A store that looks like another is read like it. -/
theorem after_through {τ : Type} {view : σ → τ} {client : Client σ κ} {other : Client τ κ}
    (h : client.LooksLike view other) (query : κ) (s : σ) (n : Nat) :
    (after client query s n).through view = after other query (view s) n := by
  induction n with
  | zero => rfl
  | succ n ih =>
    have hnext := Pager.next_through h (after client query s n).store (after client query s n).pager
    rw [after, after, ← ih, call, call, through]
    exact congrArg (fun out => PagedRun.mk out.state.1 out.state.2 (_ ++ [out.result])) hnext

/-- The same run without the log of its store. -/
def unrecorded (t : PagedRun (σ × List Fetch) κ) : PagedRun σ κ :=
  ⟨t.store.1, t.pager, t.results⟩

/-- Nobody notices that the store keeps a log. -/
theorem after_recorded (client : Client σ κ) (query : κ) (s : σ) (n : Nat) :
    (after client.recorded query (s, []) n).unrecorded = after client query s n :=
  after_through client.recorded_looksLike query (s, []) n

theorem query_after (client : Client σ κ) (query : κ) (s : σ) (n : Nat) :
    (after client query s n).pager.query = query := by
  induction n with
  | zero => rfl
  | succ n ih => exact (Pager.next_query client _ _).trans ih

/-- What every fetch of a query keeps, every run of calls keeps. -/
theorem after_keeps {client : Client σ κ} {query : κ} {P : σ → Prop}
    (hfetch : ∀ token s, P s → P (client.fetch query token s).state) {s : σ} (hs : P s)
    (n : Nat) : P (after client query s n).store := by
  induction n with
  | zero => exact hs
  | succ n ih =>
    rcases Pager.next_store client (after client query s n).store (after client query s n).pager
      with hstore | hstore
    · rw [after, call, hstore]
      exact ih
    · rw [after, call, hstore, query_after]
      exact hfetch _ _ ih

end PagedRun

/-! ## What one call does -/

namespace Fetch

/-- The page that a fetch was answered with. -/
def page? (call : Fetch) : Option Page :=
  call.answer.toOption

end Fetch

/-- The pages that a store answered with. -/
def pagesOf (calls : List Fetch) : List Page :=
  calls.filterMap Fetch.page?

/-- The token of the last page that a store answered with, empty if there is none. -/
def tokenBehind (calls : List Fetch) : String :=
  ((pagesOf calls).getLast?.map Page.next).getD ""

theorem pagesOf_failed (calls : List Fetch) (token : String) (e : StoreError) :
    pagesOf (calls ++ [⟨token, .error e⟩]) = pagesOf calls := by
  rw [pagesOf, List.filterMap_append]
  exact List.append_nil _

theorem pagesOf_fetched (calls : List Fetch) (token : String) (page : Page) :
    pagesOf (calls ++ [⟨token, .ok page⟩]) = pagesOf calls ++ [page] := by
  rw [pagesOf, List.filterMap_append]
  rfl

theorem tokenBehind_failed (calls : List Fetch) (token : String) (e : StoreError) :
    tokenBehind (calls ++ [⟨token, .error e⟩]) = tokenBehind calls := by
  rw [tokenBehind, pagesOf_failed, tokenBehind]

theorem tokenBehind_fetched (calls : List Fetch) (token : String) (page : Page) :
    tokenBehind (calls ++ [⟨token, .ok page⟩]) = page.next := by
  rw [tokenBehind, pagesOf_fetched, List.getLast?_concat]
  rfl

namespace PagedRun

variable {σ κ : Type} {client : Client σ κ}

/-- A call at the end gives nothing and does nothing. -/
theorem call_done {t : PagedRun σ κ} (h : t.pager.done = true) :
    t.call client = ⟨t.store, t.pager, t.results ++ [.ok none]⟩ := by
  rw [call, Pager.next_done h]

/-- A call whose fetch fails gives the error and leaves the pager. -/
theorem call_failed {t : PagedRun (σ × List Fetch) κ} {s : σ} {e : StoreError} {events : List Event}
    (h : t.pager.done = false)
    (hfetch : client.fetch t.pager.query t.pager.token t.store.1 = ⟨.error e, s, events⟩) :
    t.call client.recorded =
      ⟨(s, t.store.2 ++ [⟨t.pager.token, .error e⟩]), t.pager, t.results ++ [.error e]⟩ := by
  rw [call, Pager.next_failed h (Client.fetch_recorded hfetch t.store.2)]

/-- A call whose fetch gives a page goes on behind it, and gives its records if there are any. -/
theorem call_fetched {t : PagedRun (σ × List Fetch) κ} {s : σ} {page : Page} {events : List Event}
    (h : t.pager.done = false)
    (hfetch : client.fetch t.pager.query t.pager.token t.store.1 = ⟨.ok page, s, events⟩) :
    t.call client.recorded =
      ⟨(s, t.store.2 ++ [⟨t.pager.token, .ok page⟩]), t.pager.advance page,
        t.results ++ [.ok (if page.records.isEmpty then none else some page.records)]⟩ := by
  rw [call, Pager.next_fetched h (Client.fetch_recorded hfetch t.store.2)]

/-- These three are all that a call can do. -/
theorem call_cases (client : Client σ κ) (t : PagedRun (σ × List Fetch) κ) :
    (t.pager.done = true
      ∧ t.call client.recorded = ⟨t.store, t.pager, t.results ++ [.ok none]⟩)
    ∨ (t.pager.done = false ∧ ∃ s e, t.call client.recorded =
        ⟨(s, t.store.2 ++ [⟨t.pager.token, .error e⟩]), t.pager, t.results ++ [.error e]⟩)
    ∨ (t.pager.done = false ∧ ∃ s page, t.call client.recorded =
        ⟨(s, t.store.2 ++ [⟨t.pager.token, .ok page⟩]), t.pager.advance page,
          t.results ++ [.ok (if page.records.isEmpty then none else some page.records)]⟩) := by
  cases hdone : t.pager.done with
  | true => exact Or.inl ⟨rfl, call_done hdone⟩
  | false =>
    cases hfetch : client.fetch t.pager.query t.pager.token t.store.1 with
    | mk result s events =>
      cases result with
      | error e => exact Or.inr (Or.inl ⟨rfl, s, e, call_failed hdone hfetch⟩)
      | ok page => exact Or.inr (Or.inr ⟨rfl, s, page, call_fetched hdone hfetch⟩)

end PagedRun

/-! ## The invariant -/

/-- What holds of every element of a list and those before it holds so with one more. -/
theorem forall_split_concat {α : Type} {P : List α → α → Prop} {xs : List α} {last : α}
    (h : ∀ before x behind, xs = before ++ x :: behind → P before x) (hlast : P xs last) :
    ∀ before x behind, xs ++ [last] = before ++ x :: behind → P before x := by
  intro before x behind hsplit
  -- the element is the new one, or one of those before it
  rcases List.eq_nil_or_concat behind with rfl | ⟨behind, other, rfl⟩
  · obtain ⟨rfl, hx⟩ := List.append_inj' hsplit rfl
    rw [← List.head_eq_of_cons_eq hx]
    exact hlast
  · rw [List.concat_eq_append, ← List.cons_append, ← List.append_assoc] at hsplit
    exact h before x behind (List.append_inj' hsplit rfl).1

theorem forall_split_nil {α : Type} {P : List α → α → Prop} :
    ∀ before x behind, [] = before ++ x :: behind → P before x :=
  fun _ _ _ hsplit =>
    absurd hsplit.symm (List.append_ne_nil_of_right_ne_nil _ (List.cons_ne_nil _ _))

/-- Each fetch was given the token of the last page before it. -/
def Tokened (calls : List Fetch) : Prop :=
  ∀ before call behind, calls = before ++ call :: behind → call.token = tokenBehind before

theorem tokened_concat {calls : List Fetch} {last : Fetch} (h : Tokened calls)
    (hlast : last.token = tokenBehind calls) : Tokened (calls ++ [last]) :=
  forall_split_concat (P := fun before call => call.token = tokenBehind before) h hlast

/-- No fetch was made behind a page that is the last. -/
def Unended (calls : List Fetch) : Prop :=
  ∀ before call behind, calls = before ++ call :: behind →
    ∀ page ∈ pagesOf before, page.isLast = false

theorem unended_concat {calls : List Fetch} {last : Fetch} (h : Unended calls)
    (hlast : ∀ page ∈ pagesOf calls, page.isLast = false) : Unended (calls ++ [last]) :=
  forall_split_concat (P := fun before _ => ∀ page ∈ pagesOf before, page.isLast = false) h hlast

namespace PagedRun

variable {σ κ : Type} {client : Client σ κ} {t : PagedRun (σ × List Fetch) κ} {n : Nat}

/-- What `n` calls leave behind: the pager follows the tokens of the fetches in the log. -/
structure FollowsTokens (n : Nat) (t : PagedRun (σ × List Fetch) κ) : Prop where
  tokened : Tokened t.store.2
  /-- The next fetch will be given the token of the last page as well. -/
  token : t.pager.token = tokenBehind t.store.2
  /-- Every page with records was given once. -/
  given : t.given = ((pagesOf t.store.2).map Page.records).filter fun records => !records.isEmpty
  pages : t.pager.pages = t.given.length
  /-- The pager ends behind the first page that is the last. -/
  done : t.pager.done = (pagesOf t.store.2).any Page.isLast
  /-- Until then every call is a fetch. -/
  fetches : t.pager.done = false → t.store.2.length = n

theorem followsTokens_start (query : κ) (s : σ) :
    FollowsTokens 0 (after client.recorded query (s, []) 0) where
  tokened := forall_split_nil
  token := rfl
  given := rfl
  pages := rfl
  done := rfl
  fetches _ := rfl

theorem followsTokens_done (h : FollowsTokens n t) (hdone : t.pager.done = true) :
    FollowsTokens (n + 1) ⟨t.store, t.pager, t.results ++ [.ok none]⟩ := by
  have hgiven := (given_concat t t.store t.pager (.ok none)).trans (List.append_nil _)
  refine ⟨h.tokened, h.token, ?_, ?_, h.done, fun hrunning => ?_⟩
  · rw [hgiven]
    exact h.given
  · rw [hgiven]
    exact h.pages
  · exact nomatch hrunning.symm.trans hdone

theorem followsTokens_failed (h : FollowsTokens n t) (hrunning : t.pager.done = false) (s : σ)
    (e : StoreError) :
    FollowsTokens (n + 1)
      ⟨(s, t.store.2 ++ [⟨t.pager.token, .error e⟩]), t.pager, t.results ++ [.error e]⟩ := by
  have hgiven := (given_concat t (s, t.store.2 ++ [⟨t.pager.token, .error e⟩]) t.pager
    (.error e)).trans (List.append_nil _)
  -- a failure is in the log of fetches, but not among their pages
  refine ⟨tokened_concat h.tokened h.token, ?_, ?_, ?_, ?_, fun _ => ?_⟩
  · rw [tokenBehind_failed]
    exact h.token
  · rw [hgiven, pagesOf_failed]
    exact h.given
  · rw [hgiven]
    exact h.pages
  · rw [pagesOf_failed]
    exact h.done
  · rw [List.length_append, h.fetches hrunning]
    rfl

theorem followsTokens_fetched (h : FollowsTokens n t) (hrunning : t.pager.done = false) (s : σ)
    (page : Page) :
    FollowsTokens (n + 1)
      ⟨(s, t.store.2 ++ [⟨t.pager.token, .ok page⟩]), t.pager.advance page,
        t.results ++ [.ok (if page.records.isEmpty then none else some page.records)]⟩ := by
  have hpage : (Pager.Result.page?
      (.ok (if page.records.isEmpty then none else some page.records))).toList
        = if page.records.isEmpty then [] else [page.records] := by
    cases page.records.isEmpty <;> rfl
  refine ⟨tokened_concat h.tokened h.token, ?_, ?_, ?_, ?_, fun _ => ?_⟩
  · rw [tokenBehind_fetched]
    rfl
  · rw [given_concat, hpage, h.given, pagesOf_fetched, List.map_append, List.filter_append]
    cases hempty : page.records.isEmpty <;> simp [hempty]
  · rw [given_concat, hpage, List.length_append, ← h.pages]
    show (if page.records.isEmpty then t.pager.pages else t.pager.pages + 1) = _
    cases page.records.isEmpty <;> rfl
  · -- no page before this one was the last
    rw [pagesOf_fetched, List.any_append, ← h.done, hrunning, Bool.false_or, List.any_cons,
      List.any_nil, Bool.or_false]
    rfl
  · rw [List.length_append, h.fetches hrunning]
    rfl

/-- Every run of calls keeps the invariant, with every store. -/
theorem followsTokens_after (client : Client σ κ) (query : κ) (s : σ) (n : Nat) :
    FollowsTokens n (after client.recorded query (s, []) n) := by
  induction n with
  | zero => exact followsTokens_start query s
  | succ n ih =>
    rw [after]
    rcases call_cases client (after client.recorded query (s, []) n) with
      ⟨hdone, hcall⟩ | ⟨hrunning, s', e, hcall⟩ | ⟨hrunning, s', page, hcall⟩
    · rw [hcall]
      exact followsTokens_done ih hdone
    · rw [hcall]
      exact followsTokens_failed ih hrunning s' e
    · rw [hcall]
      exact followsTokens_fetched ih hrunning s' page

/-- Before the end no page was the last. -/
theorem FollowsTokens.running (h : FollowsTokens n t) (hrunning : t.pager.done = false) :
    ∀ page ∈ pagesOf t.store.2, page.isLast = false := by
  intro page hpage
  exact Bool.eq_false_iff.mpr (List.any_eq_false.mp (h.done.symm.trans hrunning) page hpage)

/-- No run fetches behind a page that is the last. -/
theorem unended_after (client : Client σ κ) (query : κ) (s : σ) (n : Nat) :
    Unended (after client.recorded query (s, []) n).store.2 := by
  induction n with
  | zero => exact forall_split_nil
  | succ n ih =>
    have hfollows := followsTokens_after client query s n
    rw [after]
    rcases call_cases client (after client.recorded query (s, []) n) with
      ⟨-, hcall⟩ | ⟨hrunning, s', e, hcall⟩ | ⟨hrunning, s', page, hcall⟩
    · rw [hcall]
      exact ih
    · rw [hcall]
      exact unended_concat ih (hfollows.running hrunning)
    · rw [hcall]
      exact unended_concat ih (hfollows.running hrunning)

/-- Behind the end the calls give nothing and fetch nothing. -/
theorem after_done {client : Client σ κ} {query : κ} {s : σ} {n : Nat} {t : PagedRun σ κ}
    (ht : after client query s n = t) (h : t.pager.done = true) (m : Nat) :
    after client query s (n + m)
      = ⟨t.store, t.pager, t.results ++ List.replicate m (.ok none)⟩ := by
  induction m with
  | zero =>
    rw [List.replicate_zero, List.append_nil]
    exact ht
  | succ m ih =>
    rw [List.replicate_succ', ← List.append_assoc]
    show (after client query s (n + m)).call client = _
    rw [ih]
    exact call_done h

end PagedRun

/-! ## Runs without their failures -/

/-- A store that answers fetches from a script, and with empty pages behind its end. -/
def Client.scripted {κ : Type} (query : κ) : Client (List (Except StoreError Page)) κ where
  compile _ := return query
  insert _ := return ()
  fetch _ _ := fun script => ⟨script.headD (.ok ⟨[], ""⟩), script.tail, []⟩
  disconnect := return ()

/-- The fetches that were answered with a page. -/
def succeeded (calls : List Fetch) : List Fetch :=
  calls.filter fun call => call.answer.isOk

theorem succeeded_failed (calls : List Fetch) (token : String) (e : StoreError) :
    succeeded (calls ++ [⟨token, .error e⟩]) = succeeded calls := by
  rw [succeeded, List.filter_append]
  exact List.append_nil _

theorem succeeded_fetched (calls : List Fetch) (token : String) (page : Page) :
    succeeded (calls ++ [⟨token, .ok page⟩]) = succeeded calls ++ [⟨token, .ok page⟩] := by
  rw [succeeded, List.filter_append]
  rfl

/-- The results of the calls that did not fail. -/
def successes (results : List Pager.Result) : List Pager.Result :=
  results.filter Except.isOk

theorem successes_failed (results : List Pager.Result) (e : StoreError) :
    successes (results ++ [.error e]) = successes results := by
  rw [successes, List.filter_append]
  exact List.append_nil _

theorem successes_ok (results : List Pager.Result) (records : Option (List Json)) :
    successes (results ++ [.ok records]) = successes results ++ [.ok records] := by
  rw [successes, List.filter_append]
  rfl

namespace PagedRun

variable {σ κ : Type} {t : PagedRun (σ × List Fetch) κ}

/-- The run in which the failed fetches, and the calls that made them, are left out, on a store
    with a script. -/
def withoutFailures (t : PagedRun (σ × List Fetch) κ) (script : List (Except StoreError Page)) :
    PagedRun (List (Except StoreError Page) × List Fetch) κ :=
  ⟨(script, succeeded t.store.2), t.pager, successes t.results⟩

theorem withoutFailures_done (query : κ) (script : List (Except StoreError Page))
    (h : t.pager.done = true) :
    withoutFailures ⟨t.store, t.pager, t.results ++ [.ok none]⟩ script
      = (t.withoutFailures script).call (Client.scripted query).recorded := by
  rw [call_done (t := t.withoutFailures script) h, withoutFailures, successes_ok]
  rfl

theorem withoutFailures_failed (script : List (Except StoreError Page)) (s : σ) (token : String)
    (e : StoreError) :
    withoutFailures ⟨(s, t.store.2 ++ [⟨token, .error e⟩]), t.pager, t.results ++ [.error e]⟩ script
      = t.withoutFailures script := by
  rw [withoutFailures, succeeded_failed, successes_failed]
  rfl

theorem withoutFailures_fetched (query : κ) (script : List (Except StoreError Page)) (s : σ)
    (page : Page) (h : t.pager.done = false) :
    withoutFailures ⟨(s, t.store.2 ++ [⟨t.pager.token, .ok page⟩]), t.pager.advance page,
        t.results ++ [.ok (if page.records.isEmpty then none else some page.records)]⟩ script
      = (t.withoutFailures (.ok page :: script)).call (Client.scripted query).recorded := by
  have hfetch : (Client.scripted query).fetch t.pager.query t.pager.token (.ok page :: script)
      = ⟨.ok page, script, []⟩ := rfl
  rw [call_fetched (t := t.withoutFailures (.ok page :: script)) h hfetch, withoutFailures,
    succeeded_fetched, successes_ok]
  rfl

/-- A store that gives only the answers of a run that succeeded is read with the same results but
    for the failures.  What its script holds behind them is left. -/
theorem after_scripted (client : Client σ κ) (query : κ) (s : σ) (n : Nat)
    (more : List (Except StoreError Page)) {t : PagedRun (σ × List Fetch) κ}
    (ht : after client.recorded query (s, []) n = t) :
    after (Client.scripted query).recorded query
        ((succeeded t.store.2).map Fetch.answer ++ more, []) (successes t.results).length
      = t.withoutFailures more := by
  induction n generalizing more t with
  | zero =>
    rw [← ht]
    rfl
  | succ n ih =>
    rw [after] at ht
    rcases call_cases client (after client.recorded query (s, []) n) with
      ⟨hdone, hcall⟩ | ⟨hrunning, s', e, hcall⟩ | ⟨hrunning, s', page, hcall⟩
    · -- both runs have ended
      rw [← ht, hcall, withoutFailures_done query more hdone, ← ih more rfl, successes_ok,
        List.length_append]
      rfl
    · -- the call that failed is left out
      rw [← ht, hcall, withoutFailures_failed, ← ih more rfl, succeeded_failed, successes_failed]
    · -- the script has come to the page, which both fetch
      rw [← ht, hcall, withoutFailures_fetched query more s' page hrunning,
        ← ih (.ok page :: more) rfl, succeeded_fetched, successes_ok, List.length_append,
        List.map_append, List.append_assoc]
      rfl

/-! ## The protocol -/

/-- Paging stops behind a page without records or without a token. -/
theorem isLast_iff (page : Page) : page.isLast = true ↔ page.records = [] ∨ page.next = "" := by
  rw [Page.isLast, Bool.or_eq_true, List.isEmpty_iff, beq_iff_eq]

/-- A call that fails leaves the pager. -/
theorem next_error {client : Client σ κ} {s : σ} {p : Pager κ} {e : StoreError}
    (h : (Pager.next client (s, p)).result = .error e) :
    (Pager.next client (s, p)).state.2 = p := by
  rcases Pager.next_cases client s p with ⟨-, hnext⟩ | ⟨e', s', events, -, -, hnext⟩
    | ⟨page, s', events, -, -, hnext⟩
  · rw [hnext]
  · rw [hnext]
  · rw [hnext] at h
    exact nomatch h

/-- With every store, after any number of calls: each fetch was given the token of the last page
    before it, which is empty before the first; a call that fails leaves the pager; a store that
    gives the same answers without the failures is read with the same pages, by the same fetches;
    the pages given are those with records, each once and in order, and the pager counts them; every
    call fetches until a page has no records or no token; and from then on every call gives nothing
    and fetches nothing. -/
theorem calls_follow_tokens_through_failures (client : Client σ κ) (query : κ) (s : σ) (n : Nat) :
    let plain := after client query s n
    let t := after client.recorded query (s, []) n
    t.unrecorded = plain
    ∧ (∀ before call behind, t.store.2 = before ++ call :: behind →
        call.token = tokenBehind before)
    ∧ (∀ e, (Pager.next client (plain.store, plain.pager)).result = .error e →
        (after client query s (n + 1)).pager = plain.pager)
    ∧ after (Client.scripted query).recorded query ((succeeded t.store.2).map Fetch.answer, [])
        (successes t.results).length = ⟨([], succeeded t.store.2), t.pager, successes t.results⟩
    ∧ t.given = ((pagesOf t.store.2).map Page.records).filter (fun records => !records.isEmpty)
    ∧ t.pager.pages = t.given.length
    ∧ ((∀ page ∈ pagesOf t.store.2, page.records ≠ [] ∧ page.next ≠ "") → t.store.2.length = n)
    ∧ ((∃ page ∈ pagesOf t.store.2, page.records = [] ∨ page.next = "") →
        ∀ m, after client.recorded query (s, []) (n + m)
          = ⟨t.store, t.pager, t.results ++ List.replicate m (.ok none)⟩) := by
  intro plain t
  have hfollows : FollowsTokens n t := followsTokens_after client query s n
  refine ⟨after_recorded client query s n, hfollows.tokened, fun e he => next_error he, ?_,
    hfollows.given, hfollows.pages, ?_, ?_⟩
  · -- the script holds the answers that succeeded, and nothing behind them
    have hscripted := after_scripted client query s n [] (t := t) rfl
    rw [List.append_nil] at hscripted
    exact hscripted
  · intro hpages
    refine hfollows.fetches (hfollows.done.trans (List.any_eq_false.mpr fun page hpage => ?_))
    rw [isLast_iff, not_or]
    exact hpages page hpage
  · rintro ⟨page, hpage, hlast⟩ m
    have hdone : t.pager.done = true :=
      hfollows.done.trans (List.any_eq_true.mpr ⟨page, hpage, (isLast_iff page).mpr hlast⟩)
    exact after_done rfl hdone m

/-- A store that fails before each of its two pages is asked for each of them twice; the second page
    has no token, so the fifth call is no fetch. -/
theorem calls_follow_tokens_through_failures_twice :
    ∃ script : List (Except StoreError Page),
      let t := after (Client.scripted ()).recorded () (script, []) 4
      t.store.2.map Fetch.token = ["", "", "t", "t"]
      ∧ t.given = [[.str "a"], [.str "b"]] ∧ t.pager.pages = 2
      ∧ (after (Client.scripted ()) () script 3).pager
        = (after (Client.scripted ()) () script 2).pager
      ∧ ∀ m, after (Client.scripted ()).recorded () (script, []) (4 + m)
        = ⟨t.store, t.pager, t.results ++ List.replicate m (.ok none)⟩ := by
  let script : List (Except StoreError Page) :=
    [.error (.transport "down"), .ok ⟨[.str "a"], "t"⟩, .error (.transport "down"),
      .ok ⟨[.str "b"], ""⟩]
  obtain ⟨-, -, hfailed, -⟩ :=
    calls_follow_tokens_through_failures (Client.scripted ()) () script 2
  obtain ⟨-, -, -, -, -, hcount, -, hend⟩ :=
    calls_follow_tokens_through_failures (Client.scripted ()) () script 4
  refine ⟨script, rfl, rfl, hcount, hfailed (.transport "down") rfl, hend ?_⟩
  exact ⟨⟨[.str "b"], ""⟩, List.mem_cons_of_mem _ List.mem_cons_self, Or.inr rfl⟩

end PagedRun

end StoreQuery
