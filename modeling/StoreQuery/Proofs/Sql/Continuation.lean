import Mathlib.Data.List.Forall2
import StoreQuery.Proofs.Sql.Rendering
import StoreQuery.Proofs.Store.Protocol
import StoreQuery.Sql.Container

/-! # Continuations — what paging a container asks its transport for

    A container reads an empty token as "where the statement says", a pager
    reads it as "nothing is left", and an answer without a continuation is
    given the empty token on its way between them.  The two readings never
    meet: behind an answer without a continuation nothing is asked.

    The transport is given a log, as the store is in the pager's protocol,
    and nobody notices.  Every fetch is one request (`fetch_run`), so the
    fetches of a run and its requests are the same list seen from two sides
    (`sentAs_after`), and what the protocol says of tokens becomes what is
    said of continuations. -/

namespace StoreQuery.Sql

/-! ## Requests and answers -/

/-- A statement that was sent, and what came back. -/
structure Exchange where
  request : Statement
  answer : Except StoreError Answer

/-- The same transport with a log of what it is asked. -/
def Transport.recorded {τ : Type} (t : Transport τ) : Transport (τ × List Exchange) where
  connect settings := (t.connect settings).focus Prod.fst fun s x => (s, x.2)
  upsert records := (t.upsert records).focus Prod.fst fun s x => (s, x.2)
  query request := fun (s, log) =>
    let out := t.query request s
    ⟨out.result, (out.state, log ++ [⟨request, out.result⟩]), out.events⟩
  close := t.close.focus Prod.fst fun s x => (s, x.2)

/-- The answers among what came back. -/
def answersOf (log : List Exchange) : List Answer :=
  log.filterMap fun x => x.answer.toOption

namespace Answer

/-- The page that an answer is read as. -/
def page (answer : Answer) : Page :=
  ⟨answer.records, answer.continuation.getD ""⟩

/-- There are records, and there is more to ask for. -/
def GoesOn (answer : Answer) : Prop :=
  answer.records ≠ [] ∧ answer.continuation ≠ none ∧ answer.continuation ≠ some ""

/-- A continuation and its token. -/
theorem next_page_eq_empty_iff (answer : Answer) :
    answer.page.next = "" ↔ answer.continuation = none ∨ answer.continuation = some "" := by
  rw [page]
  cases answer.continuation <;> simp

theorem isLast_page (answer : Answer) : answer.page.isLast = false ↔ answer.GoesOn := by
  rw [← Bool.not_eq_true, PagedRun.isLast_iff, next_page_eq_empty_iff, not_or, not_or]
  rfl

/-- An answer that goes on does so by its token. -/
theorem GoesOn.continuation_eq {answer : Answer} (h : answer.GoesOn) :
    answer.page.next ≠ "" ∧ answer.continuation = some answer.page.next := by
  obtain ⟨-, hsome, hne⟩ := h
  obtain ⟨token, htoken⟩ := Option.ne_none_iff_exists'.mp hsome
  have hnext : answer.page.next = token := congrArg (Option.getD · "") htoken
  rw [hnext]
  exact ⟨fun hempty => hne (htoken.trans (congrArg some hempty)), htoken⟩

end Answer

namespace Container

variable {τ : Type}

/-- A container whose transport keeps a log. -/
def recorded (c : Container τ) : Container (τ × List Exchange) :=
  ⟨(c.transport, []), c.collection, c.dialect⟩

/-- The same container without the log. -/
def unrecorded (c : Container (τ × List Exchange)) : Container τ :=
  ⟨c.transport.1, c.collection, c.dialect⟩

/-- Only the continuation of a statement changes with the token. -/
theorem resume_eq (s : Statement) (token : String) :
    resume s token = { s with options := { s.options with
      continuation := if token = "" then s.options.continuation else some token } } := by
  rw [resume]
  by_cases h : token = ""
  · rw [if_pos h, if_pos h]
  · rw [if_neg h, if_neg h]

/-- A fetch is one request. -/
theorem fetch_run (t : Transport τ) (s : Statement) (token : String) (c : Container τ) :
    fetch t s token c =
      ⟨(t.query (resume s token) c.transport).result.map Answer.page,
        { c with transport := (t.query (resume s token) c.transport).state },
        ⟨.info, "Executing query: " ++ s.text⟩ ::
          (t.query (resume s token) c.transport).events⟩ := by
  rw [fetch, Act.bind_ok (Act.emit_run _ _ c)]
  cases hquery : t.query (resume s token) c.transport with
  | mk result transport events =>
    have hrun : onTransport (t.query (resume s token)) c
        = ⟨result, { c with transport }, events⟩ := by
      rw [onTransport, Act.focus, hquery]
    cases result with
    | error e =>
      rw [Act.bind_error hrun]
      rfl
    | ok answer =>
      rw [Act.bind_ok hrun]
      simp only [Act.pure_run, List.append_nil]
      rfl

/-- Nobody notices that the transport keeps a log. -/
theorem recorded_looksLike (t : Transport τ) :
    (client t.recorded).LooksLike unrecorded (client t) := by
  intro s token c
  show (fetch t.recorded s token c).through unrecorded = fetch t s token c.unrecorded
  rw [fetch_run, fetch_run]
  rfl

end Container

/-! ## Fetches as requests -/

/-- A fetch and the request that it was. -/
structure SentAs (s : Statement) (call : Fetch) (x : Exchange) : Prop where
  request : x.request = Container.resume s call.token
  answer : call.answer = x.answer.map Answer.page

/-- The fetches of a run are its requests, one by one. -/
theorem sentAs_after {τ : Type} (t : Transport τ) (c : Container τ) (s : Statement) (n : Nat) :
    let full := PagedRun.after (Container.client t.recorded).recorded s (c.recorded, []) n
    List.Forall₂ (SentAs s) full.store.2 full.store.1.transport.2 := by
  refine PagedRun.after_keeps (P := fun store : Container (τ × List Exchange) × List Fetch =>
    List.Forall₂ (SentAs s) store.2 store.1.transport.2) ?_ .nil n
  rintro token ⟨c, calls⟩ h
  show List.Forall₂ (SentAs s) (calls ++ [⟨token, (Container.fetch t.recorded s token c).result⟩])
    (Container.fetch t.recorded s token c).state.transport.2
  rw [Container.fetch_run]
  exact List.rel_append h (.cons ⟨rfl, rfl⟩ .nil)

theorem pagesOf_of_sentAs {s : Statement} {calls : List Fetch} {log : List Exchange}
    (h : List.Forall₂ (SentAs s) calls log) : pagesOf calls = (answersOf log).map Answer.page := by
  induction h with
  | nil => rfl
  | @cons call x calls log hx _ ih =>
    have hpage : call.page? = x.answer.toOption.map Answer.page := by
      rw [Fetch.page?, hx.answer]
      cases x.answer <;> rfl
    rw [pagesOf, answersOf, List.filterMap_cons, List.filterMap_cons, hpage]
    cases x.answer.toOption with
    | none => exact ih
    | some answer => exact congrArg (answer.page :: ·) ih

/-- No page of a run is the last as long as the answers go on. -/
theorem unended_iff_of_sentAs {s : Statement} {calls : List Fetch} {log : List Exchange}
    (h : List.Forall₂ (SentAs s) calls log) :
    (∀ page ∈ pagesOf calls, page.isLast = false) ↔ ∀ answer ∈ answersOf log, answer.GoesOn := by
  rw [pagesOf_of_sentAs h, List.forall_mem_map]
  exact forall₂_congr fun answer _ => answer.isLast_page

/-- Lists that are related one by one split together. -/
theorem exists_split_of_forall₂ {α β : Type} {R : α → β → Prop} {as : List α}
    {before behind : List β} {x : β} (h : List.Forall₂ R as (before ++ x :: behind)) :
    ∃ front a back, as = front ++ a :: back ∧ List.Forall₂ R front before ∧ R a x := by
  obtain ⟨a, back, ha, -, hdrop⟩ :=
    List.forall₂_cons_right_iff.mp (List.forall₂_drop_append as before (x :: behind) h)
  refine ⟨as.take before.length, a, back, ?_, List.forall₂_take_append as before _ h, ha⟩
  rw [← hdrop, List.take_append_drop]

/-! ## Continuations -/

/-- The continuation of the last answer, or the statement's own before there is one. -/
def continuationBehind (s : Statement) (log : List Exchange) : Option String :=
  (answersOf log).getLast?.elim s.options.continuation Answer.continuation

/-- A fetch with the token of the last page is a request with the continuation of the last
    answer. -/
theorem request_of_tokenBehind {s : Statement} {calls : List Fetch} {log : List Exchange}
    (h : List.Forall₂ (SentAs s) calls log) (hgoes : ∀ answer ∈ answersOf log, answer.GoesOn) :
    Container.resume s (tokenBehind calls)
      = { s with options := { s.options with continuation := continuationBehind s log } } := by
  rw [Container.resume_eq, tokenBehind, pagesOf_of_sentAs h, List.getLast?_map,
    continuationBehind]
  cases hlast : (answersOf log).getLast? with
  | none => rfl
  | some answer =>
    obtain ⟨hne, hcontinuation⟩ := (hgoes answer (List.mem_of_getLast? hlast)).continuation_eq
    show { s with options := { s.options with
      continuation := if answer.page.next = "" then _ else some answer.page.next } } = _
    rw [if_neg hne, ← hcontinuation]
    rfl

/-- The options of a compiled statement are those that the page asks for. -/
theorem options_of_compile {σ : Type} {d : Dialect} {collection : String} {q : Query} {r : σ}
    {s : Statement} (h : (Statement.compile d collection q r).result = .ok s) :
    s.options = Statement.optionsOf q.page := by
  cases hq : q.filter with
  | none =>
    rw [compile_unfiltered d hq] at h
    rw [← Except.ok.inj h]
  | some f =>
    rw [compile_filtered d hq] at h
    cases hoffence : f.leaves.findSome? offence with
    | some e =>
      rw [hoffence] at h
      exact nomatch h
    | none =>
      rw [hoffence] at h
      rw [← Except.ok.inj h]

/-- Whatever a transport answers, while a statement is paged by any number of calls: each request is
    the statement but for its continuation, which is the statement's own before the first answer and
    that of the last answer from then on; a request is made only where every answer before it had
    records and a continuation that is not empty, and as long as they all do every call makes one;
    and a compiled statement's own continuation is its query's token, or none if that is empty. -/
theorem requests_follow_continuations {τ : Type} (t : Transport τ) (c : Container τ)
    (s : Statement) (n : Nat) :
    let run := PagedRun.after (Container.client t.recorded) s c.recorded n
    let log := run.store.transport.2
    run.through Container.unrecorded = PagedRun.after (Container.client t) s c n
    ∧ (∀ before x behind, log = before ++ x :: behind →
        x.request.text = s.text ∧ x.request.parameters = s.parameters
        ∧ x.request.options.maxItemCount = s.options.maxItemCount
        ∧ (answersOf before = [] → x.request.options.continuation = s.options.continuation)
        ∧ (∀ answer ∈ (answersOf before).getLast?,
          x.request.options.continuation = answer.continuation)
        ∧ ∀ answer ∈ answersOf before,
          answer.records ≠ [] ∧ answer.continuation ≠ none ∧ answer.continuation ≠ some "")
    ∧ ((∀ answer ∈ answersOf log,
        answer.records ≠ [] ∧ answer.continuation ≠ none ∧ answer.continuation ≠ some "") →
        log.length = n)
    ∧ ∀ q : Query, (Container.compile q c).result = .ok s →
        s.options.continuation = if q.page.token = "" then none else some q.page.token := by
  intro run log
  -- with both logs kept, the fetches that the pager makes stand beside the requests they become
  let full := PagedRun.after (Container.client t.recorded).recorded s (c.recorded, []) n
  have hrun : full.unrecorded = run := PagedRun.after_recorded _ s c.recorded n
  have hlog : full.store.1.transport.2 = log := congrArg (fun r => r.store.transport.2) hrun
  have hsent : List.Forall₂ (SentAs s) full.store.2 log := hlog ▸ sentAs_after t c s n
  have hfollows : PagedRun.FollowsTokens n full := PagedRun.followsTokens_after _ s c.recorded n
  refine ⟨PagedRun.after_through (Container.recorded_looksLike t) s c.recorded n, ?_, ?_, ?_⟩
  · -- one request: its fetch, and the fetches of the requests before it
    intro before x behind hsplit
    rw [hsplit] at hsent
    obtain ⟨front, call, back, hcalls, hfront, hcall⟩ := exists_split_of_forall₂ hsent
    have hunended := PagedRun.unended_after _ s c.recorded n front call back hcalls
    have hanswers : ∀ answer ∈ answersOf before, answer.GoesOn :=
      (unended_iff_of_sentAs hfront).mp hunended
    -- no answer before it was the last, so the token is a continuation wherever there is one
    have hrequest : x.request = { s with options := { s.options with
        continuation := continuationBehind s before } } := by
      rw [hcall.request, hfollows.tokened front call back hcalls]
      exact request_of_tokenBehind hfront hanswers
    rw [hrequest]
    refine ⟨rfl, rfl, rfl, fun hnone => ?_, fun answer hanswer => ?_, hanswers⟩
    · show continuationBehind s before = _
      rw [continuationBehind, hnone]
      rfl
    · show continuationBehind s before = _
      rw [continuationBehind, Option.mem_def.mp hanswer]
      rfl
  · -- answers that go on are pages that are not the last, and then every call fetches
    intro hanswers
    have hpages := (unended_iff_of_sentAs hsent).mpr hanswers
    have hrunning : full.pager.done = false :=
      hfollows.done.trans (List.any_eq_false.mpr fun page hpage =>
        Bool.eq_false_iff.mp (hpages page hpage))
    rw [← hsent.length_eq]
    exact hfollows.fetches hrunning
  · -- the statement's own continuation comes from the page of its query
    intro q hq
    rw [Container.compile, Act.bind_ok_silent (Act.get_run c), Act.mapError_result_ok] at hq
    rw [options_of_compile hq]
    rfl

/-- A transport that answers from a script, and with nothing behind its end. -/
def Transport.scripted : Transport (List (Except StoreError Answer)) where
  connect _ := return ()
  upsert _ := return ()
  query _ := fun script => ⟨script.headD (.ok ⟨[], none⟩), script.tail, []⟩
  close := return ()

/-- A query that starts at a token of its own is read through two failures.  Its token is sent until
    the first answer, and again where an answer gives it back, but not behind the last answer, which
    has no continuation: the sixth call asks for nothing. -/
theorem requests_follow_continuations_retried :
    ∃ (q : Query) (c : Container (List (Except StoreError Answer))) (s : Statement),
      q.page = ⟨2, "start"⟩ ∧ (Container.compile q c).result = .ok s
      ∧ s.options.continuation = some "start"
      ∧ (∃ before x,
        (PagedRun.after (Container.client Transport.scripted.recorded) s
          c.recorded 6).store.transport.2 = before ++ [x]
        ∧ (before ++ [x]).map (fun x => x.request.options.continuation)
          = [some "start", some "start", some "t", some "t", some "start"]
        ∧ x.request.text = s.text ∧ x.request.options.maxItemCount = some 2)
      ∧ (PagedRun.after (Container.client Transport.scripted.recorded) s
        c.recorded 3).store.transport.2.length = 3 := by
  let q : Query := { filter := some (.eq "k" (.text "v")), page := ⟨2, "start"⟩ }
  let script : List (Except StoreError Answer) :=
    [.error (.transport "down"), .ok ⟨[.str "a"], some "t"⟩, .error (.transport "down"),
      .ok ⟨[.str "b"], some "start"⟩, .ok ⟨[.str "c"], none⟩]
  let c : Container (List (Except StoreError Answer)) := ⟨script, "items", ⟨none⟩⟩
  let s : Statement := ⟨"items", "SELECT * FROM items WHERE k = @p0", [⟨"@p0", .text "v"⟩],
    ⟨some 2, some "start"⟩⟩
  have hcompile : (Container.compile q c).result = .ok s := by
    rw [Container.compile, Act.bind_ok_silent (Act.get_run c), Act.mapError_result_ok,
      compile_filtered _ rfl]
    rfl
  obtain ⟨before, x, hlog, hsent⟩ : ∃ before x,
      (PagedRun.after (Container.client Transport.scripted.recorded) s
        c.recorded 6).store.transport.2 = before ++ [x]
      ∧ (before ++ [x]).map (fun x => x.request.options.continuation)
        = [some "start", some "start", some "t", some "t", some "start"] :=
    ⟨[_, _, _, _], _, rfl, rfl⟩
  obtain ⟨-, hrequests, -, hcompiled⟩ := requests_follow_continuations Transport.scripted c s 6
  obtain ⟨-, -, hcalls, -⟩ := requests_follow_continuations Transport.scripted c s 3
  obtain ⟨htext, -, hcount, -⟩ := hrequests before x [] hlog
  refine ⟨q, c, s, rfl, hcompile, hcompiled q hcompile, ⟨before, x, hlog, hsent, htext, hcount⟩,
    hcalls ?_⟩
  intro answer hanswer
  cases List.mem_singleton.mp hanswer
  exact ⟨List.cons_ne_nil _ _, Option.some_ne_none _, by decide⟩

end StoreQuery.Sql
