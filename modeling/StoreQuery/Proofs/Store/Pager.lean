import StoreQuery.Proofs.Act
import StoreQuery.Store.Pager

/-! # Pager steps — what one call does, and which fetches a run makes

    One call of `next` does nothing at the end, keeps the pager if the fetch
    fails, and otherwise goes on behind the page.  These three cases are all
    that proofs about pagers need.

    To speak of the fetches that a run makes, the store is given a log:
    `client.recorded` does what `client` does and writes down every fetch
    with its answer.  `collect_recorded` says that nobody notices.  A pager
    sees of a store only what its fetches show, so a store that keeps more
    is paged like the one that it looks like (`next_through`). -/

namespace StoreQuery

/-! ## Steps -/

namespace Pager

variable {σ κ : Type} {client : Client σ κ} {s s' : σ} {p : Pager κ} {page : Page}
  {events : List Event}

/-- At the end nothing is fetched. -/
theorem next_done (h : p.done = true) : next client (s, p) = ⟨.ok none, (s, p), []⟩ := by
  rw [next, Act.bind_ok_silent (Act.get_run (s, p))]
  show (if p.done then _ else _ : Act _ _ _) (s, p) = _
  rw [if_pos h]
  rfl

/-- Before the end a page is fetched, and the call goes on with it. -/
theorem next_running (h : p.done = false) :
    next client (s, p) = (onStore (client.fetch p.query p.token) >>= fun page => do
      let (s, _) ← Act.get
      Act.set (s, p.advance page)
      if page.records.isEmpty then return none
      else
        Act.emit .debug ((p.advance page).pageText page)
        return some page.records) (s, p) := by
  rw [next, Act.bind_ok_silent (Act.get_run (s, p))]
  show (if p.done then _ else _ : Act _ _ _) (s, p) = _
  rw [if_neg (by rw [h]; exact Bool.false_ne_true)]

/-- A fetch that fails leaves the pager as it was. -/
theorem next_failed {e : StoreError} (h : p.done = false)
    (hfetch : client.fetch p.query p.token s = ⟨.error e, s', events⟩) :
    next client (s, p) = ⟨.error e, (s', p), events⟩ := by
  have hstore : onStore (κ := κ) (client.fetch p.query p.token) (s, p)
      = ⟨.error e, (s', p), events⟩ := by
    rw [onStore, Act.focus, hfetch]
  rw [next_running h, Act.bind_error hstore]

/-- A page is given to the caller if it has records, and the pager goes on behind it. -/
theorem next_fetched (h : p.done = false)
    (hfetch : client.fetch p.query p.token s = ⟨.ok page, s', events⟩) :
    next client (s, p) =
      ⟨.ok (if page.records.isEmpty then none else some page.records), (s', p.advance page),
        events ++ if page.records.isEmpty then []
          else [⟨.debug, (p.advance page).pageText page⟩]⟩ := by
  have hstore : onStore (κ := κ) (client.fetch p.query p.token) (s, p)
      = ⟨.ok page, (s', p), events⟩ := by
    rw [onStore, Act.focus, hfetch]
  rw [next_running h, Act.bind_ok hstore]
  cases page.records.isEmpty <;> rfl

/-- These three are all that a call can do. -/
theorem next_cases (client : Client σ κ) (s : σ) (p : Pager κ) :
    (p.done = true ∧ next client (s, p) = ⟨.ok none, (s, p), []⟩)
    ∨ (∃ e s' events, p.done = false ∧ client.fetch p.query p.token s = ⟨.error e, s', events⟩
      ∧ next client (s, p) = ⟨.error e, (s', p), events⟩)
    ∨ ∃ page s' events, p.done = false ∧ client.fetch p.query p.token s = ⟨.ok page, s', events⟩
      ∧ next client (s, p) =
        ⟨.ok (if page.records.isEmpty then none else some page.records), (s', p.advance page),
          events ++ if page.records.isEmpty then []
            else [⟨.debug, (p.advance page).pageText page⟩]⟩ := by
  cases hdone : p.done with
  | true => exact Or.inl ⟨rfl, next_done hdone⟩
  | false =>
    cases hfetch : client.fetch p.query p.token s with
    | mk result s' events =>
      cases result with
      | error e => exact Or.inr (Or.inl ⟨e, s', events, rfl, rfl, next_failed hdone hfetch⟩)
      | ok page => exact Or.inr (Or.inr ⟨page, s', events, rfl, rfl, next_fetched hdone hfetch⟩)

/-- A call leaves the store alone or does one fetch there. -/
theorem next_store (client : Client σ κ) (s : σ) (p : Pager κ) :
    (next client (s, p)).state.1 = s
      ∨ (next client (s, p)).state.1 = (client.fetch p.query p.token s).state := by
  rcases next_cases client s p with
    ⟨-, hnext⟩ | ⟨e, s', events, -, hfetch, hnext⟩ | ⟨page, s', events, -, hfetch, hnext⟩
  · rw [hnext]
    exact Or.inl rfl
  · rw [hnext, hfetch]
    exact Or.inr rfl
  · rw [hnext, hfetch]
    exact Or.inr rfl

/-- A pager reads one query only. -/
theorem next_query (client : Client σ κ) (s : σ) (p : Pager κ) :
    (next client (s, p)).state.2.query = p.query := by
  rcases next_cases client s p with ⟨-, hnext⟩ | ⟨e, s', events, -, -, hnext⟩
    | ⟨page, s', events, -, -, hnext⟩
  · rw [hnext]
  · rw [hnext]
  · rw [hnext]
    rfl

variable {t t' : σ × Pager κ}

/-- A run stops where a call fails. -/
theorem collect_failed {e : StoreError} (calls : Nat)
    (h : next client t = ⟨.error e, t', events⟩) :
    collect client (calls + 1) t = ⟨.error e, t', events⟩ := by
  rw [collect, Act.bind_error h]

/-- A run ends where a call gives no records. -/
theorem collect_ended (calls : Nat) (h : next client t = ⟨.ok none, t', events⟩) :
    collect client (calls + 1) t = ⟨.ok (some []), t', events⟩ := by
  rw [collect, Act.bind_ok h]
  exact congrArg (Outcome.mk _ _) (List.append_nil events)

/-- A run puts the records of a call in front of those that follow. -/
theorem collect_continued {records : List Json} (calls : Nat)
    (h : next client t = ⟨.ok (some records), t', events⟩) :
    collect client (calls + 1) t =
      ⟨(collect client calls t').result.map (Option.map (records ++ ·)),
        (collect client calls t').state, events ++ (collect client calls t').events⟩ := by
  rw [collect, Act.bind_ok h]
  cases hrest : collect client calls t' with
  | mk result t'' later =>
    cases result with
    | error e =>
      simp only [Act.bind_error hrest]
      rfl
    | ok rest =>
      simp only [Act.bind_ok hrest, Act.pure_run, List.append_nil]
      rfl

end Pager

/-! ## Stores that look alike -/

/-- An outcome with its state seen through a view. -/
def Outcome.through {ε σ τ α : Type} (view : σ → τ) (out : Outcome ε σ α) : Outcome ε τ α :=
  ⟨out.result, view out.state, out.events⟩

/-- Through a view of its state, a store fetches like another. -/
def Client.LooksLike {σ τ κ : Type} (view : σ → τ) (client : Client σ κ) (other : Client τ κ) :
    Prop :=
  ∀ query token s, (client.fetch query token s).through view = other.fetch query token (view s)

/-- One call does the same on a store that looks alike. -/
theorem Pager.next_through {σ τ κ : Type} {view : σ → τ} {client : Client σ κ}
    {other : Client τ κ} (h : client.LooksLike view other) (s : σ) (p : Pager κ) :
    (next client (s, p)).through (Prod.map view id) = next other (view s, p) := by
  have hother := h p.query p.token s
  rcases next_cases client s p with ⟨hdone, hnext⟩ | ⟨e, s', events, hdone, hfetch, hnext⟩
    | ⟨page, s', events, hdone, hfetch, hnext⟩
  · rw [hnext, next_done hdone]
    rfl
  · rw [hfetch] at hother
    rw [hnext, next_failed hdone hother.symm]
    rfl
  · rw [hfetch] at hother
    rw [hnext, next_fetched hdone hother.symm]
    rfl

/-! ## Recorded runs -/

/-- A fetch and its answer. -/
structure Fetch where
  token : String
  answer : Except StoreError Page

namespace Fetch

/-- The records that a fetch gave. -/
def records (call : Fetch) : List Json :=
  match call.answer with
  | .ok page => page.records
  | .error _ => []

/-- Whether a fetch gave records. -/
def gaveRecords (call : Fetch) : Bool :=
  !call.records.isEmpty

end Fetch

/-- The same store with a log of its fetches. -/
def Client.recorded {σ κ : Type} (client : Client σ κ) : Client (σ × List Fetch) κ where
  compile q := (client.compile q).focus Prod.fst fun s t => (s, t.2)
  insert records := (client.insert records).focus Prod.fst fun s t => (s, t.2)
  fetch query token := fun (s, calls) =>
    let out := client.fetch query token s
    ⟨out.result, (out.state, calls ++ [⟨token, out.result⟩]), out.events⟩
  disconnect := client.disconnect.focus Prod.fst fun s t => (s, t.2)

/-- A fetch gives what it gives without the log, and is written down. -/
theorem Client.fetch_recorded {σ κ : Type} {client : Client σ κ} {query : κ} {token : String}
    {s s' : σ} {result : Except StoreError Page} {events : List Event}
    (h : client.fetch query token s = ⟨result, s', events⟩) (log : List Fetch) :
    client.recorded.fetch query token (s, log)
      = ⟨result, (s', log ++ [⟨token, result⟩]), events⟩ := by
  simp only [Client.recorded, h]

/-- A store with a log looks like the store. -/
theorem Client.recorded_looksLike {σ κ : Type} (client : Client σ κ) :
    client.recorded.LooksLike Prod.fst client :=
  fun _ _ _ => rfl

/-- An outcome beside a recorded store, without the log. -/
def Outcome.unrecorded {ε σ κ α : Type} (out : Outcome ε ((σ × List Fetch) × Pager κ) α) :
    Outcome ε (σ × Pager κ) α :=
  ⟨out.result, (out.state.1.1, out.state.2), out.events⟩

namespace Pager

variable {σ κ : Type} (client : Client σ κ)

/-- One call does the same on a recorded store. -/
theorem next_recorded (s : σ) (log : List Fetch) (p : Pager κ) :
    (next client.recorded ((s, log), p)).unrecorded = next client (s, p) :=
  next_through client.recorded_looksLike (s, log) p

/-- A whole run does the same on a recorded store. -/
theorem collect_recorded (calls : Nat) (s : σ) (log : List Fetch) (p : Pager κ) :
    (collect client.recorded calls ((s, log), p)).unrecorded = collect client calls (s, p) := by
  induction calls generalizing s log p with
  | zero => rfl
  | succ calls ih =>
    have hnext := next_recorded client s log p
    cases hrun : next client.recorded ((s, log), p) with
    | mk result t events =>
      -- both runs have made the same first call, so they fail, end or go on together
      obtain ⟨⟨s', log'⟩, p'⟩ := t
      rw [hrun, Outcome.unrecorded] at hnext
      match result with
      | .error e => rw [collect_failed calls hrun, collect_failed calls hnext.symm]; rfl
      | .ok none => rw [collect_ended calls hrun, collect_ended calls hnext.symm]; rfl
      | .ok (some records) =>
        rw [collect_continued calls hrun, collect_continued calls hnext.symm, ← ih s' log' p']
        rfl

end Pager

end StoreQuery
