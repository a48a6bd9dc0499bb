import StoreQuery.Proofs.Backend.Walk

/-! # Backends in use — what stays true while a backend is used again and again

    The state of a backend may be used more than once: node by node, for
    whole builds, or finished with any text, and any of these may fail.
    `used` is the state that a list of uses leaves, and what one use keeps,
    all of them keep (`used_preserves`).

    Where only a finish that succeeds changes the state (`Steady`), the state
    is the one that the last such finish left.  The finishes are read off the
    log of the recorded backend, and the invariant of the uses is
    `AtLastFinish`. -/

namespace StoreQuery

namespace Backend

variable {σ : Type} {b : Backend σ} {start s : σ}

/-! ## Uses -/

/-- What can be done with a backend. -/
inductive Use where
  | visit (visit : Visit)
  | finish (text : String) (q : Query)
  | build (q : Query)

/-- The state that a use leaves, whether it fails or not. -/
def use (b : Backend σ) (s : σ) : Use → σ
  | .visit visit => (b.perform visit s).state
  | .finish text q => (b.finish text q s).state
  | .build q => (b.build q s).state

/-- The state that several uses leave, one after the other. -/
def used (b : Backend σ) (s : σ) (uses : List Use) : σ :=
  uses.foldl b.use s

theorem used_append (b : Backend σ) (s : σ) (uses more : List Use) :
    b.used s (uses ++ more) = b.used (b.used s uses) more :=
  List.foldl_append

/-- What every use keeps, any number of uses keep. -/
theorem used_preserves {P : σ → Prop} (hstep : ∀ s u, P s → P (b.use s u)) (hs : P s)
    (uses : List Use) : P (b.used s uses) := by
  apply List.foldlRecOn uses b.use hs
  intro s hs u _
  exact hstep s u hs

/-! ## Finishes in the log -/

/-- A finish that succeeded, and the state that it left. -/
structure Finished (σ : Type) where
  text : String
  query : Query
  state : σ

/-- The finish that a call was, if it succeeded. -/
def Call.finished? : Call σ → Option (Finished σ)
  | .visit _ => none
  | .finish text q out => out.result.toOption.map fun _ => ⟨text, q, out.state⟩

/-- The finishes that succeeded. -/
def finishedOf (calls : List (Call σ)) : List (Finished σ) :=
  calls.filterMap Call.finished?

theorem finishedOf_visits (calls : List (Call σ)) (visited : List (Visited σ)) :
    finishedOf (calls ++ visited.map Call.visit) = finishedOf calls := by
  rw [finishedOf, List.filterMap_append, List.filterMap_map]
  exact (congrArg _ (List.filterMap_eq_nil_iff.mpr fun _ _ => rfl)).trans (List.append_nil _)

theorem finishedOf_failed {out : Outcome QueryError σ Unit} {e : QueryError}
    (h : out.result = .error e) (calls : List (Call σ)) (text : String) (q : Query) :
    finishedOf (calls ++ [.finish text q out]) = finishedOf calls := by
  rw [finishedOf, List.filterMap_append, List.filterMap_cons_none, List.filterMap_nil,
    List.append_nil, finishedOf]
  rw [Call.finished?, h]
  rfl

theorem finishedOf_succeeded {out : Outcome QueryError σ Unit} (h : out.result = .ok ())
    (calls : List (Call σ)) (text : String) (q : Query) :
    finishedOf (calls ++ [.finish text q out]) = finishedOf calls ++ [⟨text, q, out.state⟩] := by
  have hcall : (Call.finish text q out).finished? = some ⟨text, q, out.state⟩ := by
    rw [Call.finished?, h]
    rfl
  rw [finishedOf, List.filterMap_append, List.filterMap_cons_some hcall, List.filterMap_nil,
    finishedOf]

/-! ## Recorded uses -/

theorem perform_recorded (b : Backend σ) (visit : Visit) :
    b.recorded.perform visit = b.note visit := by
  cases visit <;> rfl

/-- A recorded build writes its visits down, and behind them its finish if it comes to one; it
    leaves the state that the build leaves. -/
theorem build_recorded (b : Backend σ) (q : Query) (s : σ) (calls : List (Call σ)) :
    ∃ visited, Performed b s visited
      ∧ ((b.recorded.build q (s, calls)).state
          = ((b.build q s).state, calls ++ visited.map Call.visit)
          ∧ (b.build q s).state = stateBehind s visited
        ∨ ∃ text, (b.recorded.build q (s, calls)).state
          = ((b.build q s).state, calls ++ visited.map Call.visit
            ++ [.finish text q (b.finish text q (stateBehind s visited))])
          ∧ (b.build q s).state = (b.finish text q (stateBehind s visited)).state) := by
  have htraces := predicate_traces b q
  obtain ⟨visited, -, hperformed, hstate⟩ := htraces.walks s calls
  have hplain := htraces.unnoticed s calls
  refine ⟨visited, hperformed, ?_⟩
  cases hpredicate : b.recorded.predicate q (s, calls) with
  | mk result t events =>
    rw [hpredicate] at hplain hstate
    have ht : t = (stateBehind s visited, calls ++ visited.map Call.visit) := hstate
    subst ht
    cases result with
    | error e =>
      rw [build_failed hpredicate, build_failed hplain]
      exact Or.inl ⟨rfl, rfl⟩
    | ok text =>
      rw [build_finished hpredicate, build_finished hplain]
      exact Or.inr ⟨text, rfl, rfl⟩

/-- Nobody notices that a backend in use keeps a log. -/
theorem use_recorded (b : Backend σ) (t : σ × List (Call σ)) (u : Use) :
    (b.recorded.use t u).1 = b.use t.1 u := by
  obtain ⟨s, calls⟩ := t
  cases u with
  | visit visit =>
    rw [use, perform_recorded]
    rfl
  | finish text q => rfl
  | build q =>
    -- the recorded build ends in one of two ways, with the state of the plain one in both
    obtain ⟨visited, -, ⟨hstate, -⟩ | ⟨text, hstate, -⟩⟩ := build_recorded b q s calls
    · rw [use, hstate]
      rfl
    · rw [use, hstate]
      rfl

theorem used_recorded (b : Backend σ) (t : σ × List (Call σ)) (uses : List Use) :
    (b.recorded.used t uses).1 = b.used t.1 uses :=
  (List.foldl_hom Prod.fst fun t u => (use_recorded b t u).symm).symm

/-! ## Steady backends -/

/-- Only a finish that succeeds changes the state. -/
structure Steady (b : Backend σ) : Prop where
  visit : ∀ visit s, (b.perform visit s).state = s
  finish : ∀ {text q s e}, (b.finish text q s).result = .error e →
    (b.finish text q s).state = s

theorem Steady.stateBehind_eq (h : b.Steady) {visited : List (Visited σ)}
    (hperformed : Performed b s visited) : stateBehind s visited = s := by
  induction visited with
  | nil => rfl
  | cons v rest ih =>
    have hv : v.out.state = s := (congrArg Outcome.state hperformed.1).trans (h.visit v.visit s)
    have hrest : Performed b s rest := hv ▸ hperformed.2
    show stateBehind v.out.state rest = s
    rw [hv]
    exact ih hrest

/-- The state of a backend in use is the one that the last finish in the log left, or the one at the
    start if none succeeded, and each finish in the log left what it leaves. -/
structure AtLastFinish (b : Backend σ) (start : σ) (t : σ × List (Call σ)) : Prop where
  last : t.1 = (finishedOf t.2).getLast?.elim start Finished.state
  made : ∀ x ∈ finishedOf t.2, ∃ s, (b.finish x.text x.query s).result = .ok ()
    ∧ (b.finish x.text x.query s).state = x.state

section AtLastFinish

variable {t : σ × List (Call σ)} {calls : List (Call σ)}

theorem AtLastFinish.eq_start (h : AtLastFinish b start t) (hnone : finishedOf t.2 = []) :
    t.1 = start := by
  rw [h.last, hnone]
  rfl

theorem AtLastFinish.eq_last (h : AtLastFinish b start t) {last : Finished σ}
    (hlast : last ∈ (finishedOf t.2).getLast?) : t.1 = last.state := by
  rw [h.last, Option.mem_def.mp hlast]
  rfl

/-- Visits in the log are no finishes. -/
theorem AtLastFinish.visits (h : AtLastFinish b start (s, calls)) (visited : List (Visited σ)) :
    AtLastFinish b start (s, calls ++ visited.map Call.visit) := by
  obtain ⟨hlast, hmade⟩ := h
  rw [← finishedOf_visits calls visited] at hlast hmade
  exact ⟨hlast, hmade⟩

theorem Steady.atLastFinish_finish (hb : b.Steady) (h : AtLastFinish b start (s, calls))
    (text : String) (q : Query) : AtLastFinish b start
      ((b.finish text q s).state, calls ++ [.finish text q (b.finish text q s)]) := by
  cases hresult : (b.finish text q s).result with
  | error e =>
    -- neither the state nor the finishes that count have changed
    have hcalls := finishedOf_failed hresult calls text q
    obtain ⟨hlast, hmade⟩ := h
    rw [← hcalls] at hlast hmade
    exact ⟨(hb.finish hresult).trans hlast, hmade⟩
  | ok done =>
    have hcalls := finishedOf_succeeded hresult calls text q
    constructor
    · show _ = (finishedOf (calls ++ _)).getLast?.elim start Finished.state
      rw [hcalls, List.getLast?_concat]
      rfl
    · show ∀ x ∈ finishedOf (calls ++ _), _
      rw [hcalls]
      exact List.forall_mem_append.mpr
        ⟨h.made, List.forall_mem_singleton.mpr ⟨s, hresult, rfl⟩⟩

/-- One use keeps the invariant. -/
theorem Steady.atLastFinish_use (hb : b.Steady) (t : σ × List (Call σ)) (u : Use)
    (h : AtLastFinish b start t) : AtLastFinish b start (b.recorded.use t u) := by
  obtain ⟨s, calls⟩ := t
  cases u with
  | visit visit =>
    rw [use, perform_recorded]
    show AtLastFinish b start
      ((b.perform visit s).state, calls ++ [Call.visit ⟨visit, b.perform visit s⟩])
    rw [hb.visit]
    exact h.visits [_]
  | finish text q => exact hb.atLastFinish_finish h text q
  | build q =>
    -- a build is visits, which change nothing, and at most one finish behind them
    obtain ⟨visited, hperformed, hbuild⟩ := build_recorded b q s calls
    have hvisited := h.visits visited
    rw [use]
    rcases hbuild with ⟨hstate, hkept⟩ | ⟨text, hstate, hfinish⟩
    · rw [hstate, hkept, hb.stateBehind_eq hperformed]
      exact hvisited
    · rw [hstate, hfinish, hb.stateBehind_eq hperformed]
      exact hb.atLastFinish_finish hvisited text q

/-- So does any number of uses. -/
theorem Steady.atLastFinish_used (hb : b.Steady) (start : σ) (uses : List Use) :
    AtLastFinish b start (b.recorded.used (start, []) uses) :=
  used_preserves hb.atLastFinish_use ⟨rfl, List.forall_mem_nil _⟩ uses

end AtLastFinish

end Backend

end StoreQuery
