import StoreQuery.Act

/-! # Sequences — what a sequence of steps comes to

    The lemmas that take a sequence apart at its first step, for steps that
    give a result only and for acts.  Proofs about a longer sequence apply
    them step by step and unfold nothing. -/

namespace StoreQuery

/-- A sequence gives a result when its first step gives one from which the rest gives it. -/
theorem bind_eq_ok_iff {ε α β : Type} {x : Except ε α} {f : α → Except ε β} {b : β} :
    (x >>= f) = .ok b ↔ ∃ a, x = .ok a ∧ f a = .ok b := by
  constructor
  · intro h
    cases x with
    | error e => exact nomatch h
    | ok a => exact ⟨a, rfl, h⟩
  · rintro ⟨a, rfl, h⟩
    exact h

/-- A result seen through a function comes from a result. -/
theorem map_eq_ok_iff {ε α β : Type} {x : Except ε α} {f : α → β} {b : β} :
    x.map f = .ok b ↔ ∃ a, x = .ok a ∧ f a = b := by
  cases x with
  | error e => simp [Except.map]
  | ok a => simp [Except.map]

namespace Act

variable {ε σ α β : Type} {act : Act ε σ α} {next : α → Act ε σ β} {s s' : σ} {x : α}
  {e : ε} {events : List Event}

@[simp] theorem pure_run (x : α) (s : σ) : (Pure.pure x : Act ε σ α) s = ⟨.ok x, s, []⟩ := rfl

@[simp] theorem ofExcept_run (result : Except ε α) (s : σ) :
    (ofExcept result : Act ε σ α) s = ⟨result, s, []⟩ := rfl

@[simp] theorem get_run (s : σ) : (get : Act ε σ σ) s = ⟨.ok s, s, []⟩ := rfl

@[simp] theorem emit_run (level : Level) (text : String) (s : σ) :
    (emit level text : Act ε σ Unit) s = ⟨.ok (), s, [⟨level, text⟩]⟩ := rfl

/-- Behind a step that gives a result the rest runs on it, and their events are joined. -/
theorem bind_ok (h : act s = ⟨.ok x, s', events⟩) :
    (act >>= next) s =
      ⟨(next x s').result, (next x s').state, events ++ (next x s').events⟩ := by
  show Act.bind act next s = _
  rw [Act.bind, h]

/-- A step that fails ends a sequence. -/
theorem bind_error (h : act s = ⟨.error e, s', events⟩) :
    (act >>= next) s = ⟨.error e, s', events⟩ := by
  show Act.bind act next s = _
  rw [Act.bind, h]

/-- A step that gives a result and leaves no event can be taken off the front of a sequence. -/
theorem bind_ok_silent (h : act s = ⟨.ok x, s', []⟩) : (act >>= next) s = next x s' :=
  bind_ok h

/-- Behind a step that either refuses or gives a value the rest runs unless it refused. -/
theorem bind_elim {refusal : Option ε} (h : act s = ⟨refusal.elim (.ok x) .error, s', []⟩) :
    (act >>= next) s = refusal.elim (next x s') fun e => ⟨.error e, s', []⟩ := by
  cases refusal with
  | none => exact bind_ok_silent h
  | some e => exact bind_error h

/-- Seeing errors as other ones changes no result. -/
theorem mapError_result_ok {ε' : Type} {f : ε → ε'} :
    (act.mapError f s).result = .ok x ↔ (act s).result = .ok x := by
  show (act s).result.mapError f = .ok x ↔ _
  cases (act s).result with
  | error e => exact iff_of_false (fun h => nomatch h) fun h => nomatch h
  | ok y =>
    show Except.ok y = .ok x ↔ Except.ok y = .ok x
    rw [Except.ok.injEq, Except.ok.injEq]

end Act

end StoreQuery
