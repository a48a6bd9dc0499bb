/-! # Acts — steps that may fail, change a state and leave events

    An act takes a state to an outcome: a result or an error, the state it
    leaves and the events it emits.  An act that fails still leaves its
    state and its events, so a caller sees what was done before the
    failure. -/

namespace StoreQuery

/-- How much an event matters. -/
inductive Level where
  | debug
  | info
  | warn
deriving DecidableEq

/-- The name of a level. -/
def Level.name : Level → String
  | .debug => "DEBUG"
  | .info => "INFO"
  | .warn => "WARN"

/-- A line of the log. -/
structure Event where
  level : Level
  text : String
deriving DecidableEq

/-- What an act comes to. -/
structure Outcome (ε σ α : Type) where
  result : Except ε α
  state : σ
  events : List Event

/-- A step that may fail, change a state and leave events. -/
def Act (ε σ α : Type) := σ → Outcome ε σ α

namespace Act

variable {ε ε' σ τ α β : Type}

/-- The act that gives a value and does nothing. -/
def pure (x : α) : Act ε σ α := fun s => ⟨.ok x, s, []⟩

/-- One act after another; the second one is left out if the first one fails. -/
def bind (act : Act ε σ α) (next : α → Act ε σ β) : Act ε σ β := fun s =>
  match act s with
  | ⟨.ok x, s', events⟩ =>
      let last := next x s'
      ⟨last.result, last.state, events ++ last.events⟩
  | ⟨.error e, s', events⟩ => ⟨.error e, s', events⟩

instance : Monad (Act ε σ) where
  pure := pure
  bind := bind

/-- The act that fails and does nothing else. -/
def fail (e : ε) : Act ε σ α := fun s => ⟨.error e, s, []⟩

/-- The act with the given result. -/
def ofExcept (result : Except ε α) : Act ε σ α := fun s => ⟨result, s, []⟩

/-- Leaves an event. -/
def emit (level : Level) (text : String) : Act ε σ Unit := fun s => ⟨.ok (), s, [⟨level, text⟩]⟩

/-- The present state. -/
def get : Act ε σ σ := fun s => ⟨.ok s, s, []⟩

/-- Puts another state in place. -/
def set (s : σ) : Act ε σ Unit := fun _ => ⟨.ok (), s, []⟩

/-- The same act with its error seen as another one. -/
def mapError (f : ε → ε') (act : Act ε σ α) : Act ε' σ α := fun s =>
  let out := act s
  ⟨out.result.mapError f, out.state, out.events⟩

/-- Runs an act on a state of its own and gives the state that it leaves. -/
def within (start : τ) (act : Act ε τ Unit) : Act ε σ τ := fun s =>
  let out := act start
  ⟨out.result.map fun _ => out.state, s, out.events⟩

/-- Runs an act on a part of the state. -/
def focus (part : τ → σ) (put : σ → τ → τ) (act : Act ε σ α) : Act ε τ α := fun t =>
  let out := act (part t)
  ⟨out.result, put out.state t, out.events⟩

end Act

end StoreQuery
