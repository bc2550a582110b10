import PipeGraph.Log.Event

/-!
# Computations that keep a log

A logged computation ends in a result or an error, and has the events that were
reported up to that point.  Events reported before a failure are not lost.
-/

namespace PipeGraph

/-- The events of a computation and how it ended. -/
structure Logged (ε α : Type) where
  events : List Event
  outcome : Except ε α

namespace Logged

variable {ε ε₁ ε₂ α β : Type}

/-- Report an event. -/
def emit (event : Event) : Logged ε Unit := ⟨[event], .ok ()⟩

/-- End with an error. -/
def fail (error : ε) : Logged ε α := ⟨[], .error error⟩

/-- Report nothing and end as given. -/
def ofExcept (outcome : Except ε α) : Logged ε α := ⟨[], outcome⟩

/-- Go on with the result of a computation, unless it failed. -/
def andThen (first : Logged ε α) (next : α → Logged ε β) : Logged ε β :=
  match first.outcome with
  | .error error => ⟨first.events, .error error⟩
  | .ok result =>
      let second := next result
      ⟨first.events ++ second.events, second.outcome⟩

instance : Monad (Logged ε) where
  pure result := ⟨[], .ok result⟩
  bind := andThen

/-- Sequencing in the monad is `andThen`. -/
theorem bind_eq_andThen (first : Logged ε α) (next : α → Logged ε β) :
    first >>= next = first.andThen next :=
  rfl

/-- Going on with the result as it is changes nothing. -/
theorem andThen_pure (computation : Logged ε α) :
    computation.andThen pure = computation := by
  cases computation with
  | mk events outcome => cases outcome <;> simp [andThen, pure]

/-- How a chain of computations is grouped does not matter. -/
theorem andThen_assoc {γ : Type} (first : Logged ε α)
    (second : α → Logged ε β) (third : β → Logged ε γ) :
    (first.andThen second).andThen third =
      first.andThen fun result => (second result).andThen third := by
  cases first with
  | mk events outcome =>
      cases outcome with
      | error error => rfl
      | ok result =>
          simp only [andThen]
          split <;> simp

instance : LawfulMonad (Logged ε) :=
  LawfulMonad.mk' (Logged ε) (fun computation => andThen_pure computation)
    (fun _ _ => rfl) andThen_assoc

/-- Run a computation for every element of a list, in order, up to the first
failure. -/
def traverse (step : α → Logged ε β) : List α → Logged ε (List β)
  | [] => pure []
  | element :: others => do
      let result ← step element
      let results ← traverse step others
      return result :: results

/-- Run a computation for the element that there may be. -/
def traverseOption (step : α → Logged ε β) :
    Option α → Logged ε (Option β)
  | none => pure none
  | some element => do
      let result ← step element
      return some result

/-- Report one more event if the computation fails. -/
def reportFailure (report : ε → Event) (computation : Logged ε α) :
    Logged ε α :=
  match computation.outcome with
  | .ok _ => computation
  | .error error =>
      ⟨computation.events ++ [report error], computation.outcome⟩

/-- Turn the error of a computation into another one. -/
def mapError (convert : ε₁ → ε₂) (computation : Logged ε₁ α) :
    Logged ε₂ α :=
  ⟨computation.events, computation.outcome.mapError convert⟩

end Logged

end PipeGraph
