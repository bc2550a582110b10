import PipeGraph.Proofs.Outcome

/-!
# Events of logged computations

The log of a chain of computations is put together from the logs of its parts,
up to the first part that fails.  Where only the log and the failure matter,
results are forgotten, and a traversal becomes a plain sequence of steps: such
sequences can be cut into shorter ones and joined again.
-/

namespace PipeGraph

namespace Logged

variable {ε α β : Type}

/-- After a success the events of what follows are added. -/
theorem events_bind_of_ok {first : Logged ε α} {next : α → Logged ε β}
    {result : α} (ended : first.outcome = .ok result) :
    (first >>= next).events = first.events ++ (next result).events := by
  rw [bind_eq_andThen]
  simp only [andThen, ended]

/-- After a failure nothing is added. -/
theorem events_bind_of_error {first : Logged ε α} {next : α → Logged ε β}
    {error : ε} (ended : first.outcome = .error error) :
    (first >>= next).events = first.events := by
  rw [bind_eq_andThen]
  simp only [andThen, ended]

/-! ## Computations without their results -/

/-- A computation without its result. -/
def forget (computation : Logged ε α) : Logged ε Unit :=
  computation >>= fun _ => pure ()

theorem events_forget (computation : Logged ε α) :
    computation.forget.events = computation.events := by
  cases ended : computation.outcome with
  | error error => exact events_bind_of_error ended
  | ok result =>
      rw [forget, events_bind_of_ok ended]
      exact List.append_nil _

/-- What is done with a result in the end does not matter without it. -/
theorem forget_bind_pure (first : Logged ε α) (finish : α → β) :
    (first >>= fun result => pure (finish result)).forget = first.forget := by
  simp only [forget, bind_assoc, pure_bind]

/-- If what follows is the same after every result, that result need not be
remembered. -/
theorem forget_bind {first : Logged ε α} {next : α → Logged ε β}
    {later : Logged ε Unit}
    (constant : ∀ result, (next result).forget = later) :
    (first >>= next).forget = first.forget >>= fun _ => later := by
  simp only [forget] at constant ⊢
  simp only [bind_assoc, pure_bind, constant]

/-- Take a step for every element of a list, in order, up to the first
failure. -/
def runAll (step : α → Logged ε Unit) : List α → Logged ε Unit
  | [] => pure ()
  | element :: others => step element >>= fun _ => runAll step others

theorem forget_traverse (step : α → Logged ε β) (elements : List α) :
    (traverse step elements).forget =
      runAll (fun element => (step element).forget) elements := by
  induction elements with
  | nil => rfl
  | cons element elements ih =>
      rw [traverse, runAll]
      refine forget_bind fun result => ?_
      rw [← ih]
      exact forget_bind_pure _ _

section Runs

variable {step : α → Logged ε Unit} {report : α → List Event}

/-- If every step succeeds, their events stand one after the other. -/
theorem runAll_of_ok {elements : List α}
    (succeed : ∀ element ∈ elements, step element = ⟨report element, .ok ()⟩) :
    runAll step elements = ⟨elements.flatMap report, .ok ()⟩ := by
  induction elements with
  | nil => rfl
  | cons element elements ih =>
      simp only [List.forall_mem_cons] at succeed
      rw [runAll, ih succeed.2, succeed.1, List.flatMap_cons]
      rfl

end Runs

/-- A traversal that only reports has reported everything. -/
theorem events_traverse_emit (events : List Event) :
    (traverse emit events : Logged ε (List Unit)).events = events := by
  have emitted : ∀ event ∈ events,
      (emit event : Logged ε Unit).forget = ⟨[event], .ok ()⟩ :=
    fun _ _ => rfl
  rw [← events_forget, forget_traverse, runAll_of_ok emitted]
  exact List.flatMap_singleton' events

end Logged

end PipeGraph
