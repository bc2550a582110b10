import Mathlib.Data.List.Forall2
import PipeGraph.Log.Logged

/-!
# Outcomes of checks and of logged computations

A chain of checks succeeds exactly when each of them does, and a traversal
succeeds exactly when it does so element by element.  These facts let a
successful run be taken apart without opening the monads it was written in.
-/

namespace PipeGraph

section Pairings

variable {α β : Type} {R : α → β → Prop} {elements : List α} {others : List β}

theorem exists_of_mem_forall₂ (related : List.Forall₂ R elements others)
    {element : α} (member : element ∈ elements) :
    ∃ other ∈ others, R element other := by
  induction related with
  | nil => simp at member
  | @cons first other _ _ firstRelated _ ih =>
      rcases List.mem_cons.mp member with rfl | later
      · exact ⟨other, by simp, firstRelated⟩
      · obtain ⟨laterOther, laterMember, laterRelated⟩ := ih later
        exact ⟨laterOther, by simp [laterMember], laterRelated⟩

theorem exists_of_mem_forall₂_right (related : List.Forall₂ R elements others)
    {other : β} (member : other ∈ others) :
    ∃ element ∈ elements, R element other :=
  exists_of_mem_forall₂ (List.Forall₂.flip (R := flip R) related) member

theorem exists_sublist_of_forall₂ {fewer : List α}
    (sublist : fewer.Sublist elements)
    (related : List.Forall₂ R elements others) :
    ∃ fewerOthers, fewerOthers.Sublist others ∧
      List.Forall₂ R fewer fewerOthers := by
  induction sublist generalizing others with
  | slnil => exact ⟨[], List.nil_sublist _, .nil⟩
  | cons element _ ih =>
      obtain _ | ⟨_, laterRelated⟩ := related
      obtain ⟨fewerOthers, fewerSublist, fewerRelated⟩ := ih laterRelated
      exact ⟨fewerOthers, fewerSublist.cons _, fewerRelated⟩
  | cons_cons element _ ih =>
      obtain _ | ⟨firstRelated, laterRelated⟩ := related
      obtain ⟨fewerOthers, fewerSublist, fewerRelated⟩ := ih laterRelated
      exact ⟨_ :: fewerOthers, fewerSublist.cons_cons _,
        .cons firstRelated fewerRelated⟩

theorem rel_getElem?_of_forall₂ (related : List.Forall₂ R elements others)
    (index : Nat) : Option.Rel R elements[index]? others[index]? := by
  induction related generalizing index with
  | nil => exact .none
  | cons firstRelated _ ih =>
      cases index with
      | zero => exact .some firstRelated
      | succ index => exact ih index

end Pairings

section Checks

variable {ε ε₁ ε₂ α β : Type}

theorem ok_bind (result : α) (next : α → Except ε β) :
    (.ok result >>= next) = next result :=
  rfl

/-- A check that goes on after another one succeeds when both do. -/
theorem bind_eq_ok_iff {first : Except ε α} {next : α → Except ε β}
    {result : β} :
    first >>= next = .ok result ↔
      ∃ middle, first = .ok middle ∧ next middle = .ok result := by
  cases first with
  | error error => simp [bind, Except.bind]
  | ok middle => simp [bind, Except.bind]

/-- It fails when the first one does, or when the second does after the first
has succeeded. -/
theorem bind_eq_error_iff {first : Except ε α} {next : α → Except ε β}
    {error : ε} :
    first >>= next = .error error ↔
      first = .error error ∨
        ∃ middle, first = .ok middle ∧ next middle = .error error := by
  cases first with
  | error other => simp [bind, Except.bind]
  | ok middle => simp [bind, Except.bind]

/-- Renaming errors changes no success. -/
@[simp]
theorem mapError_eq_ok_iff {convert : ε₁ → ε₂} {check : Except ε₁ α}
    {result : α} :
    check.mapError convert = .ok result ↔ check = .ok result := by
  cases check <;> simp [Except.mapError]

theorem mapError_eq_error_iff {convert : ε₁ → ε₂} {check : Except ε₁ α}
    {error : ε₂} :
    check.mapError convert = .error error ↔
      ∃ cause, check = .error cause ∧ convert cause = error := by
  cases check <;> simp [Except.mapError]

/-- A run through a list fails where the first step does that fails. -/
theorem foldlM_eq_error_iff {step : β → α → Except ε β} {elements : List α}
    {start : β} {error : ε} :
    elements.foldlM step start = .error error ↔
      ∃ before element after state, elements = before ++ element :: after ∧
        before.foldlM step start = .ok state ∧
        step state element = .error error := by
  constructor
  · intro failed
    induction elements generalizing start with
    | nil => cases failed
    | cons element elements ih =>
        rw [List.foldlM_cons, bind_eq_error_iff] at failed
        rcases failed with here | ⟨next, stepped, later⟩
        · exact ⟨[], element, elements, start, rfl, rfl, here⟩
        · obtain ⟨before, faulty, after, state, rfl, ran, faultyFailed⟩ :=
            ih later
          refine ⟨element :: before, faulty, after, state, rfl, ?_,
            faultyFailed⟩
          rw [List.foldlM_cons, stepped, ok_bind]
          exact ran
  · rintro ⟨before, element, after, state, rfl, ran, failed⟩
    rw [List.foldlM_append, ran, ok_bind, List.foldlM_cons, failed]
    rfl

/-- A stricter check ends as the lenient one does, or in one of its own
refusals. -/
inductive Stricter (refusal : ε → Prop) (lenient : Except ε α) :
    Except ε α → Prop
  | same : Stricter refusal lenient lenient
  | refused {error} : refusal error →
      Stricter refusal lenient (.error error)

theorem Stricter.eq_or_exists {refusal : ε → Prop}
    {lenient strict : Except ε α} (stricter : Stricter refusal lenient strict) :
    strict = lenient ∨ ∃ error, refusal error ∧ strict = .error error := by
  cases stricter with
  | same => exact .inl rfl
  | refused isRefusal => exact .inr ⟨_, isRefusal, rfl⟩

theorem Stricter.bind {refusal : ε → Prop} {first strictFirst : Except ε α}
    {next strictNext : α → Except ε β}
    (firsts : Stricter refusal first strictFirst)
    (nexts : ∀ result, first = .ok result →
      Stricter refusal (next result) (strictNext result)) :
    Stricter refusal (first >>= next) (strictFirst >>= strictNext) := by
  cases firsts with
  | same =>
      cases ended : first with
      | error error => exact .same
      | ok result => exact nexts result ended
  | refused isRefusal => exact .refused isRefusal

theorem Stricter.foldlM {refusal : ε → Prop}
    {step strictStep : β → α → Except ε β} {elements : List α}
    (steps : ∀ element ∈ elements, ∀ state,
      Stricter refusal (step state element) (strictStep state element))
    (start : β) :
    Stricter refusal (elements.foldlM step start)
      (elements.foldlM strictStep start) := by
  induction elements generalizing start with
  | nil => exact .same
  | cons element elements ih =>
      simp only [List.forall_mem_cons] at steps
      rw [List.foldlM_cons, List.foldlM_cons]
      exact (steps.1 start).bind fun state _ => ih steps.2 state

theorem Stricter.mono {refusal otherRefusal : ε → Prop}
    {lenient strict : Except ε α} (stricter : Stricter refusal lenient strict)
    (weaken : ∀ error, refusal error → otherRefusal error) :
    Stricter otherRefusal lenient strict := by
  cases stricter with
  | same => exact .same
  | refused isRefusal => exact .refused (weaken _ isRefusal)

end Checks

namespace Logged

variable {ε α β : Type}

@[simp]
theorem outcome_pure (result : α) :
    (pure result : Logged ε α).outcome = .ok result :=
  rfl

@[simp]
theorem outcome_emit (event : Event) :
    (emit event : Logged ε Unit).outcome = .ok () :=
  rfl

@[simp]
theorem outcome_fail (error : ε) :
    (fail error : Logged ε α).outcome = .error error :=
  rfl

@[simp]
theorem outcome_ofExcept (outcome : Except ε α) :
    (ofExcept outcome).outcome = outcome :=
  rfl

theorem ofExcept_ok (result : α) :
    (ofExcept (.ok result) : Logged ε α) = pure result :=
  rfl

theorem outcome_bind (first : Logged ε α) (next : α → Logged ε β) :
    (first >>= next).outcome =
      first.outcome >>= fun result => (next result).outcome := by
  rw [bind_eq_andThen]
  unfold andThen
  cases first.outcome <;> rfl

/-- A sequence of computations succeeds when both do. -/
theorem outcome_bind_eq_ok_iff {first : Logged ε α} {next : α → Logged ε β}
    {result : β} :
    (first >>= next).outcome = .ok result ↔
      ∃ middle, first.outcome = .ok middle ∧
        (next middle).outcome = .ok result := by
  rw [outcome_bind, bind_eq_ok_iff]

/-- A sequence of computations fails when the first does, or when the second
does after the first has succeeded. -/
theorem outcome_bind_eq_error_iff {first : Logged ε α}
    {next : α → Logged ε β} {error : ε} :
    (first >>= next).outcome = .error error ↔
      first.outcome = .error error ∨
        ∃ middle, first.outcome = .ok middle ∧
          (next middle).outcome = .error error := by
  rw [outcome_bind, bind_eq_error_iff]

/-- A traversal succeeds when every element does. -/
theorem outcome_traverse_eq_ok_iff {step : α → Logged ε β}
    {elements : List α} {results : List β} :
    (traverse step elements).outcome = .ok results ↔
      List.Forall₂ (fun element result => (step element).outcome = .ok result)
        elements results := by
  induction elements generalizing results with
  | nil => simp [traverse, eq_comm]
  | cons element elements ih =>
      simp only [traverse, outcome_bind_eq_ok_iff, outcome_pure, ih]
      constructor
      · rintro ⟨result, first, others, rest, done⟩
        cases done
        exact .cons first rest
      · rintro (_ | ⟨first, rest⟩)
        exact ⟨_, first, _, rest, rfl⟩

/-- A traversal fails where some element does. -/
theorem exists_mem_of_outcome_traverse_eq_error {step : α → Logged ε β}
    {elements : List α} {error : ε}
    (failed : (traverse step elements).outcome = .error error) :
    ∃ element ∈ elements, (step element).outcome = .error error := by
  induction elements with
  | nil => simp [traverse] at failed
  | cons element elements ih =>
      simp only [traverse, outcome_bind_eq_error_iff, outcome_pure] at failed
      rcases failed with atElement | ⟨_, _, atOthers | ⟨_, _, never⟩⟩
      · exact ⟨element, by simp, atElement⟩
      · obtain ⟨other, member, otherFailed⟩ := ih atOthers
        exact ⟨other, by simp [member], otherFailed⟩
      · cases never

/-- Only what a step does on the elements themselves matters. -/
theorem traverse_congr {step otherStep : α → Logged ε β} {elements : List α}
    (agree : ∀ element ∈ elements, step element = otherStep element) :
    traverse step elements = traverse otherStep elements := by
  induction elements with
  | nil => rfl
  | cons element elements ih =>
      simp only [List.forall_mem_cons] at agree
      simp only [traverse, agree.1, ih agree.2]

/-- An optional computation succeeds when the element, if there is one,
does. -/
theorem outcome_traverseOption_eq_ok_iff {step : α → Logged ε β}
    {element : Option α} {result : Option β} :
    (traverseOption step element).outcome = .ok result ↔
      Option.Rel (fun element result => (step element).outcome = .ok result)
        element result := by
  cases element with
  | none =>
      constructor
      · intro done
        cases done
        exact .none
      · rintro (_ | _)
        rfl
  | some element =>
      simp only [traverseOption, outcome_bind_eq_ok_iff, outcome_pure]
      constructor
      · rintro ⟨value, ran, done⟩
        cases done
        exact .some ran
      · rintro (ran | _)
        exact ⟨_, ran, rfl⟩

theorem exists_of_outcome_traverseOption_eq_error {step : α → Logged ε β}
    {element : Option α} {error : ε}
    (failed : (traverseOption step element).outcome = .error error) :
    ∃ value, element = some value ∧ (step value).outcome = .error error := by
  cases element with
  | none => simp [traverseOption] at failed
  | some value =>
      simp only [traverseOption, outcome_bind_eq_error_iff, outcome_pure,
        reduceCtorEq, and_false, exists_false, or_false] at failed
      exact ⟨value, rfl, failed⟩

theorem traverseOption_congr {step otherStep : α → Logged ε β}
    {element : Option α}
    (agree : ∀ value, element = some value → step value = otherStep value) :
    traverseOption step element = traverseOption otherStep element := by
  cases element with
  | none => rfl
  | some value => simp only [traverseOption, agree value rfl]

section Stricter

variable {refusal : ε → Prop}

theorem stricter_bind {first strictFirst : Logged ε α}
    {next strictNext : α → Logged ε β}
    (firsts : Stricter refusal first.outcome strictFirst.outcome)
    (nexts : ∀ result, first.outcome = .ok result →
      Stricter refusal (next result).outcome (strictNext result).outcome) :
    Stricter refusal (first >>= next).outcome
      (strictFirst >>= strictNext).outcome := by
  rw [outcome_bind, outcome_bind]
  exact firsts.bind nexts

theorem stricter_traverse {step strictStep : α → Logged ε β}
    {elements : List α}
    (steps : ∀ element ∈ elements,
      Stricter refusal (step element).outcome (strictStep element).outcome) :
    Stricter refusal (traverse step elements).outcome
      (traverse strictStep elements).outcome := by
  induction elements with
  | nil => exact .same
  | cons element elements ih =>
      simp only [List.forall_mem_cons] at steps
      refine stricter_bind steps.1 fun result _ => ?_
      exact stricter_bind (ih steps.2) fun results _ => .same

theorem stricter_traverseOption {step strictStep : α → Logged ε β}
    {element : Option α}
    (steps : ∀ value, element = some value →
      Stricter refusal (step value).outcome (strictStep value).outcome) :
    Stricter refusal (traverseOption step element).outcome
      (traverseOption strictStep element).outcome := by
  cases element with
  | none => exact .same
  | some value => exact stricter_bind (steps value rfl) fun _ _ => .same

end Stricter

/-- The error that a computation ends in, if it ends in one. -/
def error? (computation : Logged ε α) : Option ε :=
  match computation.outcome with
  | .error error => some error
  | .ok _ => none

theorem error?_eq_some_iff {computation : Logged ε α} {error : ε} :
    computation.error? = some error ↔ computation.outcome = .error error := by
  unfold error?
  cases computation.outcome <;> simp

/-- Where the second computation fails in the same way after every result of
the first, the first error of a sequence is the one of the first computation or
else that of the second. -/
theorem error?_bind {first : Logged ε α} {next : α → Logged ε β}
    {later : Option ε} (constant : ∀ result, (next result).error? = later) :
    (first >>= next).error? = first.error?.or later := by
  unfold error? at constant ⊢
  rw [outcome_bind]
  cases first.outcome with
  | error error => rfl
  | ok result => exact constant result

/-- What is done with a result after the last check cannot fail. -/
theorem error?_bind_pure (first : Logged ε α) (finish : α → β) :
    (first >>= fun result => pure (finish result)).error? = first.error? := by
  have never : ∀ result, (pure (finish result) : Logged ε β).error? = none :=
    fun _ => rfl
  rw [error?_bind never, Option.or_none]

theorem error?_traverse (step : α → Logged ε β) (elements : List α) :
    (traverse step elements).error? =
      elements.findSome? fun element => (step element).error? := by
  induction elements with
  | nil => rfl
  | cons element elements ih =>
      have othersError (result : β) :
          (traverse step elements >>= fun results =>
              (pure (result :: results) : Logged ε (List β))).error? =
            elements.findSome? fun element => (step element).error? := by
        rw [error?_bind_pure, ih]
      rw [traverse, error?_bind othersError, List.findSome?_cons]
      cases (step element).error? <;> rfl

theorem error?_traverseOption (step : α → Logged ε β) (element : Option α) :
    (traverseOption step element).error? =
      element.toList.findSome? fun element => (step element).error? := by
  cases element with
  | none => rfl
  | some value =>
      rw [traverseOption, error?_bind_pure, Option.toList_some,
        List.findSome?_singleton]

end Logged

end PipeGraph
