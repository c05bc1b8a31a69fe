import TwinQuery.Session.Runner

/-!
# Running actions of a session

An action takes a session to how it ended and to what the session is then. These lemmas run the
building blocks of actions: one action after another, the outcome of an action, notes, and the
status of a runner.
-/

namespace TwinQuery

variable {ε ε' σ α β : Type}

namespace SessionM

section Sequence

variable {action : SessionT ε σ α} {next : α → SessionT ε σ β} {session after : Session σ}

/-- What follows a failure is not carried out. -/
theorem bind_of_error {failure : ε} (haction : action session = (.error failure, after)) :
    (action >>= next) session = (.error failure, after) := by
  change (ExceptT.bindCont next (action session).1) (action session).2 = _
  rw [haction]
  rfl

/-- What follows a value goes on from the session that the first action left. -/
theorem bind_of_ok {value : α} (haction : action session = (.ok value, after)) :
    (action >>= next) session = next value after := by
  change (ExceptT.bindCont next (action session).1) (action session).2 = _
  rw [haction]
  rfl

end Sequence

theorem outcome_apply (action : SessionT ε σ α) (session : Session σ) :
    (outcome action : SessionT ε' σ (Except ε α)) session =
      (.ok (action session).1, (action session).2) := rfl

/-- Where what comes after an action has no part in the session, the session is left as the action
left it. -/
theorem bind_apply {action : SessionT ε σ α} {next : α → SessionT ε σ β} (result : α → Except ε β)
    (hnext : ∀ value after, next value after = (result value, after)) (session : Session σ) :
    (action >>= next) session = ((action session).1.bind result, (action session).2) := by
  cases haction : action session with
  | mk ended after =>
      cases ended with
      | ok value => exact (bind_of_ok haction).trans (hnext value after)
      | error failure => exact bind_of_error haction

theorem map_apply (action : SessionT ε σ α) (next : α → β) (session : Session σ) :
    (do return next (← action) : SessionT ε σ β) session =
      ((action session).1.map next, (action session).2) := by
  have hmap : ∀ ended : Except ε α,
      (ended.bind fun value => .ok (next value)) = ended.map next := by
    intro ended
    cases ended with
    | ok value => rfl
    | error failure => rfl
  rw [← hmap]
  exact bind_apply (fun value => .ok (next value)) (fun _ _ => rfl) session

/-- An action whose value is left out ends as it does with it. -/
theorem discard_apply (action : SessionT ε σ α) (session : Session σ) :
    (do let _ ← action : SessionT ε σ Unit) session =
      ((action session).1.map fun _ => (), (action session).2) :=
  map_apply action (fun _ => ()) session

/-- What has no part in the session only ends as it does. -/
theorem lift_apply (result : Except ε α) (session : Session σ) :
    (liftM result : SessionT ε σ α) session = (result, session) := rfl

end SessionM

end TwinQuery
