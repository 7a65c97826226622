import Gateway.Failure.Rejection

/-!
# The outcome of a request

A request ends once. Several parties may try to end it; the first one wins and the outcome never changes afterwards.
A party that waits for a failure is woken by a signal, which is given after the failure was recorded.
-/

namespace Gateway

/-- How a request ended. -/
inductive Outcome where
  | completed
  | failed (failure : Rejection)
deriving Repr, DecidableEq

/-- The outcome of a request once it has one, and whether those who wait for a failure were signalled. -/
structure Guard where
  outcome : Option Outcome
  signalled : Bool
deriving Repr, DecidableEq, Inhabited

namespace Guard

/-- No outcome yet. -/
def unset : Guard := ⟨none, false⟩

/-- Records an outcome unless there is one. The answer says whether this call recorded it. -/
def record (g : Guard) (o : Outcome) : Bool × Guard :=
  match g.outcome with
  | none => (true, { g with outcome := some o })
  | some _ => (false, g)

/-- Signals those who wait for a failure. -/
def signal (g : Guard) : Guard := { g with signalled := true }

/-- Ends the request well. -/
def complete (g : Guard) : Bool × Guard := g.record .completed

/-- Ends the request with a failure, and signals it if this call recorded it. -/
def fail (g : Guard) (failure : Rejection) : Bool × Guard :=
  match g.record (.failed failure) with
  | (true, g) => (true, g.signal)
  | (false, g) => (false, g)

/-- The recorded failure. -/
def failure (g : Guard) : Option Rejection :=
  match g.outcome with
  | some (.failed failure) => some failure
  | _ => none

/-- What a party that waits for a failure has got so far. -/
def awaitFailure (g : Guard) : Option Rejection := if g.signalled then g.failure else none

theorem awaitFailure_of_unset {g : Guard} (unset : g.outcome = none) : g.awaitFailure = none := by
  simp [awaitFailure, failure, unset]

/-- Whether the request ended. -/
def isTerminated (g : Guard) : Bool := g.outcome.isSome

theorem failure_eq_some_iff {g : Guard} {f : Rejection} :
    g.failure = some f ↔ g.outcome = some (.failed f) := by
  obtain ⟨outcome, signalled⟩ := g
  rcases outcome with _ | _ | f' <;> simp [failure]

theorem failure_congr {g h : Guard} (same : g.outcome = h.outcome) : g.failure = h.failure := by
  unfold failure
  rw [same]

theorem record_of_set {g : Guard} {o : Outcome} (h : g.outcome = some o) (o' : Outcome) :
    g.record o' = (false, g) := by
  simp [record, h]

theorem complete_of_set {g : Guard} {o : Outcome} (h : g.outcome = some o) : g.complete = (false, g) :=
  record_of_set h _

theorem complete_of_unset {g : Guard} (h : g.outcome = none) :
    g.complete = (true, ⟨some .completed, g.signalled⟩) := by
  simp [complete, record, h]

theorem fail_of_set {g : Guard} {o : Outcome} (h : g.outcome = some o) (f : Rejection) :
    g.fail f = (false, g) := by
  simp [fail, record_of_set h]

theorem fail_of_unset {g : Guard} (h : g.outcome = none) (f : Rejection) :
    g.fail f = (true, ⟨some (.failed f), true⟩) := by
  simp [fail, record, h, signal]

/-- An outcome stays, whoever fails the request afterwards. -/
theorem outcome_fail (g : Guard) (f : Rejection) : (g.fail f).2.outcome = some (g.outcome.getD (.failed f)) := by
  cases h : g.outcome with
  | none => simp [fail_of_unset h]
  | some o => simp [fail_of_set h, h]

/-- What ended, and not well, has failed. -/
theorem exists_failure {g : Guard} (h : g.outcome ≠ some .completed) (ended : g.isTerminated = true) :
    ∃ f, g.outcome = some (.failed f) := by
  rcases ho : g.outcome with _ | _ | f
  · simp [isTerminated, ho] at ended
  · exact absurd ho h
  · exact ⟨f, rfl⟩

/-- Whoever fails a request that has not ended well, it has failed then. -/
theorem exists_failure_fail {g : Guard} (h : g.outcome ≠ some .completed) (f : Rejection) :
    ∃ failure, (g.fail f).2.outcome = some (.failed failure) := by
  rw [outcome_fail]
  rcases ho : g.outcome with _ | _ | failure
  · exact ⟨f, rfl⟩
  · exact absurd ho h
  · exact ⟨failure, rfl⟩

/-- Those who wait for a failure were signalled if and only if there is one. -/
def WellSignalled (g : Guard) : Prop := g.signalled = g.failure.isSome

theorem WellSignalled.fail {g : Guard} (h : g.WellSignalled) (f : Rejection) : (g.fail f).2.WellSignalled := by
  cases ho : g.outcome with
  | none => rw [fail_of_unset ho]; rfl
  | some o => rwa [fail_of_set ho]

theorem WellSignalled.complete {g : Guard} (h : g.WellSignalled) : g.complete.2.WellSignalled := by
  cases ho : g.outcome with
  | none =>
    have hs : g.signalled = false := by rw [h]; simp [failure, ho]
    rw [complete_of_unset ho, hs]; rfl
  | some o => rwa [complete_of_set ho]

theorem WellSignalled.awaitFailure {g : Guard} (h : g.WellSignalled) : g.awaitFailure = g.failure := by
  unfold Guard.awaitFailure
  rw [h]
  cases g.failure <;> rfl

theorem WellSignalled.awaitFailure_eq_some_iff {g : Guard} (h : g.WellSignalled) {f : Rejection} :
    g.awaitFailure = some f ↔ g.outcome = some (.failed f) := by
  rw [h.awaitFailure, failure_eq_some_iff]

end Guard

end Gateway
