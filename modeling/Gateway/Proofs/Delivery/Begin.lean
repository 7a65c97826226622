import Gateway.Proofs.Outcome.Sound

/-!
# How a relay begins

Only the handler begins a relay, and only for a response of the backend whose body is not over. It holds the reading end
of the pipe from then on, until it returns the head. `Step.relay_begins` says what the exchange is then.
-/

namespace Gateway

namespace Exchange

variable {x y : Exchange}

theorem relay_reject (x : Exchange) (failure : Rejection) : (x.reject failure).relay = x.relay := rfl

theorem relay_failSocket (x : Exchange) (cause : Cause) : (x.failSocket cause).relay = x.relay := rfl

theorem relay_send (x : Exchange) (now : Nat) (head : RequestHead) : (x.send now head).relay = x.relay := rfl

theorem relay_handOver (x : Exchange) (headers : Headers) : (x.handOver headers).1.relay = x.relay := by
  obtain ⟨_, _, _, _, _, same⟩ := touches_handOver x headers
  rw [same]

theorem relay_traceResponse (x : Exchange) (response : Response) : (x.traceResponse response).relay = x.relay := by
  obtain ⟨_, same⟩ := touches_traceResponse x response
  rw [same]

theorem relay_passEnded (x : Exchange) (head : ResponseHead) (response : Response) :
    (x.passEnded head response).relay = x.relay := by
  obtain ⟨_, _, _, _, same⟩ := touches_passEnded x head response
  rw [same]

/-- The handler begins a relay only for the response of the backend whose body is not over. -/
theorem relay_stepHandler {now : Nat} (hy : x.stepHandler now = some y) :
    y.relay = x.relay ∨ ∃ head response, x.handler = .composed head ∧ x.backendAnswer = some (.ok response)
      ∧ y = x.passRelayed head response := by
  cases stepHandler_cases hy with
  | resolved _ _ _ next =>
    left
    cases next with
    | refused | hostless | keyless | unsendable => exact relay_reject _ _
    | socketFailed => exact relay_failSocket _ _
    | answered | socketAsked => rfl
    | sent => exact (relay_send _ _ _).trans (relay_handOver _ _)
  | forwarded _ next =>
    left
    cases next <;> rfl
  | failed => exact .inl (relay_reject _ _)
  | responded next =>
    cases next with
    | failed | headed => exact .inl rfl
    | composed => exact .inl (relay_traceResponse x _)
    | ended => exact .inl (relay_passEnded x _ _)
    | relayed phase answer => exact .inr ⟨_, _, phase, answer, rfl⟩
  | @connected key answer =>
    left
    cases answer <;> rfl

/-- A relay is begun by the handler alone, for a response of the backend. -/
theorem Step.relay_begins {e : Event} (step : Step x e y) (hx : x.relay = none) (hy : y.relay ≠ none) :
    ∃ head response, x.handler = .composed head ∧ x.backendAnswer = some (.ok response)
      ∧ y = x.passRelayed head response := by
  cases step.turn with
  | aside frame =>
    have h := frame.relaying
    rw [relaying, relaying, hx, Option.map_none, Option.map_eq_none_iff] at h
    exact absurd h hy
  | arrived ids idle => exact absurd hx hy
  | deserted waiting =>
    obtain ⟨_, _, _, _, same⟩ := touches_dropHandler x
    rw [same] at hy
    exact absurd hx hy
  | handler h =>
    rcases relay_stepHandler h with same | begun
    · rw [same, hx] at hy
      exact absurd rfl hy
    · exact begun
  | upload moves =>
    obtain ⟨_, _, _, _, _, rfl⟩ := moves.touches
    exact absurd hx hy
  | relay moves => cases moves <;> simp_all

end Exchange

end Gateway
