import Gateway.Proofs.Answers

/-!
# What is asked of backends

The calls of an exchange are the requests and websocket handshakes it sends, as often as it sends them. No part of an
exchange calls a backend but the handler, when it has the resolver's answer (`Step.calls_eq`).
-/

namespace Gateway

namespace Exchange

variable {x y : Exchange}

/-- What was asked of backends, in order. -/
def calls (x : Exchange) : List Observation := x.log.filter fun o => o.outbound?.isSome

/-! ## Operations that call nobody -/

theorem calls_observe {o : Observation} (h : o.outbound? = none) (x : Exchange) : (x.observe o).calls = x.calls := by
  simp [calls, observe, h]

theorem calls_trace (x : Exchange) (e : TraceEvent) : (x.trace e).calls = x.calls := calls_observe rfl x

theorem calls_finish (x : Exchange) (head : ResponseHead) (body : ClientBody) : (x.finish head body).calls = x.calls :=
  calls_observe (o := .answered head _ _) rfl _

theorem calls_finishTraced (x : Exchange) (head : ResponseHead) (body : ClientBody) :
    (x.finishTraced head body).calls = x.calls :=
  (calls_finish _ head body).trans (calls_trace x _)

theorem calls_respondFailure (x : Exchange) (failure : Rejection) : (x.respondFailure failure).calls = x.calls :=
  (calls_finishTraced _ _ _).trans (calls_observe (o := .pageAsked failure) rfl x)

theorem calls_reject (x : Exchange) (failure : Rejection) : (x.reject failure).calls = x.calls :=
  calls_respondFailure (x.fail failure) _

theorem calls_failSocket (x : Exchange) (cause : Cause) : (x.failSocket cause).calls = x.calls :=
  (calls_finishTraced ((x.trace (.socketFailed cause)).fail (.backend cause)) _ _).trans (calls_trace x _)

theorem calls_answerSocket (x : Exchange) (key : HeaderValue) (answer : SocketAnswer) :
    (x.answerSocket key answer).calls = x.calls := by
  cases answer with
  | accepted protocol | refused status headers => exact calls_finishTraced _ _ _
  | failed cause => exact calls_failSocket x cause

theorem calls_handOver (x : Exchange) (headers : Headers) : (x.handOver headers).1.calls = x.calls := by
  unfold handOver
  split
  · exact calls_trace _ _
  · split <;> rfl

theorem calls_traceResponse (x : Exchange) (response : Response) : (x.traceResponse response).calls = x.calls := by
  unfold traceResponse
  dsimp only
  split <;> simp only [calls_trace]

theorem calls_passEnded (x : Exchange) (head : ResponseHead) (response : Response) :
    (x.passEnded head response).calls = x.calls := by
  have traced := calls_trace x (.responseEnded 0)
  unfold passEnded
  dsimp only
  split
  · exact traced
  · exact (calls_trace (complete _) .answerEnded).trans traced

theorem calls_abandon (x : Exchange) : x.abandon.calls = x.calls := by
  unfold abandon
  split
  · exact (calls_observe (o := .abandoned _) rfl _).trans (calls_trace x _)
  · rfl

theorem calls_dropHandler (x : Exchange) : x.dropHandler.calls = x.calls :=
  (calls_abandon _).trans (calls_trace { x with handler := .dropped, inbound := x.inbound.release, backendCall := _ } _)

theorem calls_endUpload (x : Exchange) (t : Transfer) (result : PumpResult) : (x.endUpload t result).calls = x.calls := by
  cases result with
  | moved bytes => exact calls_trace { x with upload := _, bodyComplete := true } _
  | sinkClosed => rfl
  | sourceFailed cause | timedOut limit => exact calls_trace { x with upload := _, uploadError := _ } _

theorem UploadMoves.calls {now : Nat} (moves : UploadMoves x now y) : y.calls = x.calls := by
  cases moves with
  | records | cancels | goesOn => rfl
  | ends => exact calls_endUpload x _ _

theorem calls_failRelay (x : Exchange) (t : Transfer) (failure : Rejection) : (x.failRelay t failure).calls = x.calls :=
  calls_abandon { x.fail failure with relay := some t.cancel }

theorem calls_endRelay (x : Exchange) (t : Transfer) (result : PumpResult) : (x.endRelay t result).calls = x.calls := by
  cases result with
  | moved bytes =>
    unfold endRelay
    dsimp only
    split
    · exact (calls_abandon { x.trace (.responseEnded bytes) with relay := _ }).trans (calls_trace x _)
    · exact (calls_trace { (x.trace (.responseEnded bytes)).complete with relay := _ } _).trans (calls_trace x _)
  | sinkClosed | sourceFailed cause | timedOut limit => exact (calls_failRelay _ _ _).trans (calls_trace x _)

theorem RelayMoves.calls {now : Nat} (moves : RelayMoves x now y) : y.calls = x.calls := by
  cases moves with
  | @cancels t => exact calls_abandon { x with relay := some t.cancel }
  | goesOn => rfl
  | ends => exact calls_endRelay x _ _

theorem calls_stepTunnel (h : x.stepTunnel = some y) : y.calls = x.calls := by
  unfold stepTunnel at h
  split at h
  · cases h
    exact calls_trace { x with tunnel := .opened } _
  · cases h
    exact calls_trace { x with tunnel := .over } _
  · cases h

theorem calls_endTunnel (x : Exchange) (result : Except Cause Unit) : (x.endTunnel result).calls = x.calls := by
  unfold endTunnel
  split
  · exact calls_trace { x with tunnel := .over } _
  · rfl

theorem Forwards.calls {now since : Nat} (next : Forwards x now since y) : y.calls = x.calls := by
  cases next with
  | failed => exact calls_respondFailure _ _
  | answered | unanswered | overdue => rfl

theorem Responds.calls (next : Responds x y) : y.calls = x.calls := by
  cases next with
  | failed => exact calls_respondFailure (x.releaseResponse _) _
  | composed => exact calls_traceResponse x _
  | ended => exact calls_passEnded x _ _
  | relayed => rfl
  | headed => exact calls_finishTraced x _ _

theorem calls_stepHandler {now : Nat} (h : x.stepHandler now = some y) : y.calls = x.calls ∨ x.handler = .resolving := by
  cases stepHandler_cases h with
  | resolved phase => exact .inr phase
  | forwarded _ next => exact .inl next.calls
  | failed => exact .inl ((calls_reject _ _).trans (calls_trace x _))
  | responded next => exact .inl next.calls
  | connected => exact .inl (calls_answerSocket x _ _)

/-! ## Every event -/

/-- A backend is called by the handler alone, and only when that has waited for the resolver. -/
theorem Step.calls_eq {e : Event} (step : Step x e y) :
    y.calls = x.calls ∨ ∃ now, e = .handlerStepped now ∧ x.handler = .resolving := by
  cases step with
  | arrive ids idle => exact .inl (calls_trace { x with context := _, head := _, expectsContinue := _, handler := _ } _)
  | pushRequest item =>
    obtain ⟨_, _, same⟩ := touches_pushRequest x item
    exact .inl (by rw [same]; rfl)
  | clientRead hy =>
    obtain ⟨_, _, rfl⟩ := touches_clientRead hy
    exact .inl rfl
  | leave hy =>
    unfold dropClient at hy
    split at hy
    · cases hy
      exact .inl (calls_dropHandler x)
    · obtain ⟨_, _, rfl⟩ := touches_dropResponse hy
      exact .inl rfl
  | allow hy =>
    obtain rfl := touches_allowResolve hy
    exact .inl rfl
  | backendRead hy =>
    obtain ⟨_, _, rfl⟩ := touches_backendRead hy
    exact .inl rfl
  | backendDrop hy =>
    obtain ⟨_, _, rfl⟩ := touches_backendDropBody hy
    exact .inl rfl
  | answer hy =>
    obtain rfl := touches_answerBackend hy
    exact .inl rfl
  | pushResponse item =>
    obtain ⟨_, _, _, same⟩ := touches_pushResponse x item
    exact .inl (by rw [same]; rfl)
  | answerSocket answer | giveConnection takeover => exact .inl rfl
  | endTunnel result => exact .inl (calls_endTunnel x result)
  | handler hy =>
    rcases calls_stepHandler hy with same | phase
    · exact .inl same
    · exact .inr ⟨_, rfl, phase⟩
  | upload hy => exact .inl (uploadMoves_of_stepUpload hy).calls
  | relay hy => exact .inl (relayMoves_of_stepRelay hy).calls
  | moveUpload hy => exact .inl (uploadMoves_of_moveUpload hy).calls
  | moveRelay hy => exact .inl (relayMoves_of_moveRelay hy).calls
  | tunnel hy => exact .inl (calls_stepTunnel hy)

end Exchange

end Gateway
