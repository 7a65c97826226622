import Gateway.Proofs.Handling
import Gateway.Proofs.Outcome.Sound

/-!
# What a step of the handler tells the outside

A step of the handler adds remarks to the log (trace events, and that the answer to a failure was asked for) and at
most one observation that matters: it returns a head to the client, or it asks the backend. `Answered` says where a head
can come from and what it is then, `Asks` what the backend can be asked. `stepHandler_adds` is that nothing else happens.

The head of a relayed response is composed by one step and returned by a later one. `Run.composed` finds the first of
them in a run.
-/

namespace Gateway

namespace Observation

/-- Whether an observation only remarks on what goes on. -/
def isRemark : Observation → Bool
  | traced _ | pageAsked _ => true
  | _ => false

/-- The fields of a request to a backend, plain or for a websocket. -/
def outbound? : Observation → Option Headers
  | forwarded head .. => some head.headers
  | socketAsked _ headers => some headers
  | _ => none

theorem outbound?_of_isRemark {o : Observation} (h : o.isRemark = true) : o.outbound? = none := by
  cases o <;> first | rfl | cases h

end Observation

/-- The head of a response to pass on, once a handler holds it. -/
def HandlerPhase.head? : HandlerPhase → Option ResponseHead
  | composed head | heading head _ => some head
  | _ => none

namespace Exchange

variable {x y z : Exchange} {o : Observation}

/-! ## One observation after remarks -/

/-- The second log holds nothing but remarks beyond the first one. -/
def Remarks (x y : Exchange) : Prop := ∀ p ∈ y.log, p ∈ x.log ∨ p.isRemark = true

theorem remarks_of_log (same : y.log = x.log) : Remarks x y := fun _ hp => .inl (same ▸ hp)

theorem Remarks.trans (first : Remarks x z) (second : Remarks z y) : Remarks x y := by
  intro p hp
  rcases second p hp with old | remark
  · exact first p old
  · exact .inr remark

theorem remarks_trace (x : Exchange) (e : TraceEvent) : Remarks x (x.trace e) := by
  intro p hp
  rcases List.mem_append.1 hp with old | new
  · exact .inl old
  · rw [List.mem_singleton.1 new]
    exact .inr rfl

/-- The second log holds `o`, and beyond the first log nothing else but remarks. -/
def Adds (x y : Exchange) (o : Observation) : Prop :=
  o ∈ y.log ∧ ∀ p ∈ y.log, p ∈ x.log ∨ p = o ∨ p.isRemark = true

theorem adds_observe (x : Exchange) (o : Observation) : Adds x (x.observe o) o := by
  refine ⟨List.mem_append_right _ (List.mem_singleton_self o), fun p hp => ?_⟩
  rcases List.mem_append.1 hp with old | new
  · exact .inl old
  · exact .inr (.inl (List.mem_singleton.1 new))

/-- Remarks may come before. -/
theorem Adds.of_remarks (h : Adds z y o) (hz : Remarks x z) : Adds x y o := by
  refine ⟨h.1, fun p hp => ?_⟩
  rcases h.2 p hp with old | rfl | remark
  · rcases hz p old with older | remark
    · exact .inl older
    · exact .inr (.inr remark)
  · exact .inr (.inl rfl)
  · exact .inr (.inr remark)

theorem Adds.of_trace {e : TraceEvent} (h : Adds (x.trace e) y o) : Adds x y o := h.of_remarks (remarks_trace x e)

theorem Adds.of_pageAsked {failure : Rejection} (h : Adds (x.observe (.pageAsked failure)) y o) : Adds x y o := by
  refine h.of_remarks fun p hp => ?_
  rcases List.mem_append.1 hp with old | new
  · exact .inl old
  · rw [List.mem_singleton.1 new]
    exact .inr rfl

/-- A head went out. -/
def Returns (x y : Exchange) (head : ResponseHead) : Prop := ∃ ended length, Adds x y (.answered head ended length)

/-- The only head that went out. -/
theorem Returns.eq {head other : ResponseHead} {ended : Bool} {length : Option Nat} (h : Returns x y head)
    (hx : .answered other ended length ∉ x.log) (hy : .answered other ended length ∈ y.log) : other = head := by
  obtain ⟨_, _, -, news⟩ := h
  rcases news _ hy with old | same | remark
  · exact absurd old hx
  · cases same
    rfl
  · cases remark

/-- Where a head went out, no backend was asked. -/
theorem Returns.unasked {head : ResponseHead} (h : Returns x y head) {sent : Headers} (hs : o.outbound? = some sent)
    (hy : o ∈ y.log) : o ∈ x.log := by
  obtain ⟨_, _, -, news⟩ := h
  rcases news _ hy with old | rfl | remark
  · exact old
  · cases hs
  · rw [Observation.outbound?_of_isRemark remark] at hs
    cases hs

/-! ## Ways to return -/

theorem returns_finish (x : Exchange) (head : ResponseHead) (body : ClientBody) : Returns x (x.finish head body) head :=
  ⟨_, _, adds_observe { x with handler := .returned, inbound := x.inbound.release, clientBody := some body } _⟩

theorem Returns.of_trace {e : TraceEvent} {head : ResponseHead} (h : Returns (x.trace e) y head) : Returns x y head := by
  obtain ⟨ended, length, added⟩ := h
  exact ⟨ended, length, added.of_trace⟩

theorem returns_finishTraced (x : Exchange) (head : ResponseHead) (body : ClientBody) :
    Returns x (x.finishTraced head body) head :=
  (returns_finish _ head body).of_trace

/-- The head of the answer to a failure. -/
def pageHead (x : Exchange) (failure : Rejection) : ResponseHead :=
  headWith (x.profile.page failure) (finishHeaders x.profile.idle x.context (x.profile.page failure).head.headers)

theorem returns_respondFailure (x : Exchange) (failure : Rejection) :
    Returns x (x.respondFailure failure) (x.pageHead failure) := by
  obtain ⟨ended, length, added⟩ := returns_finishTraced (x.observe (.pageAsked failure)) (x.pageHead failure)
    (.direct (x.profile.page failure).body)
  exact ⟨ended, length, added.of_pageAsked⟩

theorem pageAsked_mem_respondFailure (x : Exchange) (failure : Rejection) :
    .pageAsked failure ∈ (x.respondFailure failure).log := by
  simp [respondFailure, finishTraced, finish, trace, observe]

theorem returns_failSocket (x : Exchange) (cause : Cause) :
    Returns x (x.failSocket cause)
      (headWith (.bodiless .badGateway) (failedSocketHeaders x.profile.idle x.context)) :=
  Returns.of_trace (e := .socketFailed cause) (returns_finishTraced ((x.trace (.socketFailed cause)).fail (.backend cause)) _ _)

theorem socketFailed_mem_failSocket (x : Exchange) (cause : Cause) :
    .traced (.socketFailed cause) ∈ (x.failSocket cause).log := by
  simp [failSocket, finishTraced, finish, fail, trace, observe]

/-! ## Passing a response on -/

theorem remarks_traceResponse (x : Exchange) (response : Response) : Remarks x (x.traceResponse response) := by
  have started := (remarks_trace x (.responseStarted response.head.status response.head.headers)).trans
    (remarks_trace _ .answerStarted)
  unfold traceResponse
  dsimp only
  split
  · exact started.trans (remarks_trace _ _)
  · exact started

theorem remarks_passEnded (x : Exchange) (head : ResponseHead) (response : Response) :
    Remarks x (x.passEnded head response) := by
  have traced := remarks_trace x (.responseEnded 0)
  unfold passEnded
  dsimp only
  split
  · exact traced
  · exact traced.trans (remarks_trace (complete _) .answerEnded)

/-! ## Where a head comes from -/

/-- A step from `x` to `y` returns this head, and why. -/
inductive Answered (x y : Exchange) : ResponseHead → Prop where
  /-- the resolver answered at once -/
  | resolved {resolved : RequestHead} {response : Response} (phase : x.handler = .resolving)
      (answer : x.resolver x.head x.context.tls = ⟨resolved, .ok (.answered response)⟩) :
      Answered x y (headWith response (finishHeaders x.profile.idle x.context response.head.headers))
  /-- a failure was answered with its page -/
  | failed {failure : Rejection} (asked : .pageAsked failure ∈ y.log) : Answered x y (x.pageHead failure)
  /-- the handler held the head of a response that is passed on -/
  | relayed {head : ResponseHead} {body : ClientBody} (phase : x.handler = .heading head body) : Answered x y head
  | accepted {key : HeaderValue} {protocol : Option HeaderValue} (phase : x.handler = .connecting key)
      (answer : x.socketAnswer = some (.accepted protocol)) :
      Answered x y (headWith (.switching (WebSocket.accept? key.bytes) protocol)
        ((Response.switching (WebSocket.accept? key.bytes) protocol).head.headers.stampId x.context.requestId))
  /-- the backend refused the websocket -/
  | refused {key : HeaderValue} {status : Status} {headers : Headers} (phase : x.handler = .connecting key)
      (answer : x.socketAnswer = some (.refused status headers)) :
      Answered x y (headWith (.bodiless status) (refusedHeaders x.profile.idle x.context headers))
  /-- no websocket could be had -/
  | socketless {cause : Cause} (asked : x.context.isHttp2 = false ∨ ∃ key, x.handler = .connecting key)
      (failed : .traced (.socketFailed cause) ∈ y.log) :
      Answered x y (headWith (.bodiless .badGateway) (failedSocketHeaders x.profile.idle x.context))

/-- A step from `x` to `y` asks the backend with the fields the gateway composes for the target the resolver named. Only
the length of the body may be set on top of them. -/
inductive Asks (x y : Exchange) (o : Observation) : Prop where
  | sends {resolved : RequestHead} {sent composed : Headers} {target : Target} {host scheme : String} {uri : Uri}
      (phase : x.handler = .resolving) (answer : x.resolver x.head x.context.tls = ⟨resolved, .ok (.forward target)⟩)
      (hosted : requestedHost? x.context resolved = some host)
      (composes : outboundHead x.context target host scheme resolved.headers = .ok (uri, composed))
      (adds : Adds x y o) (outbound : o.outbound? = some sent)
      (values : ∀ n, n ≠ .contentLength → sent.values n = composed.values n)

theorem returns_reject (x : Exchange) (failure : Rejection) :
    ∃ f, Returns x (x.reject failure) (x.pageHead f) ∧ .pageAsked f ∈ (x.reject failure).log :=
  ⟨_, returns_respondFailure (x.fail failure) _, pageAsked_mem_respondFailure _ _⟩

/-- Whatever was traced before, a rejection is answered with a page. -/
theorem answered_reject {failure : Rejection} (hp : z.profile = x.profile) (hc : z.context = x.context)
    (hl : Remarks x z) :
    ∃ head, Returns x (z.reject failure) head ∧ Answered x (z.reject failure) head := by
  obtain ⟨f, ⟨ended, length, added⟩, asked⟩ := returns_reject z failure
  have page : z.pageHead f = x.pageHead f := by simp only [pageHead, hp, hc]
  rw [page] at added
  exact ⟨x.pageHead f, ⟨ended, length, added.of_remarks hl⟩, .failed asked⟩

/-! ## Handing the request over -/

theorem remarks_handOver (x : Exchange) (headers : Headers) : Remarks x (x.handOver headers).1 := by
  unfold handOver
  split
  · rename_i bytes _
    exact remarks_trace { x with
      bodyComplete := true, inbound := x.inbound.release, backendBody := some (.complete (.full bytes)) } _
  · split <;> exact remarks_of_log rfl

/-- The length of the body is all that is set when the request is handed over. -/
theorem values_handOver_of_ne (x : Exchange) (headers : Headers) {n : HeaderName} (hn : n ≠ .contentLength) :
    (x.handOver headers).2.values n = headers.values n := by
  unfold handOver
  split
  · dsimp only
    split
    · rw [Headers.values_insert, if_neg hn]
    · rfl
  · split <;> rfl

theorem adds_send (x : Exchange) (now : Nat) (head : RequestHead) :
    Adds x (x.send now head) (.forwarded head x.backendView.1 x.backendView.2) :=
  Adds.of_trace (e := .forwardStarted head.method head.uri head.headers) (adds_observe _ _)

theorem adds_handedOver (x : Exchange) (headers : Headers) (now : Nat) (head : RequestHead) :
    Adds x ((x.handOver headers).1.send now head) (.forwarded head (x.handOver headers).1.backendView.1
      (x.handOver headers).1.backendView.2) :=
  (adds_send _ _ _).of_remarks (remarks_handOver x headers)

theorem adds_awaitSocket (x : Exchange) (o : Observation) (key : HeaderValue) :
    Adds x { x.observe o with handler := .connecting key } o :=
  adds_observe x o

/-! ## Every step -/

theorem Resolves.adds {now : Nat} {resolved : RequestHead} {hop : Except Rejection NextHop}
    (phase : x.handler = .resolving) (answer : x.resolver x.head x.context.tls = ⟨resolved, hop⟩)
    (next : Resolves { x with head := resolved } now hop y) :
    (∃ o, Asks x y o) ∨ ∃ head, Returns x y head ∧ Answered x y head := by
  cases next with
  | refused failure => exact .inr (answered_reject rfl rfl (remarks_of_log rfl))
  | answered response => exact .inr ⟨_, returns_finish _ _ _, .resolved phase answer⟩
  | hostless target _ | keyless target _ _ _ =>
    exact .inr (answered_reject rfl rfl (remarks_trace { x with head := resolved } _))
  | socketFailed target _ socket =>
    have http1 : x.context.isHttp2 = false := by simpa using (Bool.and_eq_true_iff.1 socket).1
    exact .inr ⟨_, (returns_failSocket _ _).of_trace, .socketless (.inl http1) (socketFailed_mem_failSocket _ _)⟩
  | @socketAsked target _ _ uri headers hosted _ _ outbound =>
    have added := adds_awaitSocket (trace (trace { x with head := resolved } (.hopResolved target))
      (.socketStarted uri headers)) (.socketAsked target headers)
    exact .inl ⟨_, .sends phase answer hosted outbound (added _).of_trace.of_trace rfl fun _ _ => rfl⟩
  | @unsendable target _ cause =>
    have traced := (remarks_trace { x with head := resolved } (.hopResolved target)).trans
      (remarks_trace _ (.forwardFailed cause))
    exact .inr (answered_reject rfl rfl traced)
  | @sent target _ _ headers hosted _ outbound =>
    have added := adds_handedOver (trace { x with head := resolved } (.hopResolved target)) headers now
    exact .inl ⟨_, .sends phase answer hosted outbound (added _).of_trace rfl fun _ => values_handOver_of_ne _ _⟩

theorem Forwards.adds {now since : Nat} (next : Forwards x now since y) :
    Remarks x y ∨ ∃ head, Returns x y head ∧ Answered x y head := by
  cases next with
  | failed => exact .inr ⟨_, returns_respondFailure _ _, .failed (pageAsked_mem_respondFailure _ _)⟩
  | answered | unanswered | overdue => exact .inl (remarks_of_log rfl)

theorem Responds.adds (next : Responds x y) : Remarks x y ∨ ∃ head, Returns x y head ∧ Answered x y head := by
  cases next with
  | @failed response failure =>
    exact .inr ⟨_, returns_respondFailure (x.releaseResponse response) failure, .failed (pageAsked_mem_respondFailure _ _)⟩
  | composed => exact .inl (remarks_traceResponse x _)
  | ended => exact .inl (remarks_passEnded x _ _)
  | relayed => exact .inl (remarks_of_log rfl)
  | headed phase => exact .inr ⟨_, returns_finishTraced _ _ _, .relayed phase⟩

theorem adds_answerSocket {key : HeaderValue} {answer : SocketAnswer} (phase : x.handler = .connecting key)
    (given : x.socketAnswer = some answer) :
    ∃ head, Returns x (x.answerSocket key answer) head ∧ Answered x (x.answerSocket key answer) head := by
  cases answer with
  | accepted protocol => exact ⟨_, returns_finishTraced _ _ _, .accepted phase given⟩
  | refused status headers => exact ⟨_, returns_finishTraced _ _ _, .refused phase given⟩
  | failed cause => exact ⟨_, returns_failSocket _ _, .socketless (.inr ⟨key, phase⟩) (socketFailed_mem_failSocket _ _)⟩

/-- A step of the handler asks the backend, or returns a head, or is only remarked on. -/
theorem stepHandler_adds {now : Nat} (step : x.stepHandler now = some y) :
    (∃ o, Asks x y o) ∨ Remarks x y ∨ ∃ head, Returns x y head ∧ Answered x y head := by
  cases stepHandler_cases step with
  | resolved phase _ answer next =>
    rcases Resolves.adds phase answer next with asks | returns
    · exact .inl asks
    · exact .inr (.inr returns)
  | forwarded _ next => exact .inr next.adds
  | failed => exact .inr (.inr (answered_reject rfl rfl (remarks_trace x _)))
  | responded next => exact .inr next.adds
  | connected phase given => exact .inr (.inr (adds_answerSocket phase given))

/-! ## Every event -/

/-- The backend is asked by the handler, when it has the resolver's answer. -/
theorem Step.asks {e : Event} (step : Step x e y) {sent : Headers} (outbound : o.outbound? = some sent) (hx : o ∉ x.log)
    (hy : o ∈ y.log) : Asks x y o := by
  have handlers : o.isHandlers = true := by cases o <;> first | rfl | cases outbound
  have unremarked : o.isRemark ≠ true := by
    intro remark
    rw [Observation.outbound?_of_isRemark remark] at outbound
    cases outbound
  obtain ⟨now, hstep⟩ := step.observed handlers hx hy
  rcases stepHandler_adds hstep with ⟨p, asks⟩ | remarks | ⟨head, returns, -⟩
  · obtain ⟨-, -, -, -, ⟨-, news⟩, -, -⟩ := id asks
    rcases news o hy with old | rfl | remark
    · exact absurd old hx
    · exact asks
    · exact absurd remark unremarked
  · rcases remarks o hy with old | remark
    · exact absurd old hx
    · exact absurd remark unremarked
  · exact absurd (returns.unasked outbound hy) hx

/-- A head goes out from the handler, which has begun and not ended. -/
theorem Step.answers {e : Event} (step : Step x e y) {head : ResponseHead} {ended : Bool} {length : Option Nat}
    (hx : .answered head ended length ∉ x.log) (hy : .answered head ended length ∈ y.log) :
    x.isHandling ∧ Answered x y head := by
  obtain ⟨now, hstep⟩ := step.observed rfl hx hy
  refine ⟨isHandling_of_stepHandler hstep, ?_⟩
  -- a step that asks the backend returns nothing, and one that returns a head returns only that
  rcases stepHandler_adds hstep with ⟨p, asks⟩ | remarks | ⟨head, returns, answered⟩
  · obtain ⟨-, -, -, -, ⟨-, news⟩, outbound, -⟩ := asks
    rcases news _ hy with old | rfl | remark
    · exact absurd old hx
    · cases outbound
    · cases remark
  · rcases remarks _ hy with old | remark
    · exact absurd old hx
    · cases remark
  · rw [returns.eq hx hy]
    exact answered

/-! ## Where a relayed head comes from -/

/-- By a step from `x` to `y` the handler composes a head, for the response the backend has answered. -/
structure Composes (x : Exchange) (response : Response) (head : ResponseHead) (y : Exchange) : Prop where
  phase : x.handler = .responding
  answer : x.backendAnswer = some (.ok response)
  unfailed : x.guard.failure = none
  relayed : head = x.relayedHead response
  composed : y.handler = .composed head
  kept : y.backendAnswer = x.backendAnswer

theorem Handles.composes {now : Nat} {head : ResponseHead} (handles : Handles x now y)
    (hy : y.handler = .composed head) : ∃ response, Composes x response head y := by
  cases handles with
  | resolved _ _ _ next => cases next <;> cases hy
  | forwarded _ next => cases next <;> cases hy
  | failed => cases hy
  | @connected key answer => cases answer <;> cases hy
  | responded next =>
    cases next with
    | failed => cases hy
    | @composed response phase answer unfailed =>
      cases hy
      obtain ⟨_, same⟩ := touches_traceResponse x response
      exact ⟨response, phase, answer, unfailed, rfl, rfl, by rw [same]⟩
    | ended | relayed | headed => cases hy

theorem Handles.passes {now : Nat} {head : ResponseHead} {body : ClientBody} (handles : Handles x now y)
    (hy : y.handler = .heading head body) : x.handler = .composed head := by
  cases handles with
  | resolved _ _ _ next => cases next <;> cases hy
  | forwarded _ next => cases next <;> cases hy
  | failed => cases hy
  | @connected key answer => cases answer <;> cases hy
  | responded next =>
    cases next with
    | failed | composed | headed => cases hy
    | ended phase | relayed phase =>
      cases hy
      exact phase

/-- Only the handler composes a head. -/
theorem Step.composes {e : Event} {head : ResponseHead} (step : Step x e y) (hx : x.handler.head? ≠ some head)
    (hy : y.handler.head? = some head) : ∃ response, Composes x response head y := by
  cases step.turn with
  | aside frame => exact absurd (frame.handler ▸ hy) hx
  | arrived => cases hy
  | deserted =>
    obtain ⟨_, _, _, _, same⟩ := touches_dropHandler x
    rw [same] at hy
    cases hy
  | handler moved =>
    have handles := stepHandler_cases moved
    match phase : y.handler with
    | .composed other =>
      rw [phase] at hy
      cases hy
      exact handles.composes phase
    | .heading other body =>
      rw [phase] at hy
      cases hy
      exact absurd (by rw [handles.passes phase]; rfl) hx
    | .idle | .resolving | .forwarding _ | .failing _ | .responding | .connecting _ | .returned | .dropped =>
      rw [phase] at hy
      cases hy
  | upload moves =>
    obtain ⟨_, _, _, _, _, rfl⟩ := moves.touches
    exact absurd hy hx
  | relay moves =>
    obtain ⟨_, _, _, rfl⟩ := moves.touches
    exact absurd hy hx

/-- A head that the handler holds was composed by a step of the run. -/
theorem Run.composed {start : Exchange} {es : List Event} {head : ResponseHead} (fresh : start.Fresh)
    (run : Run start es x) (held : x.handler.head? = some head) :
    ∃ before w e v after response, Run.Cut start es x before w e v after ∧ Composes w response head v := by
  have unheaded : start.handler.head? ≠ some head := by
    rw [fresh.idle.1]
    nofun
  obtain ⟨before, w, e, v, after, cut, hw, hv⟩ := run.becomes (P := fun x => x.handler.head? = some head) unheaded held
  obtain ⟨response, composes⟩ := cut.step.composes hw hv
  exact ⟨before, w, e, v, after, response, cut, composes⟩

end Exchange

end Gateway
