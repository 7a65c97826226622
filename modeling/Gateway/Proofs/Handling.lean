import Gateway.Exchange.Actions

/-!
# What a step of the handler can do

`Handles` lists the ways a step of the handler can go, each with what led there and what the exchange is afterwards.
Whatever is said of the handler is a case for each of them (`stepHandler_cases`).
-/

namespace Gateway

namespace Exchange

/-- Whether the client asks for a websocket, which only HTTP/1 has. -/
def wantsSocket (x : Exchange) : Bool := !x.context.isHttp2 && x.head.headers.asksForWebSocket

/-- What follows the resolver's answer, in an exchange that has the fields the resolver goes on with. -/
inductive Resolves (x : Exchange) (now : Nat) : Except Rejection NextHop → Exchange → Prop where
  | refused (failure : Rejection) : Resolves x now (.error failure) (x.reject failure)
  | answered (response : Response) :
      Resolves x now (.ok (.answered response))
        (x.complete.finish (headWith response (finishHeaders x.profile.idle x.context response.head.headers))
          (.direct response.body))
  | hostless (target : Target) (unhosted : requestedHost? x.context x.head = none) :
      Resolves x now (.ok (.forward target)) ((x.trace (.hopResolved target)).reject .noHost)
  | keyless (target : Target) {host : String} (hosted : requestedHost? x.context x.head = some host)
      (socket : x.wantsSocket = true) (unkeyed : x.head.headers.get? .secWebSocketKey = none) :
      Resolves x now (.ok (.forward target)) ((x.trace (.hopResolved target)).reject .noKey)
  | socketFailed (target : Target) {host : String} {key : HeaderValue} {cause : Cause}
      (hosted : requestedHost? x.context x.head = some host) (socket : x.wantsSocket = true)
      (keyed : x.head.headers.get? .secWebSocketKey = some key)
      (outbound : outboundHead x.context target host "ws" x.head.headers = .error cause) :
      Resolves x now (.ok (.forward target)) ((x.trace (.hopResolved target)).failSocket cause)
  | socketAsked (target : Target) {host : String} {key : HeaderValue} {uri : Uri} {headers : Headers}
      (hosted : requestedHost? x.context x.head = some host) (socket : x.wantsSocket = true)
      (keyed : x.head.headers.get? .secWebSocketKey = some key)
      (outbound : outboundHead x.context target host "ws" x.head.headers = .ok (uri, headers)) :
      Resolves x now (.ok (.forward target))
        { ((x.trace (.hopResolved target)).trace (.socketStarted uri headers)).observe (.socketAsked target headers) with
          handler := .connecting key }
  | unsendable (target : Target) {host : String} {cause : Cause}
      (hosted : requestedHost? x.context x.head = some host) (plain : x.wantsSocket = false)
      (outbound : outboundHead x.context target host "http" x.head.headers = .error cause) :
      Resolves x now (.ok (.forward target)) ((x.trace (.hopResolved target)).failForward cause)
  | sent (target : Target) {host : String} {uri : Uri} {headers : Headers}
      (hosted : requestedHost? x.context x.head = some host) (plain : x.wantsSocket = false)
      (outbound : outboundHead x.context target host "http" x.head.headers = .ok (uri, headers)) :
      Resolves x now (.ok (.forward target)) (((x.trace (.hopResolved target)).handOver headers).1.send now
        { method := (x.trace (.hopResolved target)).head.method, uri, version := .http11,
          headers := ((x.trace (.hopResolved target)).handOver headers).2 })

/-- What ends the wait for the backend. -/
inductive Forwards (x : Exchange) (now since : Nat) : Exchange → Prop where
  /-- another part has recorded a failure -/
  | failed {failure : Rejection} (recorded : x.guard.awaitFailure = some failure) :
      Forwards x now since (respondFailure { x with backendCall := .dropped } failure)
  | answered {response : Response} (unfailed : x.guard.awaitFailure = none)
      (answer : x.backendAnswer = some (.ok response)) :
      Forwards x now since { x with backendCall := .answered, handler := .responding }
  | unanswered {cause : Cause} (unfailed : x.guard.awaitFailure = none) (answer : x.backendAnswer = some (.error cause)) :
      Forwards x now since { x with backendCall := .failed, handler := .failing cause }
  | overdue (unfailed : x.guard.awaitFailure = none) (answer : x.backendAnswer = none)
      (overdue : x.isOverdue since now = true) :
      Forwards x now since { x with
        backendCall := .dropped, handler := .failing (.receiveTimeout x.profile.receive) }

/-- What follows the backend's answer, up to the head of the response. -/
inductive Responds (x : Exchange) : Exchange → Prop where
  /-- another part has recorded a failure by now -/
  | failed {response : Response} {failure : Rejection} (phase : x.handler = .responding)
      (answer : x.backendAnswer = some (.ok response)) (recorded : x.guard.failure = some failure) :
      Responds x ((x.releaseResponse response).respondFailure failure)
  | composed {response : Response} (phase : x.handler = .responding) (answer : x.backendAnswer = some (.ok response))
      (unfailed : x.guard.failure = none) :
      Responds x { x.traceResponse response with handler := .composed (x.relayedHead response) }
  /-- the body is over -/
  | ended {head : ResponseHead} {response : Response} (phase : x.handler = .composed head)
      (answer : x.backendAnswer = some (.ok response)) (ended : response.body.isEnded = true) :
      Responds x (x.passEnded head response)
  | relayed {head : ResponseHead} {response : Response} (phase : x.handler = .composed head)
      (answer : x.backendAnswer = some (.ok response)) (more : response.body.isEnded = false) :
      Responds x (x.passRelayed head response)
  | headed {head : ResponseHead} {body : ClientBody} (phase : x.handler = .heading head body) :
      Responds x (x.finishTraced head body)

/-- A step of the handler. -/
inductive Handles (x : Exchange) (now : Nat) : Exchange → Prop where
  | resolved {head : RequestHead} {hop : Except Rejection NextHop} {y : Exchange} (phase : x.handler = .resolving)
      (ready : x.resolverReady = true) (answer : x.resolver x.head x.context.tls = ⟨head, hop⟩)
      (next : Resolves { x with head } now hop y) : Handles x now y
  | forwarded {since : Nat} {y : Exchange} (phase : x.handler = .forwarding since) (next : Forwards x now since y) :
      Handles x now y
  | failed {cause : Cause} (phase : x.handler = .failing cause) : Handles x now (x.failForward cause)
  | responded {y : Exchange} (next : Responds x y) : Handles x now y
  | connected {key : HeaderValue} {answer : SocketAnswer} (phase : x.handler = .connecting key)
      (given : x.socketAnswer = some answer) : Handles x now (x.answerSocket key answer)

variable {x y : Exchange} {now since : Nat}

theorem head_handOver (x : Exchange) (headers : Headers) : (x.handOver headers).1.head = x.head := by
  obtain ⟨_, _, _, _, _, same⟩ := touches_handOver x headers
  rw [same]

/-- From the resolved target on: to the backend, or to a websocket of the backend. -/
theorem resolves_forward (x : Exchange) (now : Nat) (target : Target) {host : String}
    (hh : requestedHost? x.context x.head = some host) :
    Resolves x now (.ok (.forward target))
      (if x.wantsSocket then (x.trace (.hopResolved target)).connect target host
       else (x.trace (.hopResolved target)).forward now target host) := by
  split
  · rename_i socket
    unfold connect
    split
    · rename_i key
      exact .keyless target hh socket key
    · rename_i key hkey
      split
      · rename_i outbound
        exact .socketFailed target hh socket hkey outbound
      · rename_i outbound
        exact .socketAsked target hh socket hkey outbound
  · rename_i plain
    have plain : x.wantsSocket = false := by simpa using plain
    unfold forward
    split
    · rename_i outbound
      exact .unsendable target hh plain outbound
    · rename_i uri headers outbound
      have sent : Resolves x now (.ok (.forward target)) _ := .sent target hh plain outbound
      rw [← head_handOver (x.trace (.hopResolved target)) headers] at sent
      exact sent

theorem resolve_cases (x : Exchange) (now : Nat) {head : RequestHead} {hop : Except Rejection NextHop}
    (answer : x.resolver x.head x.context.tls = ⟨head, hop⟩) :
    Resolves { x with head } now hop (x.resolve now) := by
  unfold resolve
  rw [answer]
  match hop with
  | .error failure => exact .refused failure
  | .ok (.answered response) => exact .answered response
  | .ok (.forward target) =>
    dsimp only
    split
    · rename_i host
      exact .hostless target host
    · rename_i host
      exact resolves_forward { x with head } now target host

theorem stepForwarding_cases (h : x.stepForwarding now since = some y) : Forwards x now since y := by
  unfold stepForwarding at h
  split at h
  · rename_i recorded
    cases h
    exact .failed recorded
  · rename_i unfailed
    split at h
    · rename_i answer
      cases h
      exact .answered unfailed answer
    · rename_i answer
      cases h
      exact .unanswered unfailed answer
    · rename_i answer
      split at h
      · rename_i overdue
        cases h
        exact .overdue unfailed answer overdue
      · cases h

theorem response?_eq_some_iff {response : Response} :
    x.response? = some response ↔ x.backendAnswer = some (.ok response) := by
  unfold response?
  split
  · rename_i answer
    simp [answer]
  · rename_i other
    exact ⟨nofun, fun answer => absurd answer (other response)⟩

theorem responds_compose {response : Response} (phase : x.handler = .responding)
    (answer : x.backendAnswer = some (.ok response)) : Responds x (x.compose response) := by
  unfold compose
  split
  · rename_i recorded
    exact .failed phase answer recorded
  · rename_i unfailed
    exact .composed phase answer unfailed

theorem responds_passBody {head : ResponseHead} {response : Response} (phase : x.handler = .composed head)
    (answer : x.backendAnswer = some (.ok response)) : Responds x (x.passBody head response) := by
  unfold passBody
  split
  · rename_i ended
    exact .ended phase answer ended
  · rename_i more
    exact .relayed phase answer (by simpa using more)

theorem stepHandler_cases (h : x.stepHandler now = some y) : Handles x now y := by
  unfold stepHandler at h
  split at h
  · rename_i phase
    split at h
    · rename_i ready
      cases h
      exact .resolved phase ready rfl (resolve_cases x now rfl)
    · cases h
  · rename_i phase
    exact .forwarded phase (stepForwarding_cases h)
  · rename_i phase
    cases h
    exact .failed phase
  · rename_i phase
    obtain ⟨response, answer, rfl⟩ := Option.map_eq_some_iff.1 h
    exact .responded (responds_compose phase (response?_eq_some_iff.1 answer))
  · rename_i phase
    obtain ⟨response, answer, rfl⟩ := Option.map_eq_some_iff.1 h
    exact .responded (responds_passBody phase (response?_eq_some_iff.1 answer))
  · rename_i phase
    cases h
    exact .responded (.headed phase)
  · rename_i phase
    obtain ⟨answer, ha, rfl⟩ := Option.map_eq_some_iff.1 h
    exact .connected phase ha
  · cases h
  · cases h
  · cases h

/-- Whether the handler has begun and not ended. -/
def isHandling (x : Exchange) : Bool :=
  match x.handler with
  | .idle | .returned | .dropped => false
  | _ => true

theorem isHandling_of_isWaiting (waiting : x.isWaiting) : x.isHandling := by
  unfold isWaiting at waiting
  unfold isHandling
  cases phase : x.handler <;> simp_all

/-- The handler moves only between its begin and its end. -/
theorem isHandling_of_stepHandler (h : x.stepHandler now = some y) : x.isHandling := by
  cases stepHandler_cases h with
  | resolved phase | forwarded phase | failed phase | connected phase => simp [isHandling, phase]
  | responded next =>
    cases next with
    | failed phase | composed phase | ended phase | relayed phase | headed phase => simp [isHandling, phase]

end Exchange

end Gateway
