import Gateway.Exchange.Basic
import Gateway.WebSocket.Accept

/-!
# The handler of an exchange

The handler asks the resolver, then the backend, and returns the head of the response. `arrive` begins it; `stepHandler`
takes it from one wait, or one look at what other parts write, to the next; `dropClient` in `Exchange.Actions` ends it
from outside.

A failure before the head of the response is recorded and answered with a page. If another part recorded a failure
first, that one is answered. The last look at the guard is before the head of the backend's response is composed: what
another part records later does not keep that head from going out.

Beside an operation with several cases stands what it touches at most (`touches_…`); all the rest is as before.
-/

namespace Gateway

namespace Exchange

/-! ## Returning -/

/-- Whether the client knows the body to be over, and its exact length. -/
def clientView (x : Exchange) : ClientBody → Bool × Option Nat
  | .direct body => (body.isEnded, body.exactLength)
  | .relayed =>
    match x.relay with
    | some t => (t.pump.pipe.isEnded, t.pump.pipe.exactLength)
    | none => (true, none)

/-- Returns the head of the response and gives the request body up. -/
def finish (x : Exchange) (head : ResponseHead) (body : ClientBody) : Exchange :=
  let x := { x with handler := .returned, inbound := x.inbound.release, clientBody := some body }
  let (ended, length) := x.clientView body
  x.observe (.answered head ended length)

/-- Returns a response whose head is traced. -/
def finishTraced (x : Exchange) (head : ResponseHead) (body : ClientBody) : Exchange :=
  (x.trace (.answerHeaded head.status head.headers)).finish head body

/-- A response with the given fields in its head. -/
def headWith (r : Response) (headers : Headers) : ResponseHead := { r.head with headers }

@[simp] theorem headers_headWith (r : Response) (headers : Headers) : (headWith r headers).headers = headers := rfl

/-- Answers a recorded failure. -/
def respondFailure (x : Exchange) (failure : Rejection) : Exchange :=
  let page := x.profile.page failure
  let head := headWith page (finishHeaders x.profile.idle x.context page.head.headers)
  (x.observe (.pageAsked failure)).finishTraced head (.direct page.body)

/-- Records a failure and answers the recorded one. -/
def reject (x : Exchange) (failure : Rejection) : Exchange :=
  let x := x.fail failure
  x.respondFailure (x.guard.failure.getD failure)

/-! ## Arrival -/

/-- Takes the request in: it gets its id, and the resolver is asked. -/
def arrive (x : Exchange) (ids : RequestIds) : Exchange × RequestIds :=
  let (id, headers, ids) := ids.assign x.head.headers
  let x := { x with
    context := { x.context with requestId := id }
    head := { x.head with headers }
    expectsContinue := headers.expectsContinue
    handler := .resolving }
  (x.trace (.requestStarted {
    method := x.head.method, uri := x.head.uri, version := x.head.version, scheme := x.context.scheme
    clientHost := x.context.clientHost, headers := x.head.headers }), ids)

/-! ## Plain requests -/

/-- Rejects a request the backend could not be asked. -/
def failForward (x : Exchange) (cause : Cause) : Exchange := (x.trace (.forwardFailed cause)).reject (.backend cause)

/-- Hands the request body to the backend: as a whole if it is there, otherwise through an upload. -/
def handOver (x : Exchange) (headers : Headers) : Exchange × Headers :=
  match x.inbound.complete? with
  | some bytes =>
    let headers :=
      if !bytes.isEmpty && !x.head.headers.isChunked then headers.insert .contentLength (.ofNat bytes.length)
      else headers
    let x := { x with
      bodyComplete := true
      inbound := x.inbound.release
      backendBody := some (.complete (.full bytes)) }
    (x.trace (.requestEnded bytes.length), headers)
  | none =>
    match x.inbound with
    | .buffered _ => (x, headers)
    | .streamed body =>
      let pump := Pump.new none body (Pipe.new x.head.headers.bodyLength true)
      ({ x with
        inbound := .buffered []
        upload := some { pump, running := true }
        backendBody := some .uploaded }, headers)

theorem touches_handOver (x : Exchange) (headers : Headers) : ∃ inbound bodyComplete upload backendBody log,
    (x.handOver headers).1 = { x with inbound, bodyComplete, upload, backendBody, log } := by
  unfold handOver
  split
  · exact ⟨_, _, _, _, _, rfl⟩
  · split <;> exact ⟨_, _, _, _, _, rfl⟩

/-- What the backend knows of the body it is handed. -/
def backendView (x : Exchange) : Bool × Option Nat :=
  match x.backendBody, x.upload with
  | some (.complete body), _ => (body.isEnded, body.exactLength)
  | some .uploaded, some t => (t.pump.pipe.isEnded, t.pump.pipe.exactLength)
  | _, _ => (true, none)

/-- Sends the head of a request, and waits for the answer. -/
def send (x : Exchange) (now : Nat) (head : RequestHead) : Exchange :=
  let x := x.trace (.forwardStarted head.method head.uri head.headers)
  let (ended, length) := x.backendView
  { x.observe (.forwarded head ended length) with handler := .forwarding now, backendCall := .waiting }

/-- Sends the request to the backend. -/
def forward (x : Exchange) (now : Nat) (target : Target) (host : String) : Exchange :=
  match outboundHead x.context target host "http" x.head.headers with
  | .error cause => x.failForward cause
  | .ok (uri, headers) =>
    let (x, headers) := x.handOver headers
    x.send now { method := x.head.method, uri, version := .http11, headers }

/-- Traces that the backend answered, and whether it did so before the request body was complete. -/
def traceResponse (x : Exchange) (response : Response) : Exchange :=
  let x := (x.trace (.responseStarted response.head.status response.head.headers)).trace .answerStarted
  if x.expectsContinue then x.trace (.answeredEarly x.bodyComplete) else x

theorem touches_traceResponse (x : Exchange) (response : Response) : ∃ log, x.traceResponse response = { x with log } := by
  unfold traceResponse
  dsimp only
  split <;> exact ⟨_, rfl⟩

/-- The head of a response that is relayed. -/
def relayedHead (x : Exchange) (response : Response) : ResponseHead :=
  let early := x.expectsContinue && !x.bodyComplete
  headWith response (relayedHeaders x.profile.idle x.context early response.head.headers)

/-- Gives the body of the backend's response up. -/
def releaseResponse (x : Exchange) (response : Response) : Exchange :=
  { x with backendAnswer := some (.ok { response with body := response.body.release }) }

/-- Composes the head of the response. A failure that is recorded by now is answered instead; one that is recorded later
the handler does not see. -/
def compose (x : Exchange) (response : Response) : Exchange :=
  match x.guard.failure with
  | some failure => (x.releaseResponse response).respondFailure failure
  | none => { x.traceResponse response with handler := .composed (x.relayedHead response) }

/-- The body is over: nothing is left to do, unless a failure was quicker. -/
def passEnded (x : Exchange) (head : ResponseHead) (response : Response) : Exchange :=
  let x := x.trace (.responseEnded 0)
  let x := if x.guard.isTerminated then x else x.complete.trace .answerEnded
  { x.releaseResponse response with handler := .heading head (.direct .empty) }

theorem touches_passEnded (x : Exchange) (head : ResponseHead) (response : Response) :
    ∃ handler guard backendAnswer log,
      x.passEnded head response = { x with handler, guard, backendAnswer, log } := by
  unfold passEnded
  dsimp only
  split <;> exact ⟨_, _, _, _, rfl⟩

/-- The body is moved to the client by a relay, which begins before the head is returned. -/
def passRelayed (x : Exchange) (head : ResponseHead) (response : Response) : Exchange :=
  let pump := Pump.new (some x.profile.receive) response.body (Pipe.new response.head.headers.bodyLength true)
  { x with backendAnswer := none, relay := some { pump, running := true }, handler := .heading head .relayed }

/-- Passes the body of the response on, by a relay unless it is over already. -/
def passBody (x : Exchange) (head : ResponseHead) (response : Response) : Exchange :=
  if response.body.isEnded then x.passEnded head response else x.passRelayed head response

/-- Whether the backend has been silent for too long. -/
def isOverdue (x : Exchange) (since now : Nat) : Bool := decide (x.profile.receive.nanos ≤ now - since)

/-- A step while waiting for the backend: a recorded failure comes first, then the answer, then the time. -/
def stepForwarding (x : Exchange) (now since : Nat) : Option Exchange :=
  match x.guard.awaitFailure with
  | some failure => some ({ x with backendCall := .dropped }.respondFailure failure)
  | none =>
    match x.backendAnswer with
    | some (.ok _) => some { x with backendCall := .answered, handler := .responding }
    | some (.error cause) => some { x with backendCall := .failed, handler := .failing cause }
    | none =>
      if x.isOverdue since now then
        some { x with backendCall := .dropped, handler := .failing (.receiveTimeout x.profile.receive) }
      else none

/-! ## Websocket requests -/

/-- Answers a websocket handshake that failed; the failure is recorded and no page is asked for. -/
def failSocket (x : Exchange) (cause : Cause) : Exchange :=
  let x := (x.trace (.socketFailed cause)).fail (.backend cause)
  let page := Response.bodiless .badGateway
  x.finishTraced (headWith page (failedSocketHeaders x.profile.idle x.context)) (.direct page.body)

/-- Asks for a websocket to the backend. -/
def connect (x : Exchange) (target : Target) (host : String) : Exchange :=
  match x.head.headers.get? .secWebSocketKey with
  | none => x.reject .noKey
  | some key =>
    match outboundHead x.context target host "ws" x.head.headers with
    | .error cause => x.failSocket cause
    | .ok (uri, headers) =>
      { (x.trace (.socketStarted uri headers)).observe (.socketAsked target headers) with handler := .connecting key }

/-- Answers the client's handshake as the backend answered ours. -/
def answerSocket (x : Exchange) (key : HeaderValue) : SocketAnswer → Exchange
  | .accepted protocol =>
    let x := { x.complete with tunnel := .accepted }
    let answer := Response.switching (WebSocket.accept? key.bytes) protocol
    x.finishTraced (headWith answer (answer.head.headers.stampId x.context.requestId)) (.direct answer.body)
  | .refused status headers =>
    let x := x.complete
    let answer := Response.bodiless status
    x.finishTraced (headWith answer (refusedHeaders x.profile.idle x.context headers)) (.direct answer.body)
  | .failed cause => x.failSocket cause

/-! ## Steps -/

/-- What follows the resolver's answer. -/
def resolve (x : Exchange) (now : Nat) : Exchange :=
  let resolution := x.resolver x.head x.context.tls
  let x := { x with head := resolution.head }
  match resolution.hop with
  | .error failure => x.reject failure
  | .ok (.answered response) =>
    let head := headWith response (finishHeaders x.profile.idle x.context response.head.headers)
    x.complete.finish head (.direct response.body)
  | .ok (.forward target) =>
    let x := x.trace (.hopResolved target)
    match requestedHost? x.context x.head with
    | none => x.reject .noHost
    | some host =>
      if !x.context.isHttp2 && x.head.headers.asksForWebSocket then x.connect target host
      else x.forward now target host

/-- The next step of the handler, `none` if it must wait. -/
def stepHandler (x : Exchange) (now : Nat) : Option Exchange :=
  match x.handler with
  | .resolving => if x.resolverReady then some (x.resolve now) else none
  | .forwarding since => x.stepForwarding now since
  | .failing cause => some (x.failForward cause)
  | .responding => x.response?.map x.compose
  | .composed head => x.response?.map (x.passBody head)
  | .heading head body => some (x.finishTraced head body)
  | .connecting key => x.socketAnswer.map (x.answerSocket key)
  | .idle | .returned | .dropped => none

end Exchange

end Gateway
