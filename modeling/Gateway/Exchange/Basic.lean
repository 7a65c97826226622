import Gateway.Body.Pump
import Gateway.Exchange.Heads
import Gateway.Failure.Page
import Gateway.Guard
import Gateway.Resolver
import Gateway.Trace.Event

/-!
# Exchanges

An exchange is one request of a client with everything the gateway does for it: a handler that goes from the arrival of
the request to the head of the response, an upload that moves the client's body to the backend, a relay that moves the
backend's body to the client, and the tunnel of a websocket.

What the neighbours answer is deposited in the exchange (`resolverReady`, `backendAnswer`, `socketAnswer`, `takeover`);
the parts of the exchange find it there when they next make a step. Everything that can be seen from outside is written
to `log`.
-/

namespace Gateway

/-- How a gateway serves its exchanges. -/
structure Profile where
  /-- idle timeout of client connections -/
  idle : Duration
  /-- how long a backend may stay silent -/
  receive : Duration
  /-- the answer to a failed request -/
  page : Rejection → Response

/-- The body of a request: received before the request is handled, or still to be read. -/
inductive InboundBody where
  | buffered (bytes : Bytes)
  | streamed (body : Body)
deriving DecidableEq

namespace InboundBody

/-- The bytes of a body that is there in full. -/
def complete? : InboundBody → Option Bytes
  | buffered bytes => some bytes
  | streamed body => if body.isEnded then some [] else none

/-- One more item arrives. -/
def push : InboundBody → Item → InboundBody
  | buffered bytes, _ => buffered bytes
  | streamed body, item => streamed (body.push item)

/-- Gives the body up. -/
def release : InboundBody → InboundBody
  | buffered bytes => buffered bytes
  | streamed body => streamed body.release

/-- The source of a body that still arrives. -/
def source? : InboundBody → Option Source
  | buffered _ => none
  | streamed body => body.source?

end InboundBody

/-- What a backend answers to a websocket handshake. -/
inductive SocketAnswer where
  | accepted (protocol : Option HeaderValue)
  | refused (status : Status) (headers : Headers)
  | failed (cause : Cause)
deriving DecidableEq

/-- How far the call to the backend got. -/
inductive BackendCall where
  | uncalled
  | waiting
  | answered
  | failed
  | dropped
deriving Repr, DecidableEq

/-- A pump and whether it is still looked after. -/
structure Transfer where
  pump : Pump
  running : Bool

/-- The request body as the backend holds it. -/
inductive BackendBody where
  | complete (body : Body)
  /-- the pipe of the upload -/
  | uploaded
deriving DecidableEq

/-- The response body as the client holds it. -/
inductive ClientBody where
  | direct (body : Body)
  /-- the pipe of the relay -/
  | relayed
deriving DecidableEq

/-- Where the handler of an exchange stands: where it waits, and between two looks at what it shares with the other
parts. -/
inductive HandlerPhase where
  | idle
  /-- waiting for the resolver -/
  | resolving
  /-- waiting for the backend's response since a time -/
  | forwarding (since : Nat)
  /-- the backend could not be asked, which is to be recorded -/
  | failing (cause : Cause)
  /-- the backend's response is there -/
  | responding
  /-- the head for the client is composed -/
  | composed (head : ResponseHead)
  /-- the body goes to the client, and its head is to be returned -/
  | heading (head : ResponseHead) (body : ClientBody)
  /-- waiting for the websocket, to answer the client's key -/
  | connecting (key : HeaderValue)
  | returned
  | dropped
deriving DecidableEq

/-- Where the tunnel of a websocket stands. -/
inductive TunnelPhase where
  | absent
  /-- waiting for the client's connection -/
  | accepted
  | opened
  | over
deriving Repr, DecidableEq

/-- Something that can be seen from outside an exchange. -/
inductive Observation where
  | traced (event : TraceEvent)
  /-- the answer to a failure was asked for -/
  | pageAsked (failure : Rejection)
  /-- a failure after the response head, or with no client left -/
  | abandoned (failure : Rejection)
  /-- the backend was asked; whether the body is known to be over, and its exact length -/
  | forwarded (head : RequestHead) (bodyEnded : Bool) (bodyLength : Option Nat)
  | socketAsked (target : Target) (headers : Headers)
  /-- the response head went to the client -/
  | answered (head : ResponseHead) (bodyEnded : Bool) (bodyLength : Option Nat)
deriving DecidableEq

/-- The end of the client's body is observed when the upload ends, whatever else goes on. -/
def Observation.endsUpload : Observation → Bool
  | traced (.requestEnded _) | traced (.requestFailed _) => true
  | _ => false

/-- One request with everything that is done for it. -/
structure Exchange where
  profile : Profile
  resolver : Resolver
  context : Context
  /-- the head of the request, as changed so far -/
  head : RequestHead
  expectsContinue : Bool
  handler : HandlerPhase
  guard : Guard
  /-- the request body as the handler holds it; what an upload took over is found there -/
  inbound : InboundBody
  bodyComplete : Bool
  upload : Option Transfer
  /-- what broke the upload off, until that is recorded -/
  uploadError : Option Cause
  relay : Option Transfer
  tunnel : TunnelPhase
  backendCall : BackendCall
  backendBody : Option BackendBody
  clientBody : Option ClientBody
  /-- the resolver may answer -/
  resolverReady : Bool
  backendAnswer : Option (Except Cause Response)
  socketAnswer : Option SocketAnswer
  /-- the client's connection for a tunnel, or why it cannot be had -/
  takeover : Option (Except String Unit)
  log : List Observation

namespace Exchange

/-- An exchange before its request is handled. -/
def new (profile : Profile) (resolver : Resolver) (head : RequestHead) (tls : Bool) (client : SocketAddress)
    (inbound : InboundBody) : Exchange where
  profile := profile
  resolver := resolver
  context := { requestId := "", version := head.version, tls, clientHost := client.clientHost }
  head := head
  expectsContinue := false
  handler := .idle
  guard := .unset
  inbound := inbound
  bodyComplete := false
  upload := none
  uploadError := none
  relay := none
  tunnel := .absent
  backendCall := .uncalled
  backendBody := none
  clientBody := none
  resolverReady := false
  backendAnswer := none
  socketAnswer := none
  takeover := none
  log := []

/-- Whether the handler waits for somebody. -/
def isWaiting (x : Exchange) : Bool :=
  match x.handler with
  | .resolving | .forwarding _ | .connecting _ => true
  | _ => false

/-- The response of the backend that has answered. -/
def response? (x : Exchange) : Option Response :=
  match x.backendAnswer with
  | some (.ok response) => some response
  | _ => none

/-- Adds to the log. -/
def observe (x : Exchange) (o : Observation) : Exchange := { x with log := x.log ++ [o] }

/-- Adds a trace event to the log. -/
def trace (x : Exchange) (e : TraceEvent) : Exchange := x.observe (.traced e)

/-- Ends the request well unless it has ended. -/
def complete (x : Exchange) : Exchange := { x with guard := x.guard.complete.2 }

/-- Ends the request with a failure unless it has ended. -/
def fail (x : Exchange) (failure : Rejection) : Exchange := { x with guard := (x.guard.fail failure).2 }

end Exchange

end Gateway
