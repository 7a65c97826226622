import Gateway.Exchange.Basic
import Gateway.WebSocket.Accept

/-!
# The handshake with a backend

A websocket to a backend starts with a request of its own: the fields that make the handshake are generated for its URI,
everything else comes from the request that is passed on. The backend accepts with status 101 and the right answer to the
key; anything else with a complete head is a refusal.
-/

namespace Gateway

namespace WebSocket

/-- The names of the fields that make a handshake; they are never taken from the request that is passed on. -/
def handshakeNames : List HeaderName := [
  .connection, .upgrade, .secWebSocketKey, .secWebSocketVersion, .secWebSocketExtensions, .secWebSocketAccept]

/-! ## What is generated -/

/-- What generates the fields of a handshake for a URI, or says why it cannot. -/
abbrev Generator := Uri → Except Cause Headers

/-- The fields of a fresh handshake for a host and a key. -/
def freshHandshake (host key : HeaderValue) : Headers :=
  ((((Headers.empty.append .host host).append .connection .upgradeToken).append .upgrade .websocket).append
    .secWebSocketVersion .thirteen).append .secWebSocketKey key

/-- The host a handshake names where the request that is passed on names none: the authority of the URI without what
stands before an `@`. -/
def handshakeHost? (uri : Uri) : Option HeaderValue :=
  uri.authority >>= fun a =>
    HeaderValue.ofString? (String.ofList ((fields '@' a.toList).getLast?.getD []))

/-- A fresh handshake with a key. -/
def withKey (key : HeaderValue) : Generator := fun uri =>
  match handshakeHost? uri with
  | none => .error .invalidHeaderValue
  | some host => .ok (freshHandshake host key)

/-! ## What is asked -/

/-- The fields of the handshake request: those that were generated, with `host` only if the request that is passed on has
none, and all others of that request. -/
def handshakeHeaders (generated passed : Headers) : Headers :=
  let generated := if passed.contains .host then generated.remove .host else generated
  generated.addAll (passed.filterNames fun n => !handshakeNames.contains n)

/-- The handshake request for a target, or why there is none. -/
def handshakeRequest (generate : Generator) (target : Target) (passed : Headers) : Except Cause (Uri × Headers) :=
  match target.absoluteUri "ws" with
  | .error cause => .error cause
  | .ok uri =>
    match generate uri with
    | .error cause => .error cause
    | .ok generated => .ok (uri, handshakeHeaders generated passed)

/-! ## What is answered -/

/-- What a handshake comes to: a websocket and the fields it was accepted with, or none. -/
inductive Reply where
  | accepted (headers : Headers)
  | refused (status : Status) (headers : Headers)
  | failed (cause : Cause)
deriving DecidableEq

/-- What is told of a reply: of an acceptance, the subprotocol alone. -/
def Reply.answer : Reply → SocketAnswer
  | accepted headers => .accepted (headers.get? .secWebSocketProtocol)
  | refused status headers => .refused status headers
  | failed cause => .failed cause

/-- Asks for a websocket to a target: `dial` connects and sends the request. A target without a URI is found out before
anything is connected. -/
def connectWith (generate : Generator) (dial : Uri → Headers → Reply) (target : Target) (passed : Headers) :
    SocketAnswer :=
  match handshakeRequest generate target passed with
  | .error cause => .failed cause
  | .ok (uri, headers) => (dial uri headers).answer

/-- The same with a fresh handshake. -/
def connect (dial : Uri → Headers → Reply) (target : Target) (key : HeaderValue) (passed : Headers) : SocketAnswer :=
  connectWith (withKey key) dial target passed

end WebSocket

end Gateway
