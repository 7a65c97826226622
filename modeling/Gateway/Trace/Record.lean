import Gateway.Trace.Event

/-!
# Log records

The text that is logged for a trace event. The first line shows the leg of the exchange, the request id and what
happened. Events that show header fields have one more line per field value, two spaces in front, in the order in which
the fields hold them; a value is shown as text with U+FFFD for malformed bytes. Field values hold no line breaks, so every
further line is a field.
-/

namespace Gateway

/-- The leg of an exchange a record is about. -/
inductive Leg where
  | incomingRequest
  | outgoingRequest
  | incomingResponse
  | outgoingResponse
  | general
deriving Repr, DecidableEq

/-- The mark at the start of a record. -/
def Leg.mark : Leg → String
  | incomingRequest => ">| "
  | outgoingRequest => " |>"
  | incomingResponse => " |<"
  | outgoingResponse => "<| "
  | general => "   "

namespace Headers

/-- The line of a field: two spaces, the name, a colon, the value as text. -/
def fieldLine (e : HeaderName × HeaderValue) : List Char :=
  ' ' :: ' ' :: e.1.chars ++ ':' :: ' ' :: Utf8.decodeLossy e.2.bytes

/-- The lines of all fields, each after a line feed. -/
def dump (h : Headers) : List Char := h.entries.flatMap fun e => '\n' :: fieldLine e

end Headers

namespace TraceEvent

/-- The leg an event is about. -/
def leg : TraceEvent → Leg
  | requestStarted _ | requestEnded _ | requestFailed _ | clientLeft => .incomingRequest
  | forwardStarted .. | forwardFailed _ | socketStarted .. | socketFailed _ => .outgoingRequest
  | responseStarted .. | responseEnded _ | responseFailed _ => .incomingResponse
  | answerStarted | answerHeaded .. | answerEnded | answerFailed _ => .outgoingResponse
  | hopResolved _ | answeredEarly _ | tunnelOpened | tunnelClosed | tunnelFailed _ => .general

/-- What happened, in words. -/
def summary : TraceEvent → String
  | requestStarted r =>
    r.method.text ++ " " ++ r.uri.text ++ " " ++ r.version.text ++ " (" ++ r.scheme ++ " from " ++ r.clientHost ++ ")"
  | requestEnded bytes => "request body end (" ++ toString bytes ++ " bytes)"
  | requestFailed cause => "request exception: " ++ cause.message
  | clientLeft => "connection prematurely closed"
  | hopResolved target =>
    "next hop " ++ target.authority ++ target.uri ++ " host " ++ target.hostHeader?.getD "(transport default)"
  | forwardStarted method uri _ => method.text ++ " " ++ uri.text
  | forwardFailed cause => "request exception: " ++ cause.message
  | responseStarted status _ => status.text
  | responseEnded bytes => "response body end (" ++ toString bytes ++ " bytes)"
  | responseFailed cause => "response exception: " ++ cause.message
  | answerStarted => "response start"
  | answerHeaded status _ => status.text
  | answerEnded => "response body end"
  | answerFailed failure => "response exception: " ++ failure.text
  | answeredEarly complete =>
    "response before 100 Continue, request body complete: " ++ (if complete then "true" else "false")
  | socketStarted uri _ => "websocket " ++ uri.text
  | socketFailed cause => "websocket exception: " ++ cause.message
  | tunnelOpened => "websocket established"
  | tunnelClosed => "websocket closed"
  | tunnelFailed cause => "websocket exception: " ++ cause.message

/-- The header fields an event shows. -/
def shownHeaders : TraceEvent → Headers
  | requestStarted r => r.headers
  | forwardStarted _ _ headers => headers
  | responseStarted _ headers => headers
  | answerHeaded _ headers => headers
  | socketStarted _ headers => headers
  | _ => .empty

/-- The first line of a record. -/
def headline (id : String) (e : TraceEvent) : String := e.leg.mark ++ " [" ++ id ++ "] " ++ e.summary

/-- The record of an event of the request `id`. -/
def record (id : String) (e : TraceEvent) : String :=
  String.ofList ((e.headline id).toList ++ e.shownHeaders.dump)

end TraceEvent

end Gateway
