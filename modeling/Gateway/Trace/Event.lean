import Gateway.Failure.Rejection
import Gateway.Header.Map
import Gateway.Method
import Gateway.Status
import Gateway.Target

/-!
# Trace events

What an observer of an exchange is told: how far the request and the response got on each of the two connections.
-/

namespace Gateway

/-- A request as it arrived. -/
structure RequestStart where
  method : Method
  uri : Uri
  version : Version
  scheme : String
  clientHost : String
  headers : Headers
deriving DecidableEq

/-- Something that happened during an exchange. -/
inductive TraceEvent where
  /-- a request arrived -/
  | requestStarted (start : RequestStart)
  /-- the client's body arrived in full -/
  | requestEnded (bytes : Nat)
  /-- the client's body broke off -/
  | requestFailed (cause : Cause)
  /-- the client left before its response was complete -/
  | clientLeft
  /-- the next hop is known -/
  | hopResolved (target : Target)
  /-- the request is sent to the backend -/
  | forwardStarted (method : Method) (uri : Uri) (headers : Headers)
  /-- the request could not be sent, or was not answered -/
  | forwardFailed (cause : Cause)
  /-- the backend answered -/
  | responseStarted (status : Status) (headers : Headers)
  /-- the backend's body arrived in full -/
  | responseEnded (bytes : Nat)
  /-- the backend's body broke off -/
  | responseFailed (cause : Cause)
  /-- a response to the client begins -/
  | answerStarted
  /-- the head of the response to the client is complete -/
  | answerHeaded (status : Status) (headers : Headers)
  /-- the response to the client is complete -/
  | answerEnded
  /-- the response to the client broke off -/
  | answerFailed (failure : Rejection)
  /-- the backend answered a request that expected an interim answer first -/
  | answeredEarly (bodyComplete : Bool)
  /-- a websocket to the backend is asked for -/
  | socketStarted (uri : Uri) (headers : Headers)
  /-- no websocket to the backend -/
  | socketFailed (cause : Cause)
  /-- messages are relayed -/
  | tunnelOpened
  /-- the relay ended by a close -/
  | tunnelClosed
  /-- the relay ended by a failure -/
  | tunnelFailed (cause : Cause)
deriving DecidableEq

end Gateway
