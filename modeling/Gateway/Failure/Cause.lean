import Gateway.Duration

/-!
# Causes of failure

What can go wrong while a request is served, and how it is worded.
-/

namespace Gateway

/-- What went wrong. -/
inductive Cause where
  /-- the operating system refused -/
  | io (detail : String)
  /-- the reader of a pipe is gone -/
  | pipeClosed
  /-- the writer of a pipe gave up -/
  | pipeAborted
  /-- the client's body broke off -/
  | requestBody (detail : String)
  /-- the backend's body broke off -/
  | responseBody (detail : String)
  /-- the backend sent nothing for this long -/
  | receiveTimeout (limit : Duration)
  /-- the client left before its response was complete -/
  | clientGone
  /-- the backend could not be asked -/
  | fetch (detail : String)
  /-- the target makes no URI -/
  | invalidTarget (detail : String)
  /-- a text is no field value -/
  | invalidHeaderValue
  /-- a websocket request came without its key -/
  | noWebSocketKey
  /-- the client's connection could not be taken over -/
  | clientUpgrade (detail : String)
  /-- a websocket failed -/
  | webSocket (detail : String)
  /-- no next hop could be told -/
  | resolution (detail : String)
  /-- a gateway was put together incompletely -/
  | incomplete (detail : String)
deriving Repr, DecidableEq

namespace Cause

/-- The wording of a cause. -/
def message : Cause → String
  | io detail => "IO error: " ++ detail
  | pipeClosed => "Receiver side of the pipe body is closed"
  | pipeAborted => "Pipe body write aborted"
  | requestBody detail => "Failed to read request body: " ++ detail
  | responseBody detail => "Failed to read response body: " ++ detail
  | receiveTimeout limit => "No data received from upstream within " ++ limit.text
  | clientGone => "Downstream connection closed before the response completed"
  | fetch detail => "Failed to fetch from upstream: " ++ detail
  | invalidTarget detail => "Invalid upstream target: " ++ detail
  | invalidHeaderValue => "Invalid header value: failed to parse header value"
  | noWebSocketKey => "No Sec-WebSocket-Key in upgrade request"
  | clientUpgrade detail => "Failed to upgrade downstream connection: " ++ detail
  | webSocket detail => "WebSocket error: " ++ detail
  | resolution detail => "Failed to resolve next hop: " ++ detail
  | incomplete detail => "Failed to build proxy engine: " ++ detail

end Cause

end Gateway
