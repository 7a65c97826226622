import Gateway.Failure.Cause

/-!
# Classified failures

A request fails for one reason: the stage that could not go on, a status to answer with, and the cause if there is one.
Status 0 says that the client is already gone.
-/

namespace Gateway

/-- The stage of an exchange that failed. -/
inductive Stage where
  /-- reading the client's request -/
  | incomingRequest
  /-- sending the request to the backend -/
  | outgoingRequest
  /-- reading the backend's response -/
  | incomingResponse
  /-- sending the response to the client -/
  | outgoingResponse
  /-- finding out which host the client asked for -/
  | host
deriving Repr, DecidableEq, Inhabited

namespace Stage

def text : Stage → String
  | incomingRequest => "incomingRequestFail"
  | outgoingRequest => "outgoingRequestFail"
  | incomingResponse => "incomingResponseFail"
  | outgoingResponse => "outgoingResponseFail"
  | host => "noHostHeader"

def all : List Stage := [incomingRequest, outgoingRequest, incomingResponse, outgoingResponse, host]

/-- The stage a text names. -/
def ofString? (s : String) : Option Stage := all.find? (·.text == s)

theorem ofString?_text (s : Stage) : ofString? s.text = some s := by cases s <;> decide

end Stage

/-- The classified failure of a request. -/
structure Rejection where
  status : Nat
  stage : Stage
  cause : Option Cause
deriving Repr, DecidableEq

namespace Rejection

def text (r : Rejection) : String := r.stage.text ++ " (status " ++ toString r.status ++ ")"

/-- The client left: there is nobody to answer. -/
def clientLeft : Rejection := ⟨0, .outgoingResponse, some .clientGone⟩

/-- The request names no host. -/
def noHost : Rejection := ⟨400, .host, none⟩

/-- A websocket request without its key. -/
def noKey : Rejection := ⟨400, .incomingRequest, some .noWebSocketKey⟩

/-- The client's body broke off. -/
def requestBody (c : Cause) : Rejection := ⟨500, .incomingRequest, some c⟩

/-- The backend could not be asked or did not answer. -/
def backend (c : Cause) : Rejection := ⟨502, .outgoingRequest, some c⟩

/-- The backend's body broke off. -/
def responseBody (c : Cause) : Rejection := ⟨502, .incomingResponse, some c⟩

end Rejection

end Gateway
