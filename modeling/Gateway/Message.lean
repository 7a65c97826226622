import Gateway.Body.Source
import Gateway.Method
import Gateway.Status
import Gateway.Uri.Basic

/-!
# Requests and responses
-/

namespace Gateway

/-- The head of a request. -/
structure RequestHead where
  method : Method
  uri : Uri
  version : Version
  headers : Headers
deriving DecidableEq, Inhabited

/-- The head of a response; `phrase` is a reason phrase other than the registered one. -/
structure ResponseHead where
  status : Status
  phrase : Option Bytes
  headers : Headers
deriving DecidableEq, Inhabited

/-- A response with its body. -/
structure Response where
  head : ResponseHead
  body : Body
deriving DecidableEq, Inhabited

namespace Response

/-- A response of a short text. -/
def plainText (status : Status) (message : String) : Response where
  head := { status, phrase := none, headers := Headers.empty.insert .contentType .plainText }
  body := .full (utf8 message)

/-- A response without a body that says so. -/
def bodiless (status : Status) : Response where
  head := { status, phrase := none, headers := Headers.empty.insert .contentLength .zero }
  body := .empty

/-- The acceptance of a websocket handshake. -/
def switching (accept protocol : Option HeaderValue) : Response :=
  let headers := (Headers.empty.insert .connection .upgrade).insert .upgrade .websocket
  let headers := match accept with
    | some v => headers.insert .secWebSocketAccept v
    | none => headers
  let headers := match protocol with
    | some v => headers.insert .secWebSocketProtocol v
    | none => headers
  { head := { status := .switchingProtocols, phrase := none, headers }, body := .empty }

end Response

end Gateway
