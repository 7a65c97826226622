import Gateway.Failure.Rejection
import Gateway.Message

/-!
# Answers to failed requests

A failed request is answered with a short text: the cause if there is one, otherwise the reason phrase of the status.
A status that cannot be answered with becomes 502.
-/

namespace Gateway

namespace Rejection

/-- The status to answer with. -/
def answerStatus (r : Rejection) : Status := (Status.ofNat? r.status).getD .badGateway

/-- The text to answer with. -/
def answerText (r : Rejection) : String :=
  match r.stage, r.cause with
  | .host, _ => "Exhausted resources while trying to extract Host header from the request"
  | _, some cause => cause.message
  | _, none => r.answerStatus.reason?.getD ""

/-- The answer to a failed request. -/
def page (r : Rejection) : Response := .plainText r.answerStatus r.answerText

end Rejection

end Gateway
