import Gateway.Text.Utf8

/-!
# Websocket messages

Data messages are text or binary; pings, pongs and closes control the connection and are at most 125 bytes long. A close
may carry a code and a reason.
-/

namespace Gateway

namespace WebSocket

/-- A message on a websocket. -/
inductive Message where
  | text (content : String)
  | binary (content : Bytes)
  | ping (content : Bytes)
  | pong (content : Bytes)
  | close (reason : Option (Nat × String))
deriving Repr, DecidableEq

namespace Message

def isPong : Message → Bool
  | pong _ => true
  | _ => false

def isClose : Message → Bool
  | close _ => true
  | _ => false

/-- The number of bytes a control message carries, zero for data. -/
def controlLength : Message → Nat
  | text _ | binary _ => 0
  | ping content | pong content => content.length
  | close none => 0
  | close (some (_, reason)) => 2 + (utf8 reason).length

end Message

/-- Codes a close may carry: the registered ones that may be sent, and those from 3000 to 4999. -/
def isAllowedCode (code : Nat) : Bool :=
  [1000, 1001, 1002, 1003, 1007, 1008, 1009, 1010, 1011, 1012, 1013].contains code
    || (decide (3000 ≤ code) && decide (code ≤ 4999))

/-- What a close is taken for, and answered with: one with a code that is not allowed counts as a protocol error. -/
def acceptedReason : Option (Nat × String) → Option (Nat × String)
  | some (code, reason) => if isAllowedCode code then some (code, reason) else some (1002, "Protocol violation")
  | none => none

end WebSocket

end Gateway
