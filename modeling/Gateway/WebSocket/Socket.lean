import Gateway.WebSocket.Relay

/-!
# Websocket endpoints

One end of a websocket connection. It answers pings and closes by itself: the answer waits until the endpoint next reads
or writes. After a close it sends nothing more, and after both closes it reads nothing more; the accepting end then
gives the connection up first.

Frames that were written stand in `outbox` until the connection carries them over; frames that arrived stand in `inbox`.
-/

namespace Gateway

namespace WebSocket

/-- Which end opened the connection. -/
inductive Role where
  | opening
  | accepting
deriving Repr, DecidableEq

/-- How far the closing got. -/
inductive Closing where
  | active
  | closedByUs
  | closedByPeer
  | acknowledged
  | terminated
deriving Repr, DecidableEq

namespace Closing

/-- Whether messages may still arrive. -/
def canRead : Closing → Bool
  | active | closedByUs => true
  | _ => false

end Closing

/-- Why an endpoint cannot go on. -/
inductive Fault where
  /-- the connection is closed as it should be -/
  | closed
  /-- the other end broke the rules of the protocol -/
  | protocol (detail : String)
  /-- the connection does not carry frames any more -/
  | lost
deriving Repr, DecidableEq

namespace Fault

/-- A fault as a cause; a closed connection is none. -/
def cause? : Fault → Option Cause
  | closed => none
  | protocol detail => some (.webSocket ("WebSocket protocol error: " ++ detail))
  | lost => some (.webSocket "IO error: broken pipe")

end Fault

/-- One end of a websocket connection. -/
structure Socket where
  role : Role
  closing : Closing
  /-- an automatic answer that was not written yet -/
  reply : Option Message
  /-- frames that were composed and not written -/
  unsent : List Message
  inbox : List Message
  outbox : List Message
  /-- the other end gave the connection up -/
  peerGone : Bool
  /-- a read failed or found the end: no more reads -/
  ended : Bool
deriving Repr, DecidableEq

namespace Socket

def new (role : Role) : Socket :=
  { role, closing := .active, reply := none, unsent := [], inbox := [], outbox := [], peerGone := false, ended := false }

/-! ## Writing -/

/-- Composes a frame. -/
def stage (s : Socket) (m : Message) : Socket := { s with unsent := s.unsent ++ [m] }

/-- Composes the automatic answer, if there is one. -/
def stageReply (s : Socket) : Socket :=
  match s.reply with
  | some m => { s.stage m with reply := none }
  | none => s

/-- Sets an automatic answer; one that is not a pong is kept. -/
def setReply (s : Socket) (m : Message) : Socket :=
  match s.reply with
  | some r => if r.isPong then { s with reply := some m } else s
  | none => { s with reply := some m }

/-- Writes all composed frames; a connection that is gone takes none. -/
def writeOut (s : Socket) : Option Fault × Socket :=
  if s.unsent.isEmpty then (none, s)
  else if s.peerGone then (some .lost, s)
  else (none, { s with outbox := s.outbox ++ s.unsent, unsent := [] })

/-- Whether this end gives the connection up now: the accepting end does after both closes. -/
def givesUp (s : Socket) : Bool := s.role == .accepting && !s.closing.canRead

/-- Writes everything that waits to be written. -/
def flush (s : Socket) : Option Fault × Socket :=
  let s := s.stageReply
  match s.writeOut with
  | (some fault, s) => (some fault, s)
  | (none, s) => if s.givesUp then (some .closed, { s with closing := .terminated }) else (none, s)

/-- Closes this end, once. -/
def close (s : Socket) (reason : Option (Nat × String)) : Option Fault × Socket :=
  match s.closing with
  | .active => ({ s.stage (.close reason) with closing := .closedByUs }).flush
  | _ => s.flush

/-- Sends a message. A flush that ends the connection as it should is no fault. -/
def send (s : Socket) (m : Message) : Option Fault × Socket :=
  match s.closing with
  | .terminated => (some .closed, s)
  | .active =>
    let (fault, s) := match m with
      | .close reason => s.close reason
      | .pong _ => (s.setReply m).flush
      | m => (s.stage m).flush
    (if fault = some .closed then none else fault, s)
  | _ => (some (.protocol "Sending after closing is not allowed"), s)

/-! ## Reading -/

/-- Takes a frame that arrived. -/
def takeFrame (s : Socket) (m : Message) : Except Fault Message × Socket :=
  if !s.closing.canRead then (.error (.protocol "Remote sent after having closed"), s)
  else if m.controlLength > 125 then
    (.error (.protocol "Control frame too big (payload must be 125 bytes or less)"), s)
  else
    match m with
    | .close reason =>
      match s.closing with
      | .active =>
        let reason := acceptedReason reason
        (.ok (.close reason), { s with closing := .closedByPeer }.setReply (.close reason))
      | _ => (.ok (.close reason), { s with closing := .acknowledged })
    | .ping content => (.ok m, if s.closing = .active then s.setReply (.pong content) else s)
    | m => (.ok m, s)

/-- The fault of a connection that ended without a frame. -/
def endFault (s : Socket) : Fault :=
  match s.closing with
  | .closedByPeer | .acknowledged => .closed
  | _ => .protocol "Connection reset without closing handshake"

/-- Reads the next frame, if one is there. -/
def readFrame (s : Socket) : Option (Except Fault Message) × Socket :=
  match s.inbox with
  | [] => if s.peerGone then (some (.error s.endFault), { s with closing := .terminated }) else (none, s)
  | m :: rest => match { s with inbox := rest }.takeFrame m with | (r, s) => (some r, s)

/-- Writes the automatic answer before a read, or gives the connection up. -/
def beforeRead (s : Socket) : Option Fault × Socket :=
  if s.reply.isSome then s.flush
  else if s.givesUp then (some .closed, { s with closing := .terminated })
  else (none, s)

/-- Reads a message, if one is there. After a fault every read finds the end. -/
def receive (s : Socket) : Option (Except Fault Message) × Socket :=
  if s.ended || s.closing = .terminated then (some (.error .closed), { s with ended := true })
  else
    match s.beforeRead with
    | (some fault, s) => (some (.error fault), { s with ended := true })
    | (none, s) =>
      match s.readFrame with
      | (some (.error fault), s) => (some (.error fault), { s with ended := true })
      | (r, s) => (r, s)

end Socket

/-! ## Connections -/

/-- A connection between the gateway and another party. -/
structure Link where
  near : Socket
  far : Socket
  /-- the other party gave its end up -/
  farDropped : Bool
deriving Repr, DecidableEq

namespace Link

/-- Carries written frames over; frames for an end that was given up are lost. -/
def carry (l : Link) : Link where
  near := { l.near with inbox := l.near.inbox ++ l.far.outbox, outbox := [] }
  far := { l.far with inbox := l.far.inbox ++ l.near.outbox, outbox := [] }
  farDropped := l.farDropped

/-- The gateway gives its end up. -/
def dropNear (l : Link) : Link := { l with far := { l.far with peerGone := true } }

/-- The other party gives its end up. -/
def dropFar (l : Link) : Link := { l with near := { l.near with peerGone := true }, farDropped := true }

end Link

end WebSocket

end Gateway
