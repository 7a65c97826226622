import Gateway.Failure.Cause
import Gateway.WebSocket.Message

/-!
# The relay of a tunnel

A relay passes the messages of each of two websockets to the other one, in order and unchanged. Pongs are not passed on,
because each websocket answers pings itself. A direction is over after a close was passed on, when its source ends, or
when either websocket fails. The first direction that is over ends the relay; then the client's websocket is closed, and
after it the backend's. The relay returns once both are.

The websockets themselves are given by `Ports`: any behaviour of them is allowed, a message or a place for it may be
missing for any time, and a close may have to wait for any time.
-/

namespace Gateway

namespace WebSocket

/-- The two ends of a tunnel. -/
inductive Side where
  | client
  | backend
deriving Repr, DecidableEq

/-- The end a message of this end goes to. -/
def Side.other : Side → Side
  | client => backend
  | backend => client

/-- What a websocket gives when it is asked for a message. -/
inductive Received where
  | message (m : Message)
  /-- no more messages -/
  | over
  | failed (cause : Cause)
deriving Repr, DecidableEq

/-- What a websocket answers when it is given a message. -/
inductive Sent where
  | taken
  /-- the websocket is closed already -/
  | over
  | failed (cause : Cause)
deriving Repr, DecidableEq

/-- Two websockets with the state `σ`. An answer of `none` means: not now. -/
structure Ports (σ : Type) where
  receive : Side → σ → Option Received × σ
  send : Side → Message → σ → Option Sent × σ
  /-- the flag says whether the websocket is closed now, or has still to write -/
  close : Side → σ → Bool × σ

/-- A relay. `held` is what a direction read and could not pass on yet; `passed` and `closed` tell what was done so
far, the latest last; `result` is what the first direction that was over ended with. -/
structure Relay where
  held : Side → Option Message
  result : Option (Except Cause Unit)
  passed : List (Side × Message)
  closed : List Side

namespace Relay

/-- A relay that has not begun. -/
def start : Relay := { held := fun _ => none, result := none, passed := [], closed := [] }

/-- Remembers or forgets a message of a direction. -/
def hold (r : Relay) (side : Side) (m : Option Message) : Relay :=
  { r with held := fun s => if s = side then m else r.held s }

/-- Ends the relay. -/
def stop (r : Relay) (result : Except Cause Unit) : Relay := { r with result := some result }

/-- What a direction does with a message it reads: pongs are dropped. -/
def take (r : Relay) (side : Side) (m : Message) : Relay := if m.isPong then r else r.hold side (some m)

/-- What follows when the other side took the message: a close ends the relay. -/
def pass (r : Relay) (side : Side) (m : Message) : Relay :=
  let r := { r.hold side none with passed := r.passed ++ [(side, m)] }
  if m.isClose then r.stop (.ok ()) else r

/-- A step of the direction that reads from `side`. The flag says whether the direction got further. -/
def stepSide {σ : Type} (ports : Ports σ) (side : Side) (r : Relay) (s : σ) : Bool × Relay × σ :=
  match r.result with
  | some _ => (false, r, s)
  | none =>
    match r.held side with
    | none =>
      match ports.receive side s with
      | (none, s) => (false, r, s)
      | (some (.message m), s) => (true, r.take side m, s)
      | (some .over, s) => (true, r.stop (.ok ()), s)
      | (some (.failed cause), s) => (true, r.stop (.error cause), s)
    | some m =>
      match ports.send side.other m s with
      | (none, s) => (false, r, s)
      | (some .taken, s) => (true, r.pass side m, s)
      | (some .over, s) => (true, r.stop (.ok ()), s)
      | (some (.failed cause), s) => (true, r.stop (.error cause), s)

/-- The websocket that is closed next: the client's, then the backend's. -/
def closesNext (r : Relay) : Option Side := [Side.client, .backend].find? fun side => side ∉ r.closed

/-- What the relay has returned: its result, once both websockets are closed. -/
def returned? (r : Relay) : Option (Except Cause Unit) := if r.closesNext.isNone then r.result else none

/-- After the end of the first direction the websockets are closed, one after the other. The flag says whether one more
is closed. -/
def stepClose {σ : Type} (ports : Ports σ) (r : Relay) (s : σ) : Bool × Relay × σ :=
  match r.result, r.closesNext with
  | some _, some side =>
    match ports.close side s with
    | (true, s) => (true, { r with closed := r.closed ++ [side] }, s)
    | (false, s) => (false, r, s)
  | _, _ => (false, r, s)

/-- A step of the whole relay: of one direction, else of the other, else the closing. -/
def step {σ : Type} (ports : Ports σ) (r : Relay) (s : σ) : Bool × Relay × σ :=
  match r.stepSide ports .client s with
  | (true, r, s) => (true, r, s)
  | (false, r, s) =>
    match r.stepSide ports .backend s with
    | (true, r, s) => (true, r, s)
    | (false, r, s) => r.stepClose ports s

/-- At most `fuel` steps. -/
def runFor {σ : Type} (ports : Ports σ) : Nat → Relay → σ → Relay × σ
  | 0, r, s => (r, s)
  | fuel + 1, r, s =>
    match r.step ports s with
    | (true, r, s) => runFor ports fuel r s
    | (false, r, s) => (r, s)

end Relay

end WebSocket

end Gateway
