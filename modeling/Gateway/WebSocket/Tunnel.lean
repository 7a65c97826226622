import Gateway.WebSocket.Socket

/-!
# Tunnels

A tunnel is a relay between two connections: the client's, where the gateway is the accepting end, and the backend's,
where it is the opening end. When the relay ends, the gateway closes both connections and gives them up. There is no end
of the room for what is written to them, so nothing that is written has to wait.
-/

namespace Gateway

namespace WebSocket

/-- The two connections of a tunnel. -/
structure Links where
  client : Link
  backend : Link
deriving Repr, DecidableEq

namespace Links

def get (l : Links) : Side → Link
  | .client => l.client
  | .backend => l.backend

def set (l : Links) (side : Side) (link : Link) : Links :=
  match side with
  | .client => { l with client := link }
  | .backend => { l with backend := link }

/-- Changes the gateway's end of a connection, and carries over what it wrote. -/
def setNear (l : Links) (side : Side) (s : Socket) : Links := l.set side { l.get side with near := s }.carry

/-- Changes the other party's end of a connection, and carries over what it wrote. -/
def setFar (l : Links) (side : Side) (s : Socket) : Links := l.set side { l.get side with far := s }.carry

/-- What the relay makes of a fault. -/
def received : Except Fault Message → Received
  | .ok m => .message m
  | .error fault =>
    match fault.cause? with
    | some cause => .failed cause
    | none => .over

/-- What the relay makes of the answer to a message. -/
def sent : Option Fault → Sent
  | none => .taken
  | some fault =>
    match fault.cause? with
    | some cause => .failed cause
    | none => .over

/-- The two connections as the relay sees them. -/
def ports : Ports Links where
  receive side l :=
    let (r, s) := (l.get side).near.receive
    (r.map received, l.setNear side s)
  send side m l :=
    let (fault, s) := (l.get side).near.send m
    (some (sent fault), l.setNear side s)
  close side l :=
    let (_, s) := (l.get side).near.close none
    (true, l.setNear side s)

end Links

/-- A relay with its two connections. -/
structure Tunnel where
  relay : Relay
  links : Links

/-- What the other party of a connection sees of it. -/
inductive Seen where
  | message (m : Message)
  | nothing
  | closed
  /-- the party had given the connection up -/
  | gone
  /-- the message went out -/
  | accepted
deriving Repr, DecidableEq

namespace Tunnel

/-- A tunnel between two fresh connections. -/
def fresh : Tunnel where
  relay := .start
  links := {
    client := ⟨.new .accepting, .new .opening, false⟩
    backend := ⟨.new .opening, .new .accepting, false⟩ }

/-- An upper bound of the steps of the relay: each frame is read and passed on, there is an end, and both ends are
closed. -/
def potential (t : Tunnel) : Nat :=
  2 * (t.links.client.near.inbox.length + t.links.backend.near.inbox.length) + 9

/-- The relay goes on until it must wait. Once it has returned, both connections are given up. -/
def settle (t : Tunnel) : Tunnel :=
  let (relay, links) := t.relay.runFor Links.ports t.potential t.links
  if relay.returned?.isSome then { relay, links := ⟨links.client.dropNear, links.backend.dropNear⟩ }
  else { relay, links }

/-- The party on a side sends a message. -/
def send (t : Tunnel) (side : Side) (m : Message) : Seen × Tunnel :=
  let link := t.links.get side
  if link.farDropped then (.gone, t)
  else
    let (fault, s) := link.far.send m
    (if fault.isNone then .accepted else .closed, { t with links := t.links.setFar side s }.settle)

/-- The party on a side reads a message. -/
def receive (t : Tunnel) (side : Side) : Seen × Tunnel :=
  let link := t.links.get side
  if link.farDropped then (.gone, t)
  else
    let (r, s) := link.far.receive
    let seen := match r with
      | none => .nothing
      | some (.ok m) => .message m
      | some (.error _) => .closed
    (seen, { t with links := t.links.setFar side s }.settle)

/-- The party on a side loses its connection. -/
def drop (t : Tunnel) (side : Side) : Seen × Tunnel :=
  let link := t.links.get side
  if link.farDropped then (.gone, t)
  else (.accepted, { t with links := t.links.set side link.dropFar }.settle)

end Tunnel

end WebSocket

end Gateway
