import Gateway.Exchange.Tasks
import Gateway.WebSocket.Tunnel

/-!
# Websocket sessions

A session is an exchange whose websocket was accepted, with the tunnel that relays its messages. When the relay has
returned, the exchange is told how.
-/

namespace Gateway

namespace WebSocket

/-- What a party does with its end of a tunnel. -/
inductive Move where
  | send (m : Message)
  | receive
  | drop

/-- An exchange with its tunnel. -/
structure Session where
  exchange : Exchange
  tunnel : Tunnel

namespace Session

/-- A session at the moment its tunnel opens. -/
def start (x : Exchange) : Session := { exchange := x, tunnel := .fresh }

/-- A party does something, and all that follows from it. -/
def act (s : Session) (side : Side) (m : Move) : Seen × Session :=
  let (seen, tunnel) := match m with
    | .send message => s.tunnel.send side message
    | .receive => s.tunnel.receive side
    | .drop => s.tunnel.drop side
  let exchange := match tunnel.relay.returned? with
    | some result => s.exchange.endTunnel result
    | none => s.exchange
  (seen, { exchange, tunnel })

end Session

end WebSocket

end Gateway
