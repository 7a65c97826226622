import Gateway.Duration
import Gateway.Route
import Gateway.Settings.Document

/-!
# Checking settings

A settings document becomes the limits of a gateway and its routes, or the first flaw that is found: the listening
service, the idle timeout, the receive timeout, the list of routes, then each route by host, service and mount point.
What a document leaves out has a default.
-/

namespace Gateway

namespace Settings

/-- The limits of a gateway. -/
structure Limits where
  listen : List SocketAddress
  backlog : Nat
  maxClients : Nat
  maxStreams : Nat
  keepAlive : Bool
  idleTimeout : Duration
  /-- the longest time a connection is served, if there is such a limit -/
  handlingTimeout : Option Duration
  connectTimeout : Duration
  backendIdleTimeout : Duration
  maxIdlePerHost : Nat
  receiveTimeout : Duration
  traceMessages : Bool
deriving Repr, DecidableEq

/-- A time that is written as a number of seconds. -/
def seconds (n : UInt64) : Duration := .ofSeconds n.toNat

/-- The service a gateway listens on. -/
def defaultService : UInt16 := 8080

/-- The addresses to listen on: all of IPv6, which covers IPv4, or all of IPv4. -/
def listenAddresses (ipv6 : Bool) (service : UInt16) : List SocketAddress :=
  [⟨if ipv6 then .v6 (List.replicate 8 0) else .v4 0 0 0 0, service⟩]

/-- The limits of a gateway that no setting changes; it does not listen. -/
def Limits.standard : Limits where
  listen := []
  backlog := 1024
  maxClients := 512
  maxStreams := 64
  keepAlive := true
  idleTimeout := .ofSeconds 60
  handlingTimeout := none
  connectTimeout := .ofSeconds 10
  backendIdleTimeout := .ofSeconds 15
  maxIdlePerHost := 30
  receiveTimeout := .ofSeconds 300
  traceMessages := false

/-- What is wrong with a route. -/
inductive RouteFlaw where
  | noHost
  | zeroService
  | mount (written : String)
deriving Repr, DecidableEq

/-- The wording of a flaw. -/
def RouteFlaw.message : RouteFlaw → String
  | noHost => "Missing upstream host in route"
  | zeroService => "Upstream port must not be 0"
  | mount written => "Route prefix must start with '/': " ++ written

/-- What is wrong with a settings document. -/
inductive Flaw where
  | zeroService
  | zeroIdleTimeout
  | zeroReceiveTimeout
  | noRouteList
  | noRoutes
  | route (flaw : RouteFlaw)
deriving Repr, DecidableEq

/-- The wording of a flaw. -/
def Flaw.message : Flaw → String
  | zeroService => "listen_port must not be 0"
  | zeroIdleTimeout => "server_idle_timeout must be positive"
  | zeroReceiveTimeout => "upstream receive_timeout must be positive"
  | noRouteList => "Missing route spec"
  | noRoutes => "At least one route must be specified"
  | route flaw => flaw.message

namespace RouteEntry

/-- The mount point of a route, the root if none is written. -/
def mountPoint (r : RouteEntry) : String := r.mount.getD "/"

/-- The route an entry describes. -/
def build (r : RouteEntry) : Except RouteFlaw Route :=
  if r.host = "" then .error .noHost
  else if r.service = 0 then .error .zeroService
  else if r.mountPoint ≠ "" ∧ r.mountPoint.toList.head? ≠ some '/' then .error (.mount r.mountPoint)
  else .ok (Route.new r.mountPoint {
    host := r.host
    service := r.service
    uri := r.path.getD ""
    hostHeader := r.hostHeader.getD "" })

end RouteEntry

namespace Document

/-- The limits a document sets. -/
def limits (d : Document) : Except Flaw Limits :=
  let standard := Limits.standard
  let service := d.listenService.getD defaultService
  let backend := d.backend.getD ⟨none, none, none, none⟩
  if service = 0 then .error .zeroService
  else if d.idleTimeout = some 0 then .error .zeroIdleTimeout
  else if backend.receiveTimeout = some 0 then .error .zeroReceiveTimeout
  else .ok {
    listen := listenAddresses (d.listenIpv6.getD false) service
    backlog := (d.backlog.map UInt32.toNat).getD standard.backlog
    maxClients := (d.maxClients.map UInt32.toNat).getD standard.maxClients
    maxStreams := (d.maxStreams.map UInt32.toNat).getD standard.maxStreams
    keepAlive := d.keepAlive.getD standard.keepAlive
    idleTimeout := (d.idleTimeout.map seconds).getD standard.idleTimeout
    handlingTimeout := (d.handlingTimeout.filter (· ≠ 0)).map seconds
    connectTimeout := (backend.connectTimeout.map seconds).getD standard.connectTimeout
    backendIdleTimeout := (backend.idleTimeout.map seconds).getD standard.backendIdleTimeout
    maxIdlePerHost := (backend.maxIdlePerHost.map UInt64.toNat).getD standard.maxIdlePerHost
    receiveTimeout := (backend.receiveTimeout.map seconds).getD standard.receiveTimeout
    traceMessages := d.traceMessages.getD standard.traceMessages }

/-- The routes of a list of entries, or the flaw of the first that has one. -/
def buildRoutes : List RouteEntry → Except Flaw (List Route)
  | [] => .ok []
  | r :: rs =>
    match r.build with
    | .error flaw => .error (.route flaw)
    | .ok route =>
      match buildRoutes rs with
      | .error flaw => .error flaw
      | .ok routes => .ok (route :: routes)

/-- The limits and routes a document sets, or its first flaw. -/
def build (d : Document) : Except Flaw (Limits × RouteTable) :=
  match d.limits with
  | .error flaw => .error flaw
  | .ok limits =>
    match d.routes with
    | none => .error .noRouteList
    | some [] => .error .noRoutes
    | some entries =>
      match buildRoutes entries with
      | .error flaw => .error flaw
      | .ok routes => .ok (limits, ⟨routes⟩)

end Document

end Settings

end Gateway
