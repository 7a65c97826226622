import Gateway.Text.Utf8
import Gateway.Toml.Reader

/-!
# Settings as they are written

The settings document names limits of the gateway, times for the backends and routes. Every setting may be missing,
except the host and service of a route; keys that are not known are passed over. A group of settings may also be written
as an array of all its values in order.
-/

namespace Gateway

namespace Settings

/-- Settings about backends. -/
structure BackendEntry where
  connectTimeout : Option UInt64
  idleTimeout : Option UInt64
  maxIdlePerHost : Option UInt64
  receiveTimeout : Option UInt64
deriving Repr, DecidableEq, Inhabited

/-- A route as it is written. -/
structure RouteEntry where
  mount : Option String
  host : String
  service : UInt16
  path : Option String
  hostHeader : Option String
deriving Repr, DecidableEq, Inhabited

/-- A settings document. -/
structure Document where
  listenService : Option UInt16
  listenIpv6 : Option Bool
  backlog : Option UInt32
  maxStreams : Option UInt32
  maxClients : Option UInt32
  keepAlive : Option Bool
  idleTimeout : Option UInt64
  handlingTimeout : Option UInt64
  traceMessages : Option Bool
  backend : Option BackendEntry
  routes : Option (List RouteEntry)
deriving Repr, DecidableEq, Inhabited

open Toml (Value Entries)

/-! ## Single settings -/

/-- A number below a bound. -/
def natural? (bound : Nat) : Value → Option Nat
  | .integer n => if 0 ≤ n ∧ n < bound then some n.toNat else none
  | _ => none

def word16? (v : Value) : Option UInt16 := (natural? UInt16.size v).map UInt16.ofNat

def word32? (v : Value) : Option UInt32 := (natural? UInt32.size v).map UInt32.ofNat

def word64? (v : Value) : Option UInt64 := (natural? UInt64.size v).map UInt64.ofNat

def boolean? : Value → Option Bool
  | .boolean b => some b
  | _ => none

def string? : Value → Option String
  | .string s => some s
  | _ => none

/-- A setting that may be missing, but has to be of its type where it is there. -/
def optional {α : Type} (es : Entries) (key : String) (read : Value → Option α) : Option (Option α) :=
  match es.get? key with
  | none => some none
  | some v => (read v).map some

/-! ## Groups of settings -/

namespace BackendEntry

def ofEntries? (es : Entries) : Option BackendEntry := do
  return {
    connectTimeout := ← optional es "connect_timeout" word64?
    idleTimeout := ← optional es "idle_timeout" word64?
    maxIdlePerHost := ← optional es "max_idle_per_host" word64?
    receiveTimeout := ← optional es "receive_timeout" word64? }

/-- A date has none of the settings. -/
def ofValue? : Value → Option BackendEntry
  | .table _ es => ofEntries? es
  | .date => ofEntries? []
  | .array (connect :: idle :: max :: receive :: _) => do
    return {
      connectTimeout := some (← word64? connect)
      idleTimeout := some (← word64? idle)
      maxIdlePerHost := some (← word64? max)
      receiveTimeout := some (← word64? receive) }
  | _ => none

end BackendEntry

namespace RouteEntry

def ofEntries? (es : Entries) : Option RouteEntry := do
  return {
    mount := ← optional es "prefix" string?
    host := ← es.get? "host" >>= string?
    service := ← es.get? "port" >>= word16?
    path := ← optional es "path" string?
    hostHeader := ← optional es "host_header" string? }

def ofValue? : Value → Option RouteEntry
  | .table _ es => ofEntries? es
  | .array (mount :: host :: service :: path :: hostHeader :: _) => do
    return {
      mount := some (← string? mount)
      host := ← string? host
      service := ← word16? service
      path := some (← string? path)
      hostHeader := some (← string? hostHeader) }
  | _ => none

def listOfValue? : Value → Option (List RouteEntry)
  | .array items => items.mapM ofValue?
  | .tables elements => elements.mapM ofEntries?
  | _ => none

end RouteEntry

namespace Document

/-- The settings a table holds; `none` if one has the wrong type or is out of its range. -/
def ofEntries? (es : Entries) : Option Document := do
  return {
    listenService := ← optional es "listen_port" word16?
    listenIpv6 := ← optional es "listen_ipv6" boolean?
    backlog := ← optional es "tcp_listen_backlog" word32?
    maxStreams := ← optional es "max_concurrent_streams" word32?
    maxClients := ← optional es "max_clients" word32?
    keepAlive := ← optional es "keepalive" boolean?
    idleTimeout := ← optional es "server_idle_timeout" word64?
    handlingTimeout := ← optional es "connection_handling_timeout" word64?
    traceMessages := ← optional es "trace_messages" boolean?
    backend := ← optional es "upstream" BackendEntry.ofValue?
    routes := ← optional es "route" RouteEntry.listOfValue? }

end Document

/-- Why the bytes of a file are no settings document. -/
inductive FileFlaw where
  | notText
  | malformed
deriving Repr, DecidableEq

/-- The wording of a flaw. -/
def FileFlaw.message : FileFlaw → String
  | notText => "stream did not contain valid UTF-8"
  | malformed => "TOML parse error"

/-- The settings document in the bytes of a file. -/
def Document.ofBytes (bs : Bytes) : Except FileFlaw Document :=
  match Utf8.decode? bs with
  | none => .error .notText
  | some cs =>
    match Toml.read? cs >>= Document.ofEntries? with
    | some d => .ok d
    | none => .error .malformed

end Settings

end Gateway
