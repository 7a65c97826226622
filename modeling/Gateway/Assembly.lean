import Gateway.Failure.Cause

/-!
# Putting a gateway together

A gateway needs four parts. If some are missing, the first missing one is named.
-/

namespace Gateway

/-- The parts a gateway cannot do without, in the order they are asked for. -/
inductive Part where
  | shared
  | forwarder
  | webSocketConnector
  | resolver
deriving Repr, DecidableEq

namespace Part

def name : Part → String
  | shared => "globals"
  | forwarder => "forwarder"
  | webSocketConnector => "ws_connector"
  | resolver => "resolver"

def all : List Part := [shared, forwarder, webSocketConnector, resolver]

/-- The part a text names. -/
def ofString? (s : String) : Option Part := all.find? (·.name == s)

end Part

/-- Checks that all parts are there. -/
def assemble (parts : List Part) : Except Cause Unit :=
  match Part.all.find? fun p => !parts.contains p with
  | none => .ok ()
  | some p => .error (.incomplete (String.ofList ('\x60' :: p.name.toList ++ '\x60' :: " must be initialized".toList)))

end Gateway
