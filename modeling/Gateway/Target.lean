import Gateway.Failure.Cause
import Gateway.Uri.Reader

/-!
# Targets

A target is the next hop of a request: the socket to connect to, the path and query to ask for, and the `host` value to
send, empty to leave that to the transport.
-/

namespace Gateway

/-- The next hop of a request. -/
structure Target where
  host : String
  service : UInt16
  uri : String
  hostHeader : String
deriving Repr, DecidableEq, Inhabited

namespace Target

/-- The `host` value to send, if there is one. -/
def hostHeader? (t : Target) : Option String := if t.hostHeader = "" then none else some t.hostHeader

/-- The same destination with more text after its path. -/
def withSuffix (t : Target) (suffix : String) : Target := { t with uri := t.uri ++ suffix }

/-- Host and service number; an IPv6 address is put in brackets. -/
def authorityChars (t : Target) : List Char :=
  let host := t.host.toList
  let shown := if host.contains ':' && host.head? != some '[' then '[' :: host ++ [']'] else host
  shown ++ ':' :: decimalDigits t.service.toNat

/-- Host and service number as text. -/
def authority (t : Target) : String := String.ofList t.authorityChars

/-- The path and query to ask for; a slash is put in front if there is none. -/
def absolutePath (t : Target) : List Char :=
  match t.uri.toList with
  | '/' :: cs => '/' :: cs
  | cs => '/' :: cs

/-- The URI of the target under a scheme. -/
def absoluteUri (t : Target) (scheme : String) : Except Cause Uri :=
  let text := String.ofList (scheme.toList ++ "://".toList ++ t.authorityChars ++ t.absolutePath)
  match Uri.ofString text with
  | .ok uri => .ok uri
  | .error flaw => .error (.invalidTarget (t.authority ++ ": " ++ flaw.message))

end Target

end Gateway
