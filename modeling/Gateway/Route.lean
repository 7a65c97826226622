import Gateway.Target
import Gateway.Text.Utf8

/-!
# Routes

A route sends every path under its mount point to a target. A path lies under a mount point if it is that path or
continues it with a slash. Of several routes the one with the longest mount point is taken, and of equal ones the first;
the mount point is then replaced by the path of the target, and everything behind it, the query included, is kept.

Stars and then slashes at the end of a mount point and of a target's path do not count: `/api`, `/api/` and `/api/*`
are the same.

Mount points are compared with paths, measured and cut off by their bytes.
-/

namespace Gateway

namespace Route

/-- The byte of `/`. -/
def slash : UInt8 := 0x2F

/-- A list without the elements `x` at its end. -/
def dropEnd (x : Char) (cs : List Char) : List Char := (cs.reverse.dropWhile (· == x)).reverse

/-- A path without the stars and then the slashes at its end. -/
def trimPath (cs : List Char) : List Char := dropEnd '/' (dropEnd '*' cs)

end Route

/-- The paths under a mount point lead to a target. -/
structure Route where
  mount : String
  target : Target
deriving Repr, DecidableEq, Inhabited

namespace Route

/-- The route from a mount point to a target, both in normal form. -/
def new (mount : String) (target : Target) : Route where
  mount := String.ofList (trimPath mount.toList)
  target := { target with uri := String.ofList (trimPath target.uri.toList) }

/-- The number of bytes of the mount point. -/
def extent (r : Route) : Nat := (utf8 r.mount).length

/-- Whether a path lies under the mount point: its bytes begin with those of the mount point, and end there or go on
with a slash. -/
def covers (r : Route) (path : Bytes) : Bool :=
  (utf8 r.mount).isPrefixOf path && (path[r.extent]?).all (· == slash)

end Route

/-- An offset that falls within a character of a text, or beyond its end. -/
structure BadOffset where
  bytes : Nat
deriving Repr, DecidableEq

/-- The routes of a gateway, in the order they were given. -/
structure RouteTable where
  routes : List Route
deriving Repr, DecidableEq, Inhabited

namespace RouteTable

/-- The routes as they are tried: the longest mount points first, and equal ones as they were given. -/
def ordered (t : RouteTable) : List Route := t.routes.mergeSort fun r s => decide (s.extent ≤ r.extent)

/-- The route that serves a path and query. -/
def select (t : RouteTable) (pathAndQuery : String) : Option Route :=
  let path := String.ofList (cutAt '?' pathAndQuery.toList).1
  t.ordered.find? fun r => r.covers (utf8 path)

/-- The target of the selected route, continued by what follows the bytes of its mount point. -/
def lookUp (t : RouteTable) (pathAndQuery : String) : Except BadOffset (Option Target) :=
  match t.select pathAndQuery with
  | none => .ok none
  | some r =>
    match dropBytes? r.extent pathAndQuery.toList with
    | some rest => .ok (some (r.target.withSuffix (String.ofList rest)))
    | none => .error ⟨r.extent⟩

/-- The target for a path and query, if a route serves it. No look-up has a bad offset, since a selected mount point
ends between two characters. -/
def find (t : RouteTable) (pathAndQuery : String) : Option Target :=
  match t.lookUp pathAndQuery with
  | .ok found => found
  | .error _ => none

end RouteTable

end Gateway
