import Gateway.Failure.Rejection
import Gateway.Message
import Gateway.Route

/-!
# Resolvers

A resolver says what is to be done with a request: forward it to a target, or answer it at once, or fail it. It may
change the head of the request first.
-/

namespace Gateway

/-- What is to be done with a request. -/
inductive NextHop where
  | forward (target : Target)
  | answered (response : Response)
deriving DecidableEq

/-- The answer of a resolver: the head to go on with, and the next hop or a failure. -/
structure Resolution where
  head : RequestHead
  hop : Except Rejection NextHop

/-- Decides about requests, from their head and whether the client's connection is encrypted. -/
abbrev Resolver := RequestHead → Bool → Resolution

namespace RouteTable

/-- The next hop of a request by its path: without a route, the request is answered at once. -/
def resolve (t : RouteTable) (uri : Uri) : NextHop :=
  match t.find uri.pathAndQuery with
  | some target => .forward target
  | none => .answered (.plainText .notFound "No route found")

/-- The resolver of a route table. -/
def resolver (t : RouteTable) : Resolver := fun head _ => ⟨head, .ok (t.resolve head.uri)⟩

end RouteTable

end Gateway
