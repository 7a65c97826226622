/-!
# Counters

The number of connections being served, and the numbers given to requests. Request numbers are words of 64 bits: after
the largest comes zero.
-/

namespace Gateway

/-- The number of connections being served. -/
structure ServedCount where
  current : Nat
deriving Repr, DecidableEq, Inhabited

namespace ServedCount

/-- One more; the answer is the number before. -/
def increment (c : ServedCount) : Nat × ServedCount := (c.current, ⟨c.current + 1⟩)

/-- One less, but not below zero; the answer is the number before. -/
def decrement (c : ServedCount) : Nat × ServedCount := (c.current, ⟨c.current - 1⟩)

end ServedCount

/-- The source of request numbers. -/
structure RequestIds where
  upcoming : UInt64
deriving Repr, DecidableEq, Inhabited

namespace RequestIds

/-- Takes the next number. -/
def take (g : RequestIds) : UInt64 × RequestIds := (g.upcoming, ⟨g.upcoming + 1⟩)

end RequestIds

end Gateway
