import Gateway.Counter

/-!
# Admission of connections

A gateway counts the connections it serves. A new connection is counted first and refused if the count before it was
above the limit; a refused connection is counted off again at once, a served one when it ends.
-/

namespace Gateway

/-- The connections being served, by numbers of their own. -/
structure Admission where
  limit : Nat
  count : ServedCount
  served : List Nat
deriving Repr, DecidableEq

namespace Admission

/-- A gateway that serves no connection yet. -/
def start (limit : Nat) : Admission := { limit, count := ⟨0⟩, served := [] }

/-- A new connection; the flag says whether it is served. -/
def accept (a : Admission) (connection : Nat) : Bool × Admission :=
  match a.count.increment with
  | (before, count) =>
    if before > a.limit then (false, { a with count := count.decrement.2 })
    else (true, { a with count, served := connection :: a.served })

/-- A connection that is served ends, for whatever reason. -/
def finish (a : Admission) (connection : Nat) : Admission :=
  if a.served.contains connection then
    { a with count := a.count.decrement.2, served := a.served.erase connection }
  else a

/-- A connection is served if the count before it was not above the limit. -/
theorem accept_of_le {a : Admission} (h : a.count.current ≤ a.limit) (connection : Nat) :
    a.accept connection = (true, { a with count := a.count.increment.2, served := connection :: a.served }) :=
  if_neg (by simpa [ServedCount.increment] using h)

/-- A connection that is refused leaves everything as it was. -/
theorem accept_of_lt {a : Admission} (h : a.limit < a.count.current) (connection : Nat) :
    a.accept connection = (false, a) :=
  if_pos h

theorem finish_of_mem {a : Admission} {connection : Nat} (h : connection ∈ a.served) :
    a.finish connection = { a with count := a.count.decrement.2, served := a.served.erase connection } :=
  if_pos (by simpa using h)

end Admission

end Gateway
