import Gateway.Body.Reading

/-!
# A pump on its own clock

A pump together with the time, as it runs when nothing else happens: after whatever its neighbours do, it goes on until
it must wait, and leaves its pipe when it has ended.
-/

namespace Gateway

/-- A pump and the time in nanoseconds. With `aborts` a failed pump lets its reader see that something is missing. -/
structure TimedPump where
  pump : Pump
  now : Nat
  aborts : Bool

namespace TimedPump

/-- The pump goes on until it must wait. -/
def settle (t : TimedPump) : TimedPump := { t with pump := (t.pump.run t.now).release t.aborts }

/-- Time passes. -/
def advance (t : TimedPump) (d : Duration) : TimedPump := { t with now := t.now + d.nanos }

/-- One more item of the body arrives. -/
def push (t : TimedPump) (item : Item) : TimedPump := { t with pump := t.pump.push item }

/-- The reader leaves. -/
def closeReader (t : TimedPump) : TimedPump := { t with pump := t.pump.closeReader }

/-- The reader reads an item, and lets the pump go on first if none is there. -/
def read (t : TimedPump) : Option Item × TimedPump :=
  readSettled (fun t => match t.pump.read with | (item, pump) => (item, { t with pump })) settle t

/-- The reader reads until the end, a failure, or nothing. -/
def readAll (t : TimedPump) : List (Option Item) × TimedPump := readFully read t.pump.readBound t

end TimedPump

end Gateway
