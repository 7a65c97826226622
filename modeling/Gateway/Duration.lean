import Gateway.Text.Ascii

/-!
# Spans of time

A span is a whole number of nanoseconds. Its text takes the largest of the units `s`, `ms`, `µs`, `ns` that leaves a
whole part other than zero, and writes the fraction without zeros at its end.
-/

namespace Gateway

/-- A span of time in nanoseconds. -/
structure Duration where
  nanos : Nat
deriving Repr, DecidableEq, Inhabited

namespace Duration

def ofSeconds (n : Nat) : Duration := ⟨n * 1000000000⟩

def ofMillis (n : Nat) : Duration := ⟨n * 1000000⟩

/-- Whole seconds, rounded down. -/
def seconds (d : Duration) : Nat := d.nanos / 1000000000

@[simp] theorem seconds_ofSeconds (n : Nat) : (ofSeconds n).seconds = n := by
  simp [seconds, ofSeconds]

/-- `fraction` of a unit divided into `10 ^ places` parts, without zeros at its end; empty for zero. -/
def fractionText (fraction places : Nat) : String :=
  if fraction = 0 then ""
  else
    let digits := decimalDigits fraction
    let padded := List.replicate (places - digits.length) '0' ++ digits
    "." ++ String.ofList (padded.reverse.dropWhile (· == '0')).reverse

/-- The text of a span, for instance `1.5s`, `20ms`, `1.5µs`, `0ns`. -/
def text (d : Duration) : String :=
  let n := d.nanos
  let inUnit (size places : Nat) (unit : String) : String :=
    toString (n / size) ++ fractionText (n % size) places ++ unit
  if n ≥ 1000000000 then inUnit 1000000000 9 "s"
  else if n ≥ 1000000 then inUnit 1000000 6 "ms"
  else if n ≥ 1000 then inUnit 1000 3 "µs"
  else toString n ++ "ns"

end Duration

end Gateway
