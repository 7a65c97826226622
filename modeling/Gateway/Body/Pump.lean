import Gateway.Body.Pipe

/-!
# Pumps

A pump moves a body into a pipe, item by item: the next item is read only after the pipe took the one before. It ends
when the body ends or fails, when the reader of the pipe leaves, or when the body stays silent for too long. Time counts
only while the pump waits for the body; waiting for the reader never does.

A pump goes in small steps. `step` makes one, or says that the pump must wait; `run` makes steps until it must.
-/

namespace Gateway

/-- How a pump ended. -/
inductive PumpResult where
  /-- the body ended, or everything announced was read -/
  | moved (bytes : Nat)
  | sourceFailed (cause : Cause)
  | sinkClosed
  | timedOut (limit : Duration)
deriving Repr, DecidableEq

namespace PumpResult

/-- The wording of a pump's failure. -/
def message? : PumpResult → Option String
  | moved _ => none
  | sourceFailed cause => some ("Source failed: " ++ cause.message)
  | sinkClosed => some "Sink closed before the source ended"
  | timedOut limit => some ("Source stayed idle for " ++ limit.text)

/-- A pump's failure as a cause. -/
def cause? : PumpResult → Option Cause
  | moved _ => none
  | sourceFailed cause => some cause
  | sinkClosed => some .pipeClosed
  | timedOut limit => some (.receiveTimeout limit)

end PumpResult

/-- Where a pump stands. Times are in nanoseconds. -/
inductive PumpPhase where
  | created
  /-- waiting for the body since a time -/
  | waiting (since : Nat)
  /-- holding a chunk the pipe has not taken -/
  | holding (chunk : Bytes)
  /-- holding trailers that are to be handed over -/
  | handing (fields : Headers)
  | finished (result : PumpResult)
deriving DecidableEq

/-- A pump with its body and its pipe. -/
structure Pump where
  /-- how long the body may stay silent -/
  limit : Option Duration
  source : Body
  pipe : Pipe
  phase : PumpPhase
  /-- bytes the pipe took -/
  moved : Nat

namespace Pump

/-- A pump that has not begun. -/
def new (limit : Option Duration) (source : Body) (pipe : Pipe) : Pump :=
  { limit, source, pipe, phase := .created, moved := 0 }

/-- The result once the pump ended. -/
def result? (p : Pump) : Option PumpResult :=
  match p.phase with
  | .finished result => some result
  | _ => none

/-- Ends the pump and gives its body up. -/
def finish (p : Pump) (result : PumpResult) : Pump :=
  { p with phase := .finished result, source := p.source.release }

/-- The reader left: that is no failure once it has read everything announced. -/
def finishClosed (p : Pump) : Pump :=
  p.finish (if p.pipe.isDelivered then .moved p.moved else .sinkClosed)

/-- Whether the body has been silent for the limit. -/
def isOverdue (p : Pump) (since now : Nat) : Option Duration :=
  match p.limit with
  | some limit => if limit.nanos ≤ now - since then some limit else none
  | none => none

theorem isOverdue_eq_some_iff {p : Pump} {since now : Nat} {limit : Duration} :
    p.isOverdue since now = some limit ↔ p.limit = some limit ∧ limit.nanos ≤ now - since := by
  unfold isOverdue
  cases p.limit with
  | none => simp
  | some own =>
    simp only [Option.ite_none_right_eq_some, Option.some.injEq]
    constructor
    · rintro ⟨late, rfl⟩
      exact ⟨rfl, late⟩
    · rintro ⟨rfl, late⟩
      exact ⟨late, rfl⟩

/-- A step while waiting for the body. A reader that left is noticed first, then what the body has, then the time. -/
def stepWaiting (p : Pump) (now since : Nat) : Option Pump :=
  if !p.pipe.reader then some p.finishClosed
  else
    match p.source.read with
    | (some (.data chunk), source) => some { p with source := source, phase := .holding chunk }
    | (some (.trailers fields), source) => some { p with source := source, phase := .handing fields }
    | (some (.failure cause), source) => some ({ p with source := source }.finish (.sourceFailed cause))
    | (some .done, source) => some ({ p with source := source }.finish (.moved p.moved))
    | (none, _) => (p.isOverdue since now).map fun limit => p.finish (.timedOut limit)

/-- A step while holding a chunk. -/
def stepHolding (p : Pump) (now : Nat) (chunk : Bytes) : Option Pump :=
  match p.pipe.send chunk with
  | (.ready, pipe) => some { p with pipe := pipe, phase := .waiting now, moved := p.moved + chunk.length }
  | (.closed, _) => some p.finishClosed
  | (.pending, _) => none

/-- A step while holding trailers. Unlike a chunk, they are missing to a reader that left even if it has read everything
announced. -/
def stepHanding (p : Pump) (now : Nat) (fields : Headers) : Pump :=
  match p.pipe.sendTrailers fields with
  | (true, pipe) => { p with pipe := pipe, phase := .waiting now }
  | (false, pipe) => { p with pipe := pipe }.finish .sinkClosed

/-- One step at a time, `none` if the pump must wait or has ended. -/
def step (p : Pump) (now : Nat) : Option Pump :=
  match p.phase with
  | .created => some { p with phase := .waiting now }
  | .waiting since => p.stepWaiting now since
  | .holding chunk => p.stepHolding now chunk
  | .handing fields => some (p.stepHanding now fields)
  | .finished _ => none

/-- At most `fuel` steps. -/
def runFor : Nat → Nat → Pump → Pump
  | 0, _, p => p
  | fuel + 1, now, p =>
    match p.step now with
    | some p => runFor fuel now p
    | none => p

/-- An upper bound of the steps that can be made before something outside changes. -/
def potential (p : Pump) : Nat :=
  match p.phase with
  | .created => 2 * p.source.size + 2
  | .waiting _ => 2 * p.source.size + 1
  | .holding _ | .handing _ => 2 * p.source.size + 2
  | .finished _ => 0

/-- Steps until the pump must wait or has ended. -/
def run (p : Pump) (now : Nat) : Pump := runFor p.potential now p

end Pump

end Gateway
