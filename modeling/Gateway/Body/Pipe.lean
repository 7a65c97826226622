import Gateway.Body.Source

/-!
# Pipes

A pipe is a body that is written while it is read. It holds at most one chunk that was not read, so that the writer
goes at the pace of the reader; where it waits for demand, the writer cannot send before the first read. Failures always
get through, behind what is queued. Trailers come out after the writer is gone and everything queued was read.

The announced length is counted down by what was *read*: a body is delivered once nothing of it is missing, whatever
the writer does.
-/

namespace Gateway

/-- A body between its writer and its reader. -/
structure Pipe where
  /-- the announced length less what was read -/
  remaining : BodyLength
  /-- what was sent and not read: chunks and failures -/
  queue : List (Except Cause Bytes)
  /-- the reader asked for data, or need not ask -/
  demanded : Bool
  /-- the reader is there -/
  reader : Bool
  /-- the writer is there -/
  writer : Bool
  /-- trailers that were not read -/
  trailers : Option Headers
  /-- trailers were sent -/
  trailed : Bool

/-- Whether a writer may send. -/
inductive Readiness where
  | ready
  | pending
  | closed
deriving Repr, DecidableEq

namespace Pipe

/-- A new pipe. With `waits` the writer has to wait for the first read. -/
def new (length : BodyLength) (waits : Bool) : Pipe where
  remaining := length
  queue := []
  demanded := !waits
  reader := true
  writer := true
  trailers := none
  trailed := false

/-- Whether a chunk was sent and not read. -/
def holdsChunk (p : Pipe) : Bool := p.queue.any fun
  | .ok _ => true
  | .error _ => false

/-- Whether every byte of the announced length was read. -/
def isDelivered (p : Pipe) : Bool := p.remaining == .known 0

/-! ## The writer -/

/-- Whether the writer may send now. -/
def readiness (p : Pipe) : Readiness :=
  if !p.reader then .closed
  else if p.demanded && !p.holdsChunk then .ready
  else .pending

theorem readiness_eq_closed_iff {p : Pipe} : p.readiness = .closed ↔ p.reader = false := by
  unfold readiness
  cases p.reader <;> cases p.demanded <;> cases p.holdsChunk <;> simp

theorem readiness_eq_ready_iff {p : Pipe} :
    p.readiness = .ready ↔ p.reader = true ∧ p.demanded = true ∧ p.holdsChunk = false := by
  unfold readiness
  cases p.reader <;> cases p.demanded <;> cases p.holdsChunk <;> simp

/-- The chunks that were sent and not read. -/
theorem holdsChunk_eq_false_iff {p : Pipe} : p.holdsChunk = false ↔ p.queue.filterMap Except.toOption = [] := by
  simp only [holdsChunk, List.any_eq_false, List.filterMap_eq_nil_iff]
  refine forall₂_congr fun entry _ => ?_
  cases entry <;> simp [Except.toOption]

/-- Sends a chunk if the pipe is ready for it, else leaves the pipe as it is. -/
def send (p : Pipe) (chunk : Bytes) : Readiness × Pipe :=
  match p.readiness with
  | .ready => (.ready, { p with queue := p.queue ++ [.ok chunk] })
  | r => (r, p)

/-- Sends the trailers. Only the first call counts, and only while the reader is there; the flag says whether it did. -/
def sendTrailers (p : Pipe) (fields : Headers) : Bool × Pipe :=
  if p.trailed then (false, p)
  else if p.reader then (true, { p with trailers := some fields, trailed := true })
  else (false, { p with trailed := true })

theorem sendTrailers_of_taken {p : Pipe} (reader : p.reader = true) (untrailed : p.trailed = false) (fields : Headers) :
    p.sendTrailers fields = (true, { p with trailers := some fields, trailed := true }) := by
  simp [sendTrailers, reader, untrailed]

theorem sendTrailers_of_refused {p : Pipe} (refuses : p.reader = false ∨ p.trailed = true) (fields : Headers) :
    p.sendTrailers fields = (false, { p with trailed := true }) := by
  unfold sendTrailers
  split
  · rename_i trailed
    rw [← trailed]
  · rename_i untrailed
    rw [if_neg (by simpa using refuses.resolve_right untrailed)]

/-- Sends a failure, which always gets through. -/
def sendFailure (p : Pipe) (cause : Cause) : Pipe :=
  if p.reader then { p with queue := p.queue ++ [.error cause] } else p

theorem sendFailure_eq (p : Pipe) (cause : Cause) :
    p.sendFailure cause = { p with queue := p.queue ++ if p.reader then [.error cause] else [] } := by
  unfold sendFailure
  split <;> simp

/-- The writer leaves. -/
def closeWriter (p : Pipe) : Pipe := { p with writer := false }

/-- The writer gives up, so that the reader does not take what it got for the whole. -/
def abort (p : Pipe) : Pipe := (p.sendFailure .pipeAborted).closeWriter

theorem abort_eq (p : Pipe) :
    p.abort = { p with queue := p.queue ++ if p.reader then [.error .pipeAborted] else [], writer := false } := by
  rw [abort, sendFailure_eq]
  rfl

/-! ## The reader -/

/-- Reads an item, if one is there. -/
def read (p : Pipe) : Option Item × Pipe :=
  let p := { p with demanded := true }
  match p.queue with
  | .ok chunk :: rest =>
    (some (.data chunk), { p with queue := rest, remaining := p.remaining.consume chunk.length })
  | .error cause :: rest => (some (.failure cause), { p with queue := rest })
  | [] =>
    if p.writer then (none, p)
    else
      match p.trailers with
      | some fields => (some (.trailers fields), { p with trailers := none })
      | none => (some .done, p)

section

variable {p : Pipe}

theorem read_chunk {chunk : Bytes} {rest : List (Except Cause Bytes)} (queue : p.queue = .ok chunk :: rest) :
    p.read = (some (.data chunk),
      { p with demanded := true, queue := rest, remaining := p.remaining.consume chunk.length }) := by
  simp only [read, queue]

theorem read_failure {cause : Cause} {rest : List (Except Cause Bytes)} (queue : p.queue = .error cause :: rest) :
    p.read = (some (.failure cause), { p with demanded := true, queue := rest }) := by
  simp only [read, queue]

theorem read_nothing (queue : p.queue = []) (writer : p.writer = true) :
    p.read = (none, { p with demanded := true }) := by
  simp only [read, queue, writer, if_true]

theorem read_trailers (queue : p.queue = []) (writer : p.writer = false) {fields : Headers}
    (trailers : p.trailers = some fields) :
    p.read = (some (.trailers fields), { p with demanded := true, trailers := none }) := by
  simp only [read, queue, writer, trailers, Bool.false_eq_true, if_false]

theorem read_done (queue : p.queue = []) (writer : p.writer = false) (trailers : p.trailers = none) :
    p.read = (some .done, { p with demanded := true }) := by
  simp only [read, queue, writer, trailers, Bool.false_eq_true, if_false]

end

/-- Whether the reader knows that nothing is missing, without another read. -/
def isEnded (p : Pipe) : Bool := p.remaining == .known 0

/-- The bytes still to come, where they are known. -/
def exactLength (p : Pipe) : Option Nat := p.remaining.toOption

/-- The reader leaves. -/
def closeReader (p : Pipe) : Pipe := { p with reader := false }

end Pipe

end Gateway
