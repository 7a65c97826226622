import Gateway.Body.Channel

/-!
# The two ends of a pipe

A pipe is a writer and a reader that share nothing but a demand, a channel for chunks and failures, a cell for the
trailers and a flag. Chunks are sent by the writer's own sender, so there is place for one. A failure gets a sender of its
own, so there is always place for it. The reader asks the cell only after the channel is over.

What the two ends do together is what `Pipe` says.
-/

namespace Gateway

/-- A pipe as its two ends hold it. -/
structure PipeEnds where
  /-- the announced length less what was read, which only the reader knows -/
  remaining : BodyLength
  /-- nothing that was announced is missing -/
  delivered : Bool
  demand : Demand
  data : Channel (Except Cause Bytes)
  trailers : Cell Headers

namespace PipeEnds

/-- The ends of a new pipe. With `waits` the writer has to wait for the first read. -/
def new (length : BodyLength) (waits : Bool) : PipeEnds where
  remaining := length
  delivered := length == .known 0
  demand := if waits then .pending else .ready
  data := .new
  trailers := .new

/-! ## The writer -/

/-- The writer is there. -/
def hasWriter (e : PipeEnds) : Bool := e.data.senders.contains 0

/-- Whether the writer may send now: the demand comes first, then the channel. -/
def readiness (e : PipeEnds) : Readiness :=
  match e.demand with
  | .closed => .closed
  | .pending => .pending
  | .ready => e.data.readiness 0

/-- Sends a chunk once the reader can take it. -/
def send (e : PipeEnds) (chunk : Bytes) : Readiness × PipeEnds :=
  match e.readiness with
  | .ready =>
    match e.data.send 0 (.ok chunk) with
    | (.ready, data) => (.ready, { e with data })
    | (_, _) => (.closed, e)
  | r => (r, e)

/-- Gives the trailers away, if they were not before. -/
def sendTrailers (e : PipeEnds) (fields : Headers) : Bool × PipeEnds :=
  if e.trailers.giver then
    let (given, trailers) := e.trailers.give fields
    (given, { e with trailers })
  else (false, e)

/-- Sends a failure, by a sender of its own. -/
def sendFailure (e : PipeEnds) (cause : Cause) : PipeEnds :=
  let (sender, data) := e.data.addSender
  { e with data := (data.send sender (.error cause)).2.dropSender sender }

/-- The writer leaves. -/
def closeWriter (e : PipeEnds) : PipeEnds :=
  { e with data := e.data.dropSender 0, trailers := e.trailers.dropGiver }

/-- The writer gives up. -/
def abort (e : PipeEnds) : PipeEnds := (e.sendFailure .pipeAborted).closeWriter

/-- Whether every byte of the announced length was read. -/
def isDelivered (e : PipeEnds) : Bool := e.delivered

/-! ## The reader -/

/-- The reader is there. -/
def hasReader (e : PipeEnds) : Bool := e.data.receiver

/-- Takes the trailers, which come behind everything else. -/
def readTrailers (e : PipeEnds) : Option Item × PipeEnds :=
  match e.trailers.take with
  | (none, trailers) => (none, { e with trailers })
  | (some (some fields), trailers) => (some (.trailers fields), { e with trailers })
  | (some none, trailers) => (some .done, { e with trailers })

/-- Counts a chunk that was read. -/
def count (e : PipeEnds) (chunk : Bytes) : PipeEnds :=
  let remaining := e.remaining.consume chunk.length
  { e with remaining, delivered := e.delivered || remaining == .known 0 }

/-- Reads an item, if one is there. -/
def read (e : PipeEnds) : Option Item × PipeEnds :=
  let e := { e with demand := .ready }
  if e.data.ended then e.readTrailers
  else
    match e.data.receive with
    | (none, data) => (none, { e with data })
    | (some (some (.ok chunk)), data) => (some (.data chunk), count { e with data } chunk)
    | (some (some (.error cause)), data) => (some (.failure cause), { e with data })
    | (some none, data) => readTrailers { e with data }

/-- Whether the reader knows that nothing is missing, without another read. -/
def isEnded (e : PipeEnds) : Bool := e.remaining == .known 0

/-- The bytes still to come, where they are known. -/
def exactLength (e : PipeEnds) : Option Nat := e.remaining.toOption

/-- The reader leaves. -/
def closeReader (e : PipeEnds) : PipeEnds :=
  { e with demand := .closed, data := e.data.closeReceiver, trailers := e.trailers.closeTaker }

end PipeEnds

end Gateway
