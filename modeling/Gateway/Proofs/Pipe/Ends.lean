import Gateway.Body.Ends
import Gateway.Proofs.Pipe.History

/-!
# The two ends make one pipe

The writer and the reader of a pipe share a demand, a channel, a cell and a flag (`PipeEnds`). What they do there looks
the same as on one `Pipe`: `Matches` relates the two, and every operation gives the same reply on both and keeps them
related. So what a pipe keeps of its history holds of the two ends.
-/

namespace Gateway

namespace PipeEnds

/-- One operation. What a side that is gone would do changes nothing. -/
def perform (e : PipeEnds) : PipeOp → PipeReply × PipeEnds
  | .ask => byWriter (.verdict e.readiness, e)
  | .send chunk =>
    let (readiness, q) := e.send chunk
    byWriter (.verdict readiness, q)
  | .sendTrailers fields =>
    let (sent, q) := e.sendTrailers fields
    byWriter (.trailersSent sent, q)
  | .sendFailure cause => byWriter (.done, e.sendFailure cause)
  | .abort => byWriter (.done, e.abort)
  | .closeWriter => byWriter (.done, e.closeWriter)
  | .read =>
    let (item, q) := e.read
    byReader (.read item, q)
  | .closeReader => byReader (.done, e.closeReader)
where
  byWriter (after : PipeReply × PipeEnds) : PipeReply × PipeEnds := if e.hasWriter then after else (.gone, e)
  byReader (after : PipeReply × PipeEnds) : PipeReply × PipeEnds := if e.hasReader then after else (.gone, e)

end PipeEnds

/-- The two ends hold what the pipe holds. -/
structure Matches (e : PipeEnds) (p : Pipe) : Prop where
  remaining : e.remaining = p.remaining
  delivered : e.delivered = p.isDelivered
  demand : e.demand = if p.reader then (if p.demanded then .ready else .pending) else .closed
  queue : e.data.waiting.map Prod.snd = p.queue
  /-- the writer's own sender has sent the chunks, and no other -/
  chunks : ∀ sent ∈ e.data.waiting, sent.1 = 0 ↔ sent.2.isOk = true
  senders : e.data.senders = if p.writer then [0] else []
  /-- the next sender is a new one -/
  fresh : 0 < e.data.next ∧ ∀ sent ∈ e.data.waiting, sent.1 < e.data.next
  receiver : e.data.receiver = p.reader
  ended : e.data.ended = true → p.writer = false ∧ p.queue = []
  value : e.trailers.value = p.trailers
  giver : e.trailers.giver = (p.writer && !p.trailed)
  taker : e.trailers.taker = p.reader

namespace Matches

variable {e : PipeEnds} {p : Pipe}

theorem new (length : BodyLength) (waits : Bool) : Matches (.new length waits) (.new length waits) where
  remaining := rfl
  delivered := rfl
  demand := by cases waits <;> rfl
  queue := rfl
  chunks := by simp [PipeEnds.new, Channel.new]
  senders := rfl
  fresh := by simp [PipeEnds.new, Channel.new]
  receiver := rfl
  ended := by simp [PipeEnds.new, Channel.new]
  value := rfl
  giver := rfl
  taker := rfl

theorem hasWriter (m : Matches e p) : e.hasWriter = p.writer := by
  rw [PipeEnds.hasWriter, m.senders]
  cases p.writer <;> rfl

/-- The place of the writer's own sender is taken while a chunk was not read. -/
theorem occupied (m : Matches e p) : (e.data.waiting.any fun sent => sent.1 == 0) = p.holdsChunk := by
  rw [Pipe.holdsChunk, ← m.queue, List.any_map, Bool.eq_iff_iff, List.any_eq_true, List.any_eq_true]
  refine exists_congr fun sent => and_congr_right fun hs => ?_
  have own := m.chunks sent hs
  obtain ⟨number, _ | _⟩ := sent <;> simpa [Except.isOk, Except.toBool] using own

theorem readiness (m : Matches e p) : e.readiness = p.readiness := by
  rw [PipeEnds.readiness, Channel.readiness, m.demand, m.receiver, m.occupied, Pipe.readiness]
  cases p.reader <;> cases p.demanded <;> cases p.holdsChunk <;> rfl

/-- One more message, by the writer's own sender if it is a chunk. -/
theorem queued (m : Matches e p) (there : p.writer = true) {number : Nat} {entry : Except Cause Bytes} {next : Nat}
    (own : number = 0 ↔ entry.isOk = true) (below : number < next) (grows : e.data.next ≤ next) :
    Matches { e with data := { e.data with waiting := e.data.waiting ++ [(number, entry)], next } }
      { p with queue := p.queue ++ [entry] } where
  remaining := m.remaining
  delivered := m.delivered
  demand := m.demand
  queue := by simp [m.queue]
  chunks := by
    intro sent hs
    obtain hs | rfl := List.mem_append.1 hs |>.imp_right List.mem_singleton.1
    · exact m.chunks sent hs
    · exact own
  senders := m.senders
  fresh := by
    refine ⟨Nat.lt_of_lt_of_le m.fresh.1 grows, fun sent hs => ?_⟩
    obtain hs | rfl := List.mem_append.1 hs |>.imp_right List.mem_singleton.1
    · exact Nat.lt_of_lt_of_le (m.fresh.2 sent hs) grows
    · exact below
  receiver := m.receiver
  ended := fun ended => by
    have gone := (m.ended ended).1
    simp [there] at gone
  value := m.value
  giver := m.giver
  taker := m.taker

theorem send (m : Matches e p) (there : p.writer = true) (chunk : Bytes) :
    (e.send chunk).1 = (p.send chunk).1 ∧ Matches (e.send chunk).2 (p.send chunk).2 := by
  unfold PipeEnds.send Pipe.send
  rw [m.readiness]
  cases hr : p.readiness with
  | pending | closed => exact ⟨rfl, m⟩
  | ready =>
    obtain ⟨reader, -, free⟩ := Pipe.readiness_eq_ready_iff.1 hr
    have place : e.data.readiness 0 = .ready := by simp [Channel.readiness, m.receiver, reader, m.occupied, free]
    simp only [Channel.send, place]
    exact ⟨trivial, m.queued there (by simp [Except.isOk, Except.toBool]) m.fresh.1 (Nat.le_refl _)⟩

theorem sendTrailers (m : Matches e p) (there : p.writer = true) (fields : Headers) :
    (e.sendTrailers fields).1 = (p.sendTrailers fields).1
      ∧ Matches (e.sendTrailers fields).2 (p.sendTrailers fields).2 := by
  unfold PipeEnds.sendTrailers Pipe.sendTrailers Cell.give
  rw [m.giver]
  by_cases ht : p.trailed = true
  · rw [if_neg (by simp [ht]), if_pos ht]
    exact ⟨rfl, m⟩
  · rw [if_pos (by simp [there, ht]), if_neg ht]
    by_cases hr : p.reader = true
    · rw [if_pos (m.taker.trans hr), if_pos hr]
      exact ⟨rfl, { m with value := rfl, giver := by simp }⟩
    · rw [if_neg (by simpa [m.taker] using hr), if_neg hr]
      exact ⟨rfl, { m with giver := by simp }⟩

/-- A new sender always has a place, and leaves the others where they are. -/
theorem sendFailure (m : Matches e p) (there : p.writer = true) (cause : Cause) :
    Matches (e.sendFailure cause) (p.sendFailure cause) := by
  have senders : (e.data.senders ++ [e.data.next]).erase e.data.next = e.data.senders := by
    have new : (0 == e.data.next) = false := by simpa using m.fresh.1.ne
    rw [m.senders, if_pos there]
    simp [new]
  have free : (e.data.waiting.any fun sent => sent.1 == e.data.next) = false := by
    simp only [List.any_eq_false, beq_iff_eq]
    exact fun sent hs => (m.fresh.2 sent hs).ne
  unfold Pipe.sendFailure
  split
  · rename_i hr
    have place : e.data.addSender.2.readiness e.data.next = .ready :=
      Channel.readiness_eq_ready (m.receiver.trans hr) free
    have sent : e.sendFailure cause = { e with data := { e.data with
        waiting := e.data.waiting ++ [(e.data.next, .error cause)], next := e.data.next + 1 } } := by
      simp only [Channel.addSender] at place
      simp only [PipeEnds.sendFailure, Channel.addSender, Channel.send, Channel.dropSender, place, senders]
    rw [sent]
    exact m.queued there (by simp [Except.isOk, Except.toBool, m.fresh.1.ne']) (Nat.lt_succ_self _) (Nat.le_succ _)
  · rename_i hr
    have place : e.data.addSender.2.readiness e.data.next = .closed :=
      Channel.readiness_eq_closed (m.receiver.trans (by simpa using hr))
    have lost : e.sendFailure cause = { e with data := { e.data with next := e.data.next + 1 } } := by
      simp only [Channel.addSender] at place
      simp only [PipeEnds.sendFailure, Channel.addSender, Channel.send, Channel.dropSender, place, senders]
    rw [lost]
    exact { m with fresh := ⟨Nat.succ_pos _, fun sent hs => Nat.lt_succ_of_lt (m.fresh.2 sent hs)⟩ }

theorem closeWriter (m : Matches e p) : Matches e.closeWriter p.closeWriter where
  remaining := m.remaining
  delivered := m.delivered
  demand := m.demand
  queue := m.queue
  chunks := m.chunks
  senders := by
    show e.data.senders.erase 0 = []
    rw [m.senders]
    cases p.writer <;> rfl
  fresh := m.fresh
  receiver := m.receiver
  ended := fun ended => ⟨rfl, (m.ended ended).2⟩
  value := m.value
  giver := rfl
  taker := m.taker

theorem abort (m : Matches e p) (there : p.writer = true) : Matches e.abort p.abort :=
  (m.sendFailure there .pipeAborted).closeWriter

/-- A read lets the writer know first. -/
theorem asked (m : Matches e p) (there : p.reader = true) :
    Matches { e with demand := .ready } { p with demanded := true } :=
  { m with demand := by simp [there] }

/-- Once the channel is over, the reader takes the trailers. -/
theorem readTrailers (m : Matches e { p with demanded := true }) (queue : p.queue = []) (writer : p.writer = false) :
    e.readTrailers.1 = p.read.1 ∧ Matches e.readTrailers.2 p.read.2 := by
  have giver : e.trailers.giver = false := by simp [m.giver, writer]
  have value : e.trailers.value = p.trailers := m.value
  cases trailers : p.trailers with
  | some fields =>
    have taken : e.readTrailers
        = (some (.trailers fields), { e with trailers := { e.trailers with value := none } }) := by
      simp only [PipeEnds.readTrailers, Cell.take, value, trailers]
    rw [taken, Pipe.read_trailers queue writer trailers]
    exact ⟨rfl, { m with value := rfl }⟩
  | none =>
    have none : e.readTrailers = (some .done, e) := by
      simp only [PipeEnds.readTrailers, Cell.take, value, trailers, giver, Bool.false_eq_true, if_false]
    rw [none, Pipe.read_done queue writer trailers]
    exact ⟨rfl, m⟩

/-- Something queued is received, and what stays queued keeps its senders. -/
theorem received (m : Matches e p) (there : p.reader = true) {sent : Nat × Except Cause Bytes}
    {rest : List (Nat × Except Cause Bytes)} (waiting : e.data.waiting = sent :: rest) :
    Matches { e with demand := .ready, data := { e.data with waiting := rest } }
      { p with demanded := true, queue := rest.map Prod.snd } where
  remaining := m.remaining
  delivered := m.delivered
  demand := by simp [there]
  queue := rfl
  chunks := fun other hs => m.chunks other (by simp [waiting, hs])
  senders := m.senders
  fresh := ⟨m.fresh.1, fun other hs => m.fresh.2 other (by simp [waiting, hs])⟩
  receiver := m.receiver
  ended := fun ended => by
    have queue := m.queue ▸ (m.ended ended).2
    simp [waiting] at queue
  value := m.value
  giver := m.giver
  taker := m.taker

/-- A chunk is counted by both. -/
theorem counted (m : Matches e p) (chunk : Bytes) :
    Matches (e.count chunk) { p with remaining := p.remaining.consume chunk.length } := by
  refine { m with remaining := ?_, delivered := ?_ }
  · simp [PipeEnds.count, m.remaining]
  · simp only [PipeEnds.count, m.delivered, m.remaining, Pipe.isDelivered]
    cases p.remaining with
    | unknown => rfl
    | known n => cases n <;> simp [BodyLength.consume]

theorem read (m : Matches e p) (there : p.reader = true) :
    e.read.1 = p.read.1 ∧ Matches e.read.2 p.read.2 := by
  have queue : p.queue = e.data.waiting.map Prod.snd := m.queue.symm
  cases waiting : e.data.waiting with
  | cons sent rest =>
    have begun : e.data.ended = false := by
      by_contra ended
      simp [waiting, (m.ended (by simpa using ended)).2] at queue
    have received := m.received there waiting
    rw [waiting, List.map_cons] at queue
    obtain ⟨number, cause | chunk⟩ := sent
    · have failed : e.read = (some (.failure cause),
          { e with demand := .ready, data := { e.data with waiting := rest } }) := by
        simp only [PipeEnds.read, Channel.receive, begun, waiting, Bool.false_eq_true, if_false]
      rw [failed, Pipe.read_failure queue]
      exact ⟨rfl, received⟩
    · have read : e.read = (some (.data chunk),
          PipeEnds.count { e with demand := .ready, data := { e.data with waiting := rest } } chunk) := by
        simp only [PipeEnds.read, Channel.receive, begun, waiting, Bool.false_eq_true, if_false]
      rw [read, Pipe.read_chunk queue]
      exact ⟨rfl, received.counted chunk⟩
  | nil =>
    rw [waiting, List.map_nil] at queue
    have asked := m.asked there
    cases writer : p.writer with
    | true =>
      have begun : e.data.ended = false := by
        by_contra ended
        simp [(m.ended (by simpa using ended)).1] at writer
      have senders : e.data.senders.isEmpty = false := by simp [m.senders, writer]
      have nothing : e.read = (none, { e with demand := .ready }) := by
        simp only [PipeEnds.read, Channel.receive, begun, waiting, senders, Bool.false_eq_true, if_false]
      rw [nothing, Pipe.read_nothing queue writer]
      exact ⟨rfl, asked⟩
    | false =>
      have senders : e.data.senders.isEmpty = true := by simp [m.senders, writer]
      have ended : e.read = PipeEnds.readTrailers
          { e with demand := .ready, data := { e.data with ended := true } } := by
        simp only [PipeEnds.read, Channel.receive, waiting, senders, if_true]
        split
        · rename_i was
          rw [← was, ← waiting]
        · rfl
      rw [ended]
      exact Matches.readTrailers { asked with ended := fun _ => ⟨writer, queue⟩ } queue writer

theorem closeReader (m : Matches e p) : Matches e.closeReader p.closeReader where
  remaining := m.remaining
  delivered := m.delivered
  demand := rfl
  queue := m.queue
  chunks := m.chunks
  senders := m.senders
  fresh := m.fresh
  receiver := rfl
  ended := m.ended
  value := m.value
  giver := m.giver
  taker := rfl

/-! ## Every operation -/

/-- An operation of the writer, whom both know to be there or gone. -/
theorem byWriter (m : Matches e p) {a : PipeReply × PipeEnds} {b : PipeReply × Pipe}
    (acts : p.writer = true → a.1 = b.1 ∧ Matches a.2 b.2) :
    (PipeEnds.perform.byWriter e a).1 = (Pipe.perform.byWriter p b).1
      ∧ Matches (PipeEnds.perform.byWriter e a).2 (Pipe.perform.byWriter p b).2 := by
  unfold PipeEnds.perform.byWriter Pipe.perform.byWriter
  rw [m.hasWriter]
  split
  · exact acts ‹_›
  · exact ⟨rfl, m⟩

/-- An operation of the reader. -/
theorem byReader (m : Matches e p) {a : PipeReply × PipeEnds} {b : PipeReply × Pipe}
    (acts : p.reader = true → a.1 = b.1 ∧ Matches a.2 b.2) :
    (PipeEnds.perform.byReader e a).1 = (Pipe.perform.byReader p b).1
      ∧ Matches (PipeEnds.perform.byReader e a).2 (Pipe.perform.byReader p b).2 := by
  unfold PipeEnds.perform.byReader Pipe.perform.byReader PipeEnds.hasReader
  rw [m.receiver]
  split
  · exact acts ‹_›
  · exact ⟨rfl, m⟩

/-- The same reply, and still the same pipe. -/
theorem perform (m : Matches e p) (op : PipeOp) :
    (e.perform op).1 = (p.perform op).1 ∧ Matches (e.perform op).2 (p.perform op).2 := by
  cases op with
  | ask => exact m.byWriter fun _ => ⟨congrArg PipeReply.verdict m.readiness, m⟩
  | send chunk => exact m.byWriter fun there => (m.send there chunk).imp_left (congrArg PipeReply.verdict)
  | sendTrailers fields => exact m.byWriter fun there => (m.sendTrailers there fields).imp_left (congrArg PipeReply.trailersSent)
  | sendFailure cause => exact m.byWriter fun there => ⟨rfl, m.sendFailure there cause⟩
  | abort => exact m.byWriter fun there => ⟨rfl, m.abort there⟩
  | closeWriter => exact m.byWriter fun _ => ⟨rfl, m.closeWriter⟩
  | read => exact m.byReader fun there => (m.read there).imp_left (congrArg PipeReply.read)
  | closeReader => exact m.byReader fun _ => ⟨rfl, m.closeReader⟩

theorem performAll (m : Matches e p) (ops : List PipeOp) :
    (Gateway.performAll PipeEnds.perform e ops).1 = (Gateway.performAll Pipe.perform p ops).1
      ∧ Matches (Gateway.performAll PipeEnds.perform e ops).2 (Gateway.performAll Pipe.perform p ops).2 := by
  induction ops generalizing e p with
  | nil => exact ⟨rfl, m⟩
  | cons op ops ih =>
    obtain ⟨reply, after⟩ := m.perform op
    obtain ⟨replies, last⟩ := ih after
    refine ⟨?_, last⟩
    simp only [Gateway.performAll, reply, replies]

/-- The two ends are what their history says, if the pipe is. -/
theorem oneSlot (m : Matches e p) {waits : Bool} {h : PipeHistory} (f : Followed waits h p) :
    OneSlot PipeEnds.perform waits h e := by
  have one := f.oneSlot
  have verdict : e.readiness = h.verdict waits := m.readiness.trans f.verdict_eq
  refine { one with asks := fun stays => ?_, sends := fun stays chunk => ?_, refused := fun unready chunk => ?_,
                    next := fun stays => ?_ }
  · have there : e.hasWriter = true := by simp [m.hasWriter, f.writer, stays]
    simp [PipeEnds.perform, PipeEnds.perform.byWriter, there, verdict]
  · exact (m.perform _).1.trans (one.sends stays chunk)
  · simp only [PipeEnds.perform, PipeEnds.perform.byWriter, PipeEnds.send]
    rw [← verdict] at unready
    cases hr : e.readiness with
    | ready => exact absurd hr unready
    | pending | closed => split <;> rfl
  · exact (m.perform _).1.trans (one.next stays)

end Matches

/-- Whatever the two sides do, on the two ends they share or on the pipe these make, a chunk is accepted and an item is
received as their history says. -/
theorem pipe_oneSlot (length : BodyLength) (waits : Bool) (ops : List PipeOp) :
    let (h, ends) := performAll PipeEnds.perform (.new length waits) ops
    let (h', pipe) := performAll Pipe.perform (.new length waits) ops
    h = h' ∧ OneSlot PipeEnds.perform waits h ends ∧ OneSlot Pipe.perform waits h pipe := by
  have followed := (Followed.new length waits).performAll ops
  obtain ⟨replies, last⟩ := (Matches.new length waits).performAll ops
  rw [List.nil_append] at followed
  rw [← replies] at followed
  exact ⟨replies, last.oneSlot followed, followed.oneSlot⟩

/-- A chunk waits for the first read, and another for the one before. -/
example : (performAll PipeEnds.perform (.new .unknown true)
    [.ask, .read, .send [1], .sendFailure .pipeAborted, .send [2], .read, .ask]).1.map Prod.snd
      = [.verdict .pending, .read none, .verdict .ready, .done, .verdict .pending, .read (some (.data [1])),
        .verdict .ready] := by decide

end Gateway
