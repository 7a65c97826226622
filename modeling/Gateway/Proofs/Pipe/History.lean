import Gateway.Proofs.Delivery.Stream
import Mathlib.Data.List.TakeWhile

/-!
# A pipe has place for one chunk

The two sides of a pipe act on it one operation at a time, in any order. Everything about a pipe can be told from what was
done with it before and what that came to (`PipeHistory`): whether a chunk will be taken, and what the next read gives.

`Pipe.perform` is one operation, `OneSlot` what a history says about the pipe it led to, `Followed` what the pipe itself
keeps of it, step by step.
-/

namespace Gateway

/-- What one of the two sides does. -/
inductive PipeOp where
  /-- the writer asks whether it may send -/
  | ask
  | send (chunk : Bytes)
  | sendTrailers (fields : Headers)
  | sendFailure (cause : Cause)
  | abort
  | closeWriter
  | read
  | closeReader

/-- What an operation comes to. -/
inductive PipeReply where
  /-- the side that would act is not there -/
  | gone
  | verdict (readiness : Readiness)
  | trailersSent (sent : Bool)
  /-- what was read, if something was there -/
  | read (item : Option Item)
  | done
deriving DecidableEq

/-- Operations, one after another. -/
def performAll {σ : Type} (perform : σ → PipeOp → PipeReply × σ) : σ → List PipeOp → List (PipeOp × PipeReply) × σ
  | s, [] => ([], s)
  | s, op :: ops =>
    let (reply, s) := perform s op
    let (more, s) := performAll perform s ops
    ((op, reply) :: more, s)

theorem performAll_append {σ : Type} (perform : σ → PipeOp → PipeReply × σ) (s : σ) (ops more : List PipeOp) :
    performAll perform s (ops ++ more)
      = ((performAll perform s ops).1 ++ (performAll perform (performAll perform s ops).2 more).1,
        (performAll perform (performAll perform s ops).2 more).2) := by
  induction ops generalizing s with
  | nil => rfl
  | cons op ops ih => simp only [List.cons_append, performAll, ih]

namespace Pipe

/-- One operation. What a side that is gone would do changes nothing. -/
def perform (p : Pipe) : PipeOp → PipeReply × Pipe
  | .ask => byWriter (.verdict p.readiness, p)
  | .send chunk =>
    let (readiness, q) := p.send chunk
    byWriter (.verdict readiness, q)
  | .sendTrailers fields =>
    let (sent, q) := p.sendTrailers fields
    byWriter (.trailersSent sent, q)
  | .sendFailure cause => byWriter (.done, p.sendFailure cause)
  | .abort => byWriter (.done, p.abort)
  | .closeWriter => byWriter (.done, p.closeWriter)
  | .read =>
    let (item, q) := p.read
    byReader (.read item, q)
  | .closeReader => byReader (.done, p.closeReader)
where
  byWriter (after : PipeReply × Pipe) : PipeReply × Pipe := if p.writer then after else (.gone, p)
  byReader (after : PipeReply × Pipe) : PipeReply × Pipe := if p.reader then after else (.gone, p)

end Pipe

/-! ## What a history says -/

/-- Operations with what they came to, in order. -/
abbrev PipeHistory := List (PipeOp × PipeReply)

namespace PipeHistory

/-- The reader leaves by this. -/
def endsReader : PipeOp × PipeReply → Bool
  | (.closeReader, _) => true
  | _ => false

/-- The writer leaves by this. -/
def endsWriter : PipeOp × PipeReply → Bool
  | (.abort, _) | (.closeWriter, _) => true
  | _ => false

/-- A read, of a reader that is there. -/
def reads : PipeOp × PipeReply → Bool
  | (.read, .read _) => true
  | _ => false

/-- What is queued by this while the reader is there. -/
def enqueued? : PipeOp × PipeReply → Option (Except Cause Bytes)
  | (.send chunk, .verdict .ready) => some (.ok chunk)
  | (.sendFailure cause, .done) => some (.error cause)
  | (.abort, .done) => some (.error .pipeAborted)
  | _ => none

/-- The trailers of this. -/
def fields? : PipeOp × PipeReply → Option Headers
  | (.sendTrailers fields, .trailersSent _) => some fields
  | _ => none

/-- What is received by this. -/
def item? : PipeOp × PipeReply → Option Item
  | (.read, .read item) => item
  | _ => none

/-- The part of a history in which the reader is there. -/
def attended (h : PipeHistory) : PipeHistory := h.takeWhile fun e => !endsReader e

def readerLeft (h : PipeHistory) : Bool := h.any endsReader

def writerLeft (h : PipeHistory) : Bool := h.any endsWriter

/-- The pipe was read at least once. -/
def wasRead (h : PipeHistory) : Bool := h.any reads

/-- The chunks that were accepted and the failures that were sent, in order. -/
def queued (h : PipeHistory) : List (Except Cause Bytes) := h.attended.filterMap enqueued?

/-- The trailers of the first attempt to send some. -/
def trailers? (h : PipeHistory) : Option Headers := h.attended.findSome? fields?

/-- What was received, in order. -/
def received (h : PipeHistory) : List Item := h.filterMap item?

/-- What was received and had been queued. -/
def taken (h : PipeHistory) : List (Except Cause Bytes) := h.received.filterMap fun
  | .data chunk => some (.ok chunk)
  | .failure cause => some (.error cause)
  | _ => none

/-- What was queued and not received. -/
def unread (h : PipeHistory) : List (Except Cause Bytes) := h.queued.drop h.taken.length

/-- The chunks that were accepted and not received. -/
def unreadChunks (h : PipeHistory) : List Bytes := h.unread.filterMap Except.toOption

/-- Whether a chunk is accepted: while the reader is there, it must have read unless the writer need not wait for that, and
it must have received every accepted chunk. -/
def verdict (waits : Bool) (h : PipeHistory) : Readiness :=
  if h.readerLeft then .closed
  else if (h.wasRead || !waits) && h.unreadChunks.isEmpty then .ready
  else .pending

/-- What the next read gives: what waits longest, and once everything queued was received and the writer has left, the
trailers and then the end. -/
def next (h : PipeHistory) : Option Item :=
  match h.unread with
  | first :: _ => some (Pipe.entry first)
  | [] =>
    if !h.writerLeft then none
    else if (trailerFields h.received).isEmpty then some ((h.trailers?.map Item.trailers).getD .done)
    else some .done

end PipeHistory

/-- What a history says about where it has led to: two sides that `perform`. With `waits` the writer had to wait for the
first read. -/
structure OneSlot {σ : Type} (perform : σ → PipeOp → PipeReply × σ) (waits : Bool) (h : PipeHistory) (s : σ) :
    Prop where
  asks : h.writerLeft = false → perform s .ask = (.verdict (h.verdict waits), s)
  /-- sending tells the same as asking -/
  sends : h.writerLeft = false → ∀ chunk, (perform s (.send chunk)).1 = .verdict (h.verdict waits)
  /-- what is not accepted changes nothing -/
  refused : h.verdict waits ≠ .ready → ∀ chunk, (perform s (.send chunk)).2 = s
  single : h.unreadChunks.length ≤ 1
  /-- what was queued is received once and in order -/
  order : h.taken <+: h.queued
  next : h.readerLeft = false → (perform s .read).1 = .read h.next
  /-- the trailers of the first attempt come at most once, behind everything queued and with the end alone behind them,
  and neither they nor the end come before the writer has left and everything queued was received -/
  received : ∃ fields n, h.received = h.taken.map Pipe.entry ++ (fields.map .trailers ++ List.replicate n .done)
    ∧ (fields = [] ∨ fields = h.trailers?.toList)
    ∧ (n ≠ 0 → fields = h.trailers?.toList)
    ∧ ((fields ≠ [] ∨ n ≠ 0) → h.writerLeft = true ∧ h.taken = h.queued)

/-! ## Histories that grow -/

namespace PipeHistory

variable (h : PipeHistory) (e : PipeOp × PipeReply)

theorem readerLeft_snoc : readerLeft (h ++ [e]) = (h.readerLeft || endsReader e) := by simp [readerLeft]

theorem writerLeft_snoc : writerLeft (h ++ [e]) = (h.writerLeft || endsWriter e) := by simp [writerLeft]

theorem wasRead_snoc : wasRead (h ++ [e]) = (h.wasRead || reads e) := by simp [wasRead]

theorem received_snoc : received (h ++ [e]) = h.received ++ (item? e).toList := by
  simp only [received, List.filterMap_append]
  cases he : item? e <;> simp [he]

variable {h e}

theorem attended_of_attended (there : h.readerLeft = false) : h.attended = h := by
  refine List.takeWhile_eq_self_iff.2 fun e he => ?_
  simp only [readerLeft, List.any_eq_false] at there
  simpa using there e he

/-- While the reader is there, what is done counts. -/
theorem attended_snoc (there : h.readerLeft = false) :
    attended (h ++ [e]) = h ++ (if endsReader e then [] else [e]) := by
  have all := attended_of_attended there
  unfold attended at all ⊢
  rw [List.takeWhile_append, all, if_pos rfl]
  cases he : endsReader e <;> simp [he]

/-- Once the reader has left, nothing does. -/
theorem attended_snoc_of_left (left : h.readerLeft = true) : attended (h ++ [e]) = h.attended := by
  have shorter : h.attended.length ≠ h.length := by
    intro same
    have all : h.attended = h := (List.takeWhile_prefix _).eq_of_length same
    obtain ⟨e, he, ends⟩ := List.any_eq_true.1 left
    have stays := List.mem_takeWhile_imp (all.symm ▸ he : e ∈ h.attended)
    simp [ends] at stays
  unfold attended at shorter ⊢
  rw [List.takeWhile_append, if_neg shorter]

theorem queued_snoc (there : h.readerLeft = false) : queued (h ++ [e]) = h.queued ++ (enqueued? e).toList := by
  have ends (he : endsReader e = true) : enqueued? e = none := by
    obtain ⟨op, reply⟩ := e
    cases op <;> first | rfl | cases he
  unfold queued
  rw [attended_snoc there, attended_of_attended there, List.filterMap_append]
  cases he : endsReader e with
  | true => simp [ends he]
  | false => cases hq : enqueued? e <;> simp [hq]

theorem trailers?_snoc (there : h.readerLeft = false) : trailers? (h ++ [e]) = h.trailers?.or (fields? e) := by
  have ends (he : endsReader e = true) : fields? e = none := by
    obtain ⟨op, reply⟩ := e
    cases op <;> first | rfl | cases he
  unfold trailers?
  rw [attended_snoc there, attended_of_attended there, List.findSome?_append]
  cases he : endsReader e with
  | true => simp [ends he]
  | false => simp

theorem queued_snoc_of_left (left : h.readerLeft = true) : queued (h ++ [e]) = h.queued := by
  rw [queued, attended_snoc_of_left left, queued]

theorem trailers?_snoc_of_left (left : h.readerLeft = true) : trailers? (h ++ [e]) = h.trailers? := by
  rw [trailers?, attended_snoc_of_left left, trailers?]

/-- Where nothing is received, nothing more is taken. -/
theorem received_snoc_of_none (none : item? e = none) : received (h ++ [e]) = h.received ∧ taken (h ++ [e]) = h.taken := by
  have received : received (h ++ [e]) = h.received := by simp [received_snoc, none]
  exact ⟨received, by rw [taken, received, taken]⟩

/-- Something that was queued is received. -/
theorem taken_snoc {entry : Except Cause Bytes} (some : item? e = some (Pipe.entry entry)) :
    taken (h ++ [e]) = h.taken ++ [entry] := by
  rw [taken, received_snoc, some, taken, List.filterMap_append]
  cases entry <;> rfl

/-- What was not queued is received. -/
theorem taken_snoc_of_ne {item : Item} (some : item? e = some item) (unqueued : ∀ entry, item ≠ Pipe.entry entry) :
    taken (h ++ [e]) = h.taken := by
  rw [taken, received_snoc, some, taken, List.filterMap_append]
  cases item with
  | data chunk => exact absurd rfl (unqueued (.ok chunk))
  | failure cause => exact absurd rfl (unqueued (.error cause))
  | trailers fields | done => exact List.append_nil _

end PipeHistory

/-! ## What a pipe keeps of its history -/

/-- The pipe is where its history has led. -/
structure Followed (waits : Bool) (h : PipeHistory) (p : Pipe) : Prop where
  reader : p.reader = !h.readerLeft
  writer : p.writer = !h.writerLeft
  demanded : p.demanded = (h.wasRead || !waits)
  queue : h.queued = h.taken ++ p.queue
  single : (p.queue.filterMap Except.toOption).length ≤ 1
  trailed : p.reader = true → p.trailed = h.trailers?.isSome
  /-- the trailers were received, or the pipe has them -/
  trailers : ∃ fields n, h.received = h.taken.map Pipe.entry ++ (fields.map .trailers ++ List.replicate n .done)
    ∧ fields ++ p.trailers.toList = h.trailers?.toList ∧ (n ≠ 0 → p.trailers = none)
    ∧ (fields ≠ [] ∨ n ≠ 0 → p.writer = false ∧ p.queue = [])

namespace Followed

open PipeHistory

variable {waits : Bool} {h : PipeHistory} {p q : Pipe} {e : PipeOp × PipeReply}

theorem new (length : BodyLength) (waits : Bool) : Followed waits [] (Pipe.new length waits) where
  reader := rfl
  writer := rfl
  demanded := rfl
  queue := rfl
  single := Nat.zero_le _
  trailed := fun _ => rfl
  trailers := ⟨[], 0, rfl, rfl, fun h => absurd rfl h, fun h => by simp at h⟩

/-- While the writer is there, what was received had been queued, and the pipe has the trailers. -/
theorem of_writer (f : Followed waits h p) (there : p.writer = true) :
    h.received = h.taken.map Pipe.entry ∧ p.trailers = h.trailers? := by
  obtain ⟨fields, n, received, trailers, -, later⟩ := f.trailers
  have early : fields = [] ∧ n = 0 := by
    by_contra late
    have left : p.writer = false := (later (by by_cases hn : n = 0 <;> simp_all)).1
    simp [there] at left
  obtain ⟨rfl, rfl⟩ := early
  refine ⟨by simpa using received, ?_⟩
  cases hp : p.trailers <;> cases hh : h.trailers? <;> simp_all

/-- The writer acts. -/
theorem written (f : Followed waits h p) (there : p.writer = true) (stays : endsReader e = false) (silent : reads e = false)
    (received : item? e = none) (reader : q.reader = p.reader) (demanded : q.demanded = p.demanded)
    (writer : q.writer = !endsWriter e) (queue : q.queue = p.queue ++ if p.reader then (enqueued? e).toList else [])
    (single : (q.queue.filterMap Except.toOption).length ≤ 1)
    (trailed : p.reader = true → q.trailed = (p.trailed || (fields? e).isSome))
    (trailers : q.trailers = if p.reader then p.trailers.or (fields? e) else p.trailers) :
    Followed waits (h ++ [e]) q := by
  obtain ⟨had, has⟩ := f.of_writer there
  obtain ⟨hreceived, htaken⟩ := received_snoc_of_none (h := h) received
  have left : readerLeft (h ++ [e]) = h.readerLeft := by simp [readerLeft_snoc, stays]
  have given : q.trailers = PipeHistory.trailers? (h ++ [e]) := by
    rw [trailers, f.reader]
    cases hl : h.readerLeft with
    | true => rw [trailers?_snoc_of_left hl]; exact has
    | false => rw [trailers?_snoc hl, has]; rfl
  refine ⟨?_, ?_, ?_, ?_, single, ?_, ⟨[], 0, ?_, ?_, ?_, ?_⟩⟩
  · rw [left, reader, f.reader]
  · have stayed : h.writerLeft = false := by simpa [there] using f.writer.symm
    rw [writerLeft_snoc, stayed, writer, Bool.false_or]
  · rw [wasRead_snoc, silent, Bool.or_false, demanded, f.demanded]
  · rw [htaken, queue, f.reader]
    cases hl : h.readerLeft with
    | true => rw [queued_snoc_of_left hl, f.queue]; simp
    | false => rw [queued_snoc hl, f.queue]; simp
  · intro hq
    rw [reader] at hq
    have hl : h.readerLeft = false := by simpa [hq] using f.reader.symm
    rw [trailed hq, f.trailed hq, trailers?_snoc hl, Option.isSome_or]
  · rw [hreceived, htaken, had]
    simp
  · simp [given]
  · simp
  · simp

/-- The side that would act is gone, or only asks. -/
theorem unchanged (f : Followed waits h p) (stays : endsReader e = true → h.readerLeft = true)
    (writes : endsWriter e = true → h.writerLeft = true) (silent : reads e = false) (received : item? e = none)
    (queued : enqueued? e = none) (given : fields? e = none) : Followed waits (h ++ [e]) p := by
  obtain ⟨hreceived, htaken⟩ := received_snoc_of_none (h := h) received
  have left : readerLeft (h ++ [e]) = h.readerLeft := by
    rw [readerLeft_snoc]
    cases he : endsReader e <;> simp_all
  have same : PipeHistory.queued (h ++ [e]) = h.queued ∧ PipeHistory.trailers? (h ++ [e]) = h.trailers? := by
    cases hl : h.readerLeft with
    | true => exact ⟨queued_snoc_of_left hl, trailers?_snoc_of_left hl⟩
    | false => exact ⟨by simp [queued_snoc hl, queued], by simp [trailers?_snoc hl, given]⟩
  refine ⟨?_, ?_, ?_, ?_, f.single, ?_, ?_⟩
  · rw [left, f.reader]
  · rw [writerLeft_snoc, f.writer]
    cases he : endsWriter e <;> simp_all
  · rw [wasRead_snoc, silent, Bool.or_false, f.demanded]
  · rw [same.1, htaken, f.queue]
  · rw [same.2]
    exact f.trailed
  · rw [hreceived, htaken, same.2]
    exact f.trailers

/-- The reader reads, which changes nothing about the two sides. -/
theorem reading (f : Followed waits h p) (there : p.reader = true) {item : Option Item} (reader : q.reader = p.reader)
    (writer : q.writer = p.writer) (trailed : q.trailed = p.trailed) (demanded : q.demanded = true)
    (queue : h.queued = taken (h ++ [(.read, .read item)]) ++ q.queue)
    (single : (q.queue.filterMap Except.toOption).length ≤ 1)
    (trailers : ∃ fields n, h.received ++ item.toList
        = (taken (h ++ [(.read, .read item)])).map Pipe.entry ++ (fields.map .trailers ++ List.replicate n .done)
      ∧ fields ++ q.trailers.toList = h.trailers?.toList ∧ (n ≠ 0 → q.trailers = none)
      ∧ (fields ≠ [] ∨ n ≠ 0 → q.writer = false ∧ q.queue = [])) :
    Followed waits (h ++ [(.read, .read item)]) q := by
  have hl : h.readerLeft = false := by simpa [there] using f.reader.symm
  have given : PipeHistory.trailers? (h ++ [(.read, .read item)]) = h.trailers? := by simp [trailers?_snoc hl, fields?]
  refine ⟨?_, ?_, ?_, ?_, single, ?_, ?_⟩
  · simp [readerLeft_snoc, endsReader, reader, f.reader]
  · simp [writerLeft_snoc, endsWriter, writer, f.writer]
  · simp [wasRead_snoc, reads, demanded]
  · simp only [queued_snoc hl, enqueued?, Option.toList_none, List.append_nil]
    exact queue
  · rw [reader, trailed, given]
    exact f.trailed
  · simp only [received_snoc, item?, given]
    exact trailers

/-- What waits longest is received. -/
theorem read_queued (f : Followed waits h p) (there : p.reader = true) {entry : Except Cause Bytes}
    {rest : List (Except Cause Bytes)} (hq : p.queue = entry :: rest) (remaining : BodyLength) :
    Followed waits (h ++ [(.read, .read (some (Pipe.entry entry)))])
      { p with demanded := true, queue := rest, remaining } := by
  have taken := taken_snoc (h := h) (e := (.read, .read (some (Pipe.entry entry)))) rfl
  obtain ⟨fields, n, received, trailers, -, later⟩ := f.trailers
  have early : fields = [] ∧ n = 0 := by
    by_contra late
    have empty : p.queue = [] := (later (by by_cases hn : n = 0 <;> simp_all)).2
    simp [hq] at empty
  obtain ⟨rfl, rfl⟩ := early
  refine f.reading there rfl rfl rfl rfl ?_ ?_ ⟨[], 0, ?_, trailers, by simp, by simp⟩
  · rw [taken, f.queue, hq]
    simp
  · have single := f.single
    rw [hq] at single
    exact Nat.le_trans ((List.sublist_cons_self entry rest).filterMap _).length_le single
  · rw [taken, received]
    simp

/-- There is nothing yet. -/
theorem read_nothing (f : Followed waits h p) (there : p.reader = true) :
    Followed waits (h ++ [(.read, .read none)]) { p with demanded := true } := by
  have taken := (received_snoc_of_none (h := h) (e := (.read, .read none)) rfl).2
  obtain ⟨fields, n, received, trailers, ended, later⟩ := f.trailers
  refine f.reading there rfl rfl rfl rfl ?_ f.single ⟨fields, n, ?_, trailers, ended, later⟩
  · rw [taken, f.queue]
  · rw [taken, received]
    simp

/-- Behind everything queued come the trailers. -/
theorem read_trailers (f : Followed waits h p) (there : p.reader = true) (gone : p.writer = false) (hq : p.queue = [])
    {sent : Headers} (ht : p.trailers = some sent) :
    Followed waits (h ++ [(.read, .read (some (.trailers sent)))]) { p with demanded := true, trailers := none } := by
  have taken := taken_snoc_of_ne (h := h) (e := (.read, .read (some (.trailers sent)))) rfl
    (fun entry => by cases entry <;> simp [Pipe.entry])
  obtain ⟨fields, n, received, trailers, ended, -⟩ := f.trailers
  have first : n = 0 := by
    by_contra late
    simp [ended late] at ht
  subst first
  refine f.reading there rfl rfl rfl rfl ?_ f.single ⟨fields ++ [sent], 0, ?_, ?_, by simp, fun _ => ⟨gone, hq⟩⟩
  · rw [taken, f.queue]
  · rw [taken, received]
    simp
  · rw [← trailers, ht]
    simp

/-- Behind them comes the end. -/
theorem read_done (f : Followed waits h p) (there : p.reader = true) (gone : p.writer = false) (hq : p.queue = [])
    (ht : p.trailers = none) :
    Followed waits (h ++ [(.read, .read (some .done))]) { p with demanded := true } := by
  have taken := taken_snoc_of_ne (h := h) (e := (.read, .read (some .done))) rfl
    (fun entry => by cases entry <;> simp [Pipe.entry])
  obtain ⟨fields, n, received, trailers, -, -⟩ := f.trailers
  refine f.reading there rfl rfl rfl rfl ?_ f.single ⟨fields, n + 1, ?_, trailers, fun _ => ht, fun _ => ⟨gone, hq⟩⟩
  · rw [taken, f.queue]
  · rw [taken, received]
    simp [List.replicate_succ']

theorem read (f : Followed waits h p) (there : p.reader = true) {item : Option Item} (hr : p.read = (item, q)) :
    Followed waits (h ++ [(.read, .read item)]) q := by
  unfold Pipe.read at hr
  dsimp only at hr
  split at hr
  · rename_i chunk rest hq
    cases hr
    exact f.read_queued there hq _
  · rename_i cause rest hq
    cases hr
    exact f.read_queued there hq _
  · rename_i hq
    split at hr
    · cases hr
      exact f.read_nothing there
    · rename_i hw
      have gone : p.writer = false := by simpa using hw
      split at hr
      · rename_i sent ht
        cases hr
        exact f.read_trailers there gone hq ht
      · rename_i ht
        cases hr
        exact f.read_done there gone hq ht

/-- A pipe that is ready holds no chunk, so the one that is sent is the only one. -/
theorem send (f : Followed waits h p) (there : p.writer = true) (ready : p.readiness = .ready) (chunk : Bytes) :
    Followed waits (h ++ [(.send chunk, .verdict .ready)]) { p with queue := p.queue ++ [.ok chunk] } := by
  obtain ⟨reader, -, free⟩ := Pipe.readiness_eq_ready_iff.1 ready
  have empty : p.queue.filterMap Except.toOption = [] := Pipe.holdsChunk_eq_false_iff.1 free
  refine f.written there rfl rfl rfl rfl rfl there ?_ ?_ ?_ ?_
  · simp [reader, enqueued?]
  · simp [List.filterMap_append, empty, Except.toOption]
  · simp [fields?]
  · simp [reader, fields?]

theorem sendTrailers (f : Followed waits h p) (there : p.writer = true) {fields : Headers} {sent : Bool}
    (hs : p.sendTrailers fields = (sent, q)) : Followed waits (h ++ [(.sendTrailers fields, .trailersSent sent)]) q := by
  have first (untrailed : p.trailed = false) (reader : p.reader = true) : p.trailers = none := by
    have none : h.trailers? = none := by simpa [untrailed] using f.trailed reader
    rw [(f.of_writer there).2, none]
  unfold Pipe.sendTrailers at hs
  split at hs
  · rename_i trailed
    cases hs
    refine f.written there rfl rfl rfl rfl rfl there ?_ f.single ?_ ?_
    · simp [enqueued?]
    · simp [trailed]
    · split
      · rename_i reader
        have some : p.trailers.isSome = true := by
          rw [(f.of_writer there).2, ← f.trailed reader, trailed]
        simp [Option.or_of_isSome some]
      · rfl
  · rename_i untrailed
    split at hs
    · rename_i reader
      cases hs
      refine f.written there rfl rfl rfl rfl rfl there ?_ f.single ?_ ?_
      · simp [enqueued?]
      · simp [fields?]
      · simp [reader, first (by simpa using untrailed) reader, fields?]
    · rename_i reader
      cases hs
      refine f.written there rfl rfl rfl rfl rfl there ?_ f.single ?_ ?_
      · simp [enqueued?]
      · simp [reader]
      · simp [reader]

/-- A failure takes the place of no chunk. -/
theorem chunks_failure (queue : List (Except Cause Bytes)) (reader : Bool) (cause : Cause) :
    (queue ++ if reader then [Except.error cause] else []).filterMap Except.toOption = queue.filterMap Except.toOption := by
  rw [List.filterMap_append]
  split <;> exact List.append_nil _

theorem sendFailure (f : Followed waits h p) (there : p.writer = true) (cause : Cause) :
    Followed waits (h ++ [(.sendFailure cause, .done)]) (p.sendFailure cause) := by
  rw [Pipe.sendFailure_eq]
  refine f.written there rfl rfl rfl rfl rfl there rfl ?_ ?_ ?_
  · rw [chunks_failure]
    exact f.single
  · simp [fields?]
  · simp [fields?]

theorem abort (f : Followed waits h p) (there : p.writer = true) :
    Followed waits (h ++ [(.abort, .done)]) p.abort := by
  rw [Pipe.abort_eq]
  refine f.written there rfl rfl rfl rfl rfl rfl rfl ?_ ?_ ?_
  · rw [chunks_failure]
    exact f.single
  · simp [fields?]
  · simp [fields?]

theorem closeWriter (f : Followed waits h p) (there : p.writer = true) :
    Followed waits (h ++ [(.closeWriter, .done)]) p.closeWriter := by
  refine f.written there rfl rfl rfl rfl rfl rfl ?_ f.single ?_ ?_
  · simp [Pipe.closeWriter, enqueued?]
  · simp [Pipe.closeWriter, fields?]
  · simp [Pipe.closeWriter, fields?]

theorem closeReader (f : Followed waits h p) (there : p.reader = true) :
    Followed waits (h ++ [(.closeReader, .done)]) p.closeReader := by
  have hl : h.readerLeft = false := by simpa [there] using f.reader.symm
  obtain ⟨received, taken⟩ := received_snoc_of_none (h := h) (e := (.closeReader, .done)) rfl
  have writer : PipeHistory.writerLeft (h ++ [(.closeReader, .done)]) = h.writerLeft := by
    simp [writerLeft_snoc, endsWriter]
  have asked : PipeHistory.wasRead (h ++ [(.closeReader, .done)]) = h.wasRead := by simp [wasRead_snoc, reads]
  have queued : PipeHistory.queued (h ++ [(.closeReader, .done)]) = h.queued := by simp [queued_snoc hl, enqueued?]
  have given : PipeHistory.trailers? (h ++ [(.closeReader, .done)]) = h.trailers? := by simp [trailers?_snoc hl, fields?]
  refine ⟨?_, ?_, ?_, ?_, f.single, fun gone => ?_, ?_⟩
  · simp [readerLeft_snoc, endsReader, Pipe.closeReader]
  · rw [writer]
    exact f.writer
  · rw [asked]
    exact f.demanded
  · rw [queued, taken]
    exact f.queue
  · cases gone
  · rw [received, taken, given]
    exact f.trailers

/-! ## Every operation -/

/-- An operation of the writer, who may be gone. -/
theorem byWriter (f : Followed waits h p) {op : PipeOp} {after : PipeReply × Pipe}
    (acts : p.writer = true → Followed waits (h ++ [(op, after.1)]) after.2)
    (stays : endsReader (op, .gone) = false) (silent : reads (op, .gone) = false) (received : item? (op, .gone) = none)
    (queued : enqueued? (op, .gone) = none) (given : fields? (op, .gone) = none) :
    Followed waits (h ++ [(op, (Pipe.perform.byWriter p after).1)]) (Pipe.perform.byWriter p after).2 := by
  unfold Pipe.perform.byWriter
  split
  · rename_i there
    exact acts there
  · rename_i gone
    refine f.unchanged (by simp [stays]) (fun _ => ?_) silent received queued given
    simpa [gone] using f.writer.symm

/-- An operation of the reader, who may be gone. -/
theorem byReader (f : Followed waits h p) {op : PipeOp} {after : PipeReply × Pipe}
    (acts : p.reader = true → Followed waits (h ++ [(op, after.1)]) after.2)
    (writes : endsWriter (op, .gone) = false) (silent : reads (op, .gone) = false) (received : item? (op, .gone) = none)
    (queued : enqueued? (op, .gone) = none) (given : fields? (op, .gone) = none) :
    Followed waits (h ++ [(op, (Pipe.perform.byReader p after).1)]) (Pipe.perform.byReader p after).2 := by
  unfold Pipe.perform.byReader
  split
  · rename_i there
    exact acts there
  · rename_i gone
    refine f.unchanged (fun _ => ?_) (by simp [writes]) silent received queued given
    simpa [gone] using f.reader.symm

theorem performSend (f : Followed waits h p) (there : p.writer = true) (chunk : Bytes) :
    Followed waits (h ++ [(.send chunk, .verdict (p.send chunk).1)]) (p.send chunk).2 := by
  unfold Pipe.send
  cases hr : p.readiness with
  | ready => exact f.send there hr chunk
  | pending | closed => exact f.unchanged (fun ends => by cases ends) (fun ends => by cases ends) rfl rfl rfl rfl

/-- One operation more. -/
theorem perform (f : Followed waits h p) (op : PipeOp) :
    Followed waits (h ++ [(op, (p.perform op).1)]) (p.perform op).2 := by
  cases op with
  | ask =>
    refine f.byWriter (fun there => ?_) rfl rfl rfl rfl rfl
    exact f.unchanged (fun ends => by cases ends) (fun ends => by cases ends) rfl rfl rfl rfl
  | send chunk => exact f.byWriter (fun there => f.performSend there chunk) rfl rfl rfl rfl rfl
  | sendTrailers fields => exact f.byWriter (fun there => f.sendTrailers there rfl) rfl rfl rfl rfl rfl
  | sendFailure cause => exact f.byWriter (fun there => f.sendFailure there cause) rfl rfl rfl rfl rfl
  | abort => exact f.byWriter (fun there => f.abort there) rfl rfl rfl rfl rfl
  | closeWriter => exact f.byWriter (fun there => f.closeWriter there) rfl rfl rfl rfl rfl
  | read => exact f.byReader (fun there => f.read there rfl) rfl rfl rfl rfl rfl
  | closeReader => exact f.byReader (fun there => f.closeReader there) rfl rfl rfl rfl rfl

theorem performAll (f : Followed waits h p) (ops : List PipeOp) :
    Followed waits (h ++ (Gateway.performAll Pipe.perform p ops).1) (Gateway.performAll Pipe.perform p ops).2 := by
  induction ops generalizing h p with
  | nil => simpa [Gateway.performAll] using f
  | cons op ops ih =>
    have next := ih (f.perform op)
    rwa [List.append_assoc] at next

/-! ## What a history tells -/

theorem unread_eq (f : Followed waits h p) : h.unread = p.queue := by
  rw [PipeHistory.unread, f.queue, List.drop_left]

theorem unreadChunks_eq (f : Followed waits h p) : h.unreadChunks = p.queue.filterMap Except.toOption := by
  rw [PipeHistory.unreadChunks, f.unread_eq]

/-- Of the trailers, the history knows whether they were received. -/
theorem trailers_eq (f : Followed waits h p) :
    p.trailers = if (trailerFields h.received).isEmpty then h.trailers? else none := by
  obtain ⟨fields, n, received, trailers, -, -⟩ := f.trailers
  have none : trailerFields (h.taken.map Pipe.entry) = [] := by
    rw [trailerFields, List.filterMap_eq_nil_iff]
    intro item hi
    obtain ⟨entry, -, rfl⟩ := List.mem_map.1 hi
    cases entry <;> rfl
  have got : trailerFields h.received = fields := by
    rw [received, trailerFields_append, none, trailerFields_trailers_done, List.nil_append]
  rw [got]
  cases fields with
  | nil => cases hp : p.trailers <;> cases hh : h.trailers? <;> simp_all
  | cons first rest => cases hp : p.trailers <;> cases hh : h.trailers? <;> simp_all

/-- The next read. -/
theorem next_eq (f : Followed waits h p) : p.read.1 = h.next := by
  have left : h.writerLeft = !p.writer := by simp [f.writer]
  have has := f.trailers_eq
  unfold Pipe.read PipeHistory.next
  rw [f.unread_eq, left]
  dsimp only
  cases hq : p.queue with
  | cons first rest => cases first <;> rfl
  | nil =>
    cases hw : p.writer with
    | true => rfl
    | false =>
      rw [has]
      cases (trailerFields h.received).isEmpty with
      | true => cases h.trailers? <;> rfl
      | false => rfl

/-- Whether a chunk is accepted. -/
theorem verdict_eq (f : Followed waits h p) : p.readiness = h.verdict waits := by
  have free : p.holdsChunk = !h.unreadChunks.isEmpty := by
    rw [Bool.eq_iff_iff, ← not_iff_not, Bool.not_eq_true, Pipe.holdsChunk_eq_false_iff, f.unreadChunks_eq]
    simp
  rw [Pipe.readiness, PipeHistory.verdict, f.reader, f.demanded, free, Bool.not_not, Bool.not_not]

/-- A pipe that was led somewhere by a history is what the history says. -/
theorem oneSlot (f : Followed waits h p) : OneSlot Pipe.perform waits h p := by
  have verdict := f.verdict_eq
  have writer (stays : h.writerLeft = false) : p.writer = true := by simp [f.writer, stays]
  have reader (stays : h.readerLeft = false) : p.reader = true := by simp [f.reader, stays]
  obtain ⟨fields, n, received, trailers, ended, later⟩ := f.trailers
  refine ⟨fun stays => ?_, fun stays chunk => ?_, fun unready chunk => ?_, ?_, ?_, fun stays => ?_,
    fields, n, received, ?_, ?_, ?_⟩
  · simp [Pipe.perform, Pipe.perform.byWriter, writer stays, verdict]
  · simp only [Pipe.perform, Pipe.perform.byWriter, writer stays, if_true, Pipe.send, ← verdict]
    cases p.readiness <;> rfl
  · simp only [Pipe.perform, Pipe.perform.byWriter, Pipe.send]
    rw [← verdict] at unready
    cases hr : p.readiness with
    | ready => exact absurd hr unready
    | pending | closed => split <;> rfl
  · rw [f.unreadChunks_eq]
    exact f.single
  · exact ⟨p.queue, f.queue.symm⟩
  · simp [Pipe.perform, Pipe.perform.byReader, reader stays, f.next_eq]
  · cases hp : p.trailers with
    | none => simp [← trailers, hp]
    | some sent =>
      left
      have count := congrArg List.length trailers
      have few : h.trailers?.toList.length ≤ 1 := by cases h.trailers? <;> simp
      rw [hp, List.length_append, Option.toList_some, List.length_singleton] at count
      exact List.length_eq_zero_iff.1 (by omega)
  · intro hn
    simp [← trailers, ended hn]
  · intro some
    obtain ⟨gone, queue⟩ := later some
    refine ⟨by simpa [gone] using f.writer.symm, ?_⟩
    rw [f.queue, queue, List.append_nil]

end Followed

end Gateway
