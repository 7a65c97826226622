import Gateway.Proofs.Delivery.Stream

/-!
# A pump moves items in order

`Pump.Move` says once what a step of a pump can do. `Pump.Flow` is what holds while the pump is at work and its reader
is there: what was read, what waits in the pipe and what the pump holds are, in this order, the chunks it pulled; what
it pulled and what is still to be pulled begin what the body was offered.
-/

namespace Gateway

namespace Pump

/-! ## What a step can do -/

/-- A pump and the pump after one step. Without a reader it only begins or ends. -/
inductive Move (p : Pump) (now : Nat) : Pump → Prop where
  | begin (phase : p.phase = .created) : Move p now { p with phase := .waiting now }
  /-- the reader left -/
  | left (reader : p.pipe.reader = false) (begun : p.phase ≠ .created) (free : ∀ fields, p.phase ≠ .handing fields) :
      Move p now p.finishClosed
  | chunk {since : Nat} {bytes : Bytes} {source : Body} (phase : p.phase = .waiting since)
      (reader : p.pipe.reader = true) (read : p.source.read = (some (.data bytes), source)) :
      Move p now { p with source, phase := .holding bytes }
  | trailers {since : Nat} {fields : Headers} {source : Body} (phase : p.phase = .waiting since)
      (reader : p.pipe.reader = true) (read : p.source.read = (some (.trailers fields), source)) :
      Move p now { p with source, phase := .handing fields }
  | handed {fields : Headers} (phase : p.phase = .handing fields) (reader : p.pipe.reader = true)
      (untrailed : p.pipe.trailed = false) :
      Move p now { p with
        pipe := { p.pipe with trailers := some fields, trailed := true }, phase := .waiting now }
  /-- trailers after trailers, or after the reader has left -/
  | refused {fields : Headers} (phase : p.phase = .handing fields)
      (refuses : p.pipe.reader = false ∨ p.pipe.trailed = true) :
      Move p now ({ p with pipe := { p.pipe with trailed := true } }.finish .sinkClosed)
  | failure {since : Nat} {cause : Cause} {source : Body} (reader : p.pipe.reader = true)
      (read : p.source.read = (some (.failure cause), source)) (phase : p.phase = .waiting since) :
      Move p now ({ p with source }.finish (.sourceFailed cause))
  | done {since : Nat} {source : Body} (phase : p.phase = .waiting since) (reader : p.pipe.reader = true)
      (read : p.source.read = (some .done, source)) : Move p now ({ p with source }.finish (.moved p.moved))
  /-- the body has been silent for too long -/
  | overdue {since : Nat} {limit : Duration} {source : Body} (reader : p.pipe.reader = true)
      (phase : p.phase = .waiting since) (read : p.source.read = (none, source))
      (idle : p.isOverdue since now = some limit) : Move p now (p.finish (.timedOut limit))
  | sent {bytes : Bytes} (phase : p.phase = .holding bytes) (reader : p.pipe.reader = true)
      (ready : p.pipe.readiness = .ready) :
      Move p now { p with
        pipe := { p.pipe with queue := p.pipe.queue ++ [.ok bytes] }, phase := .waiting now,
        moved := p.moved + bytes.length }

theorem move_of_stepWaiting {p q : Pump} {now since : Nat} (hp : p.phase = .waiting since)
    (h : p.stepWaiting now since = some q) : p.Move now q := by
  unfold stepWaiting at h
  split at h
  · rename_i hr
    cases h
    exact .left (by simpa using hr) (by simp [hp]) (by simp [hp])
  · rename_i hr
    have reader : p.pipe.reader = true := by simpa using hr
    split at h
    · rename_i bytes source hread
      cases h
      exact .chunk hp reader hread
    · rename_i fields source hread
      cases h
      exact .trailers hp reader hread
    · rename_i cause source hread
      cases h
      exact .failure reader hread hp
    · rename_i source hread
      cases h
      exact .done hp reader hread
    · rename_i source hread
      obtain ⟨limit, idle, rfl⟩ := Option.map_eq_some_iff.1 h
      exact .overdue reader hp hread idle

theorem move_stepHanding {p : Pump} {fields : Headers} (hp : p.phase = .handing fields) (now : Nat) :
    p.Move now (p.stepHanding now fields) := by
  unfold stepHanding
  by_cases refuses : p.pipe.reader = false ∨ p.pipe.trailed = true
  · rw [Pipe.sendTrailers_of_refused refuses]
    exact .refused hp refuses
  · obtain ⟨reader, untrailed⟩ : p.pipe.reader = true ∧ p.pipe.trailed = false := by simpa using refuses
    rw [Pipe.sendTrailers_of_taken reader untrailed]
    exact .handed hp reader untrailed

theorem move_of_step {p q : Pump} {now : Nat} (h : p.step now = some q) : p.Move now q := by
  unfold step at h
  split at h
  · rename_i hp
    cases h
    exact .begin hp
  · rename_i since hp
    exact move_of_stepWaiting hp h
  · rename_i bytes hp
    unfold stepHolding Pipe.send at h
    cases hr : p.pipe.readiness with
    | ready =>
      simp only [hr, Option.some.injEq] at h
      rw [← h]
      exact .sent hp (Pipe.readiness_eq_ready_iff.1 hr).1 hr
    | closed =>
      simp only [hr, Option.some.injEq] at h
      rw [← h]
      exact .left (Pipe.readiness_eq_closed_iff.1 hr) (by simp [hp]) (by simp [hp])
    | pending => simp [hr] at h
  · rename_i fields hp
    cases h
    exact move_stepHanding hp now
  · cases h

theorem reader_of_move {p q : Pump} {now : Nat} (h : p.Move now q) : q.pipe.reader = p.pipe.reader := by
  cases h <;> rfl

/-- Only a reader counts off what is announced. -/
theorem remaining_of_move {p q : Pump} {now : Nat} (h : p.Move now q) : q.pipe.remaining = p.pipe.remaining := by
  cases h <;> rfl

/-- A pump that ends leaves its pipe as it is, but for trailers that the pipe refused. -/
theorem pipe_of_ended {p q : Pump} {now : Nat} (h : p.Move now q) {result : PumpResult} (hq : q.result? = some result) :
    q.pipe = { p.pipe with trailed := q.pipe.trailed } := by
  cases h with
  | begin | chunk | trailers | handed | sent => cases hq
  | left | refused | failure | done | overdue => rfl

theorem limit_of_move {p q : Pump} {now : Nat} (h : p.Move now q) : q.limit = p.limit := by
  cases h <;> rfl

/-- Only a pump with a limit runs out of time, and only out of its own. -/
theorem limit_of_timedOut {p q : Pump} {now : Nat} (h : p.Move now q) {limit : Duration}
    (hq : q.result? = some (.timedOut limit)) : p.limit = some limit := by
  cases h with
  | begin | chunk | trailers | handed | sent | refused | failure | done => cases hq
  | left =>
    cases delivered : p.pipe.isDelivered <;> simp [finishClosed, finish, result?, delivered] at hq
  | overdue _ _ _ idle =>
    cases hq
    exact (isOverdue_eq_some_iff.1 idle).1

/-- What breaks a pump off. -/
inductive Breaks (p : Pump) (now : Nat) : PumpResult → Prop where
  | failed {since : Nat} {cause : Cause} {source : Body} (phase : p.phase = .waiting since) (reader : p.pipe.reader = true)
      (read : p.source.read = (some (.failure cause), source)) : Breaks p now (.sourceFailed cause)
  | silent {since : Nat} {limit : Duration} {source : Body} (phase : p.phase = .waiting since)
      (reader : p.pipe.reader = true) (read : p.source.read = (none, source)) (limited : p.limit = some limit)
      (late : limit.nanos ≤ now - since) : Breaks p now (.timedOut limit)
  /-- the reader left with something missing, be it trailers that were to be handed over -/
  | closed (begun : p.phase ≠ .created) (reader : p.pipe.reader = false)
      (missing : p.pipe.isDelivered = false ∨ ∃ fields, p.phase = .handing fields) : Breaks p now .sinkClosed

/-- A step that ends the pump, and does not move everything, has broken off or met trailers after trailers. -/
theorem breaks_of_move {p q : Pump} {now : Nat} (h : p.Move now q) {result : PumpResult} (hq : q.result? = some result) :
    (∃ bytes, result = .moved bytes) ∨ p.Breaks now result ∨ (result = .sinkClosed ∧ p.pipe.reader = true) := by
  cases h with
  | begin | chunk | trailers | handed | sent => cases hq
  | left reader begun =>
    cases hq
    cases delivered : p.pipe.isDelivered with
    | true => exact .inl ⟨_, rfl⟩
    | false => exact .inr (.inl (.closed begun reader (.inl delivered)))
  | @refused fields phase =>
    cases hq
    cases reader : p.pipe.reader with
    | true => exact .inr (.inr ⟨rfl, rfl⟩)
    | false => exact .inr (.inl (.closed (by simp [phase]) reader (.inr ⟨fields, phase⟩)))
  | failure reader read phase =>
    cases hq
    exact .inr (.inl (.failed phase reader read))
  | done =>
    cases hq
    exact .inl ⟨_, rfl⟩
  | overdue reader phase read idle =>
    cases hq
    obtain ⟨limited, late⟩ := isOverdue_eq_some_iff.1 idle
    exact .inr (.inl (.silent phase reader read limited late))

/-- What breaks a pump off ends it as it says. -/
theorem Breaks.result {p q : Pump} {now : Nat} {result : PumpResult} (b : p.Breaks now result) (h : p.Move now q) :
    q.result? = some result := by
  cases b with
  | closed begun reader missing =>
    cases h with
    | begin phase => exact absurd phase begun
    | left _ _ free =>
      have missing : p.pipe.isDelivered = false := missing.resolve_right fun ⟨fields, phase⟩ => free fields phase
      simp [finishClosed, finish, result?, missing]
    | refused => rfl
    | chunk _ there | trailers _ there | handed _ there | failure there | done _ there | overdue there
    | sent _ there => simp [reader] at there
  | failed phase reader read =>
    cases h with
    | failure _ other =>
      rw [read] at other
      cases other
      rfl
    | begin other | sent other | handed other | refused other => simp [phase] at other
    | left other => simp [reader] at other
    | chunk _ _ other | trailers _ _ other | done _ _ other | overdue _ _ other =>
      rw [read] at other
      cases other
  | silent phase reader read limited late =>
    cases h with
    | overdue _ _ _ idle =>
      obtain rfl := Option.some.inj (limited.symm.trans (isOverdue_eq_some_iff.1 idle).1)
      rfl
    | begin other | sent other | handed other | refused other => simp [phase] at other
    | left other => simp [reader] at other
    | chunk _ _ other | trailers _ _ other | failure _ other | done _ _ other =>
      rw [read] at other
      cases other

theorem breaks_iff_of_move {p q : Pump} {now : Nat} (h : p.Move now q) {result : PumpResult}
    (unmoved : ∀ bytes, result ≠ .moved bytes) (gone : result = .sinkClosed → p.pipe.reader = false) :
    p.Breaks now result ↔ q.result? = some result := by
  constructor
  · exact fun breaks => breaks.result h
  · intro ended
    rcases breaks_of_move h ended with ⟨bytes, moved⟩ | breaks | ⟨closed, reader⟩
    · exact absurd moved (unmoved bytes)
    · exact breaks
    · simp [gone closed] at reader

/-! ## While the pump is at work -/

/-- The chunk the pump holds. -/
def held (p : Pump) : List Bytes :=
  match p.phase with
  | .holding bytes => [bytes]
  | _ => []

/-- The trailers the pump holds. -/
def heldFields (p : Pump) : List Headers :=
  match p.phase with
  | .handing fields => [fields]
  | _ => []

/-- What the pump holds. -/
def holds (p : Pump) : List Item := p.held.map .data ++ p.heldFields.map .trailers

/-- What the body gives to the next step. -/
def pulls (p : Pump) : List Item :=
  match p.phase with
  | .waiting _ => if p.pipe.reader then p.source.read.1.toList else []
  | _ => []

/-- What the pipe takes from the next step. -/
def accepts (p : Pump) : List Item :=
  match p.phase with
  | .holding bytes => if (p.pipe.send bytes).1 = .ready then [.data bytes] else []
  | .handing fields => if (p.pipe.sendTrailers fields).1 then [.trailers fields] else []
  | _ => []

theorem chunks_holds (p : Pump) : chunks p.holds = p.held := by
  have none (all : List Headers) : chunks (all.map .trailers) = [] := by
    simpa using chunks_trailers_done all 0
  rw [holds, chunks_append, chunks_map_data, none, List.append_nil]

/-- A pump that ends gives the pipe nothing. -/
theorem accepts_of_ended {p q : Pump} {now : Nat} (h : p.Move now q) {result : PumpResult} (hq : q.result? = some result) :
    p.accepts = [] := by
  cases h with
  | begin | chunk | trailers | handed | sent => cases hq
  | left reader _ free =>
    cases phase : p.phase with
    | created | finished | waiting => simp [accepts, phase]
    | holding => simp [accepts, phase, Pipe.send, Pipe.readiness_eq_closed_iff.2 reader]
    | handing fields => exact absurd phase (free fields)
  | refused phase refuses => simp [accepts, phase, Pipe.sendTrailers_of_refused refuses]
  | failure _ _ phase | done phase | overdue _ phase => simp [accepts, phase]

/-- What the pump held and what it pulled went to the pipe, or is held. -/
theorem held_of_move {p q : Pump} {now : Nat} (h : p.Move now q) (hq : q.result? = none) :
    p.holds ++ p.pulls = p.accepts ++ q.holds := by
  cases h with
  | begin phase => simp [holds, held, heldFields, pulls, accepts, phase]
  | chunk phase reader read | trailers phase reader read =>
    simp [holds, held, heldFields, pulls, accepts, phase, reader, read]
  | handed phase reader untrailed =>
    simp [holds, held, heldFields, pulls, accepts, phase, Pipe.sendTrailers_of_taken reader untrailed]
  | sent phase _ ready => simp [holds, held, heldFields, pulls, accepts, phase, Pipe.send, ready]
  | left | refused | failure | done | overdue => cases hq

/-- The pump at work. `offered` is what the body was offered, `taken` what was read, `pulled` what the pump pulled, and
`sent` the chunks it sent. -/
structure Flow (announced : BodyLength) (offered taken pulled : List Item) (sent : List Bytes) (p : Pump) : Prop where
  reader : p.pipe.reader = true
  writer : p.pipe.writer = true
  unfinished : p.result? = none
  frames : ∀ i ∈ pulled, i.isMore = true
  source : pulled ++ p.source.items <+: offered
  /-- nothing that was offered is lost while the body takes what arrives -/
  complete : p.source.takes = true → pulled ++ p.source.items = offered
  stream : taken ++ p.pipe.items = sent.map .data
  moved : chunks pulled = sent ++ p.held
  trailers : trailerFields pulled = p.pipe.trailers.toList ++ p.heldFields
  trailed : p.pipe.trailed = p.pipe.trailers.isSome
  /-- at most one chunk waits in the pipe -/
  single : p.pipe.queue.length ≤ 1
  remaining : p.pipe.remaining = announced.consume (chunks taken).flatten.length

namespace Flow

variable {announced : BodyLength} {offered taken pulled : List Item} {sent : List Bytes} {p q : Pump}

/-- A pump that has not begun. -/
theorem new (limit : Option Duration) (body : Body) (waits : Bool) :
    Flow announced body.items [] [] [] (Pump.new limit body (Pipe.new announced waits)) where
  reader := rfl
  writer := rfl
  unfinished := rfl
  frames := by simp
  source := List.prefix_refl _
  complete := fun _ => rfl
  stream := rfl
  moved := rfl
  trailers := rfl
  trailed := rfl
  single := Nat.zero_le _
  remaining := by cases announced <;> rfl

theorem sent_prefix (h : Flow announced offered taken pulled sent p) : sent <+: chunks pulled :=
  ⟨p.held, h.moved.symm⟩

theorem pulled_prefix (h : Flow announced offered taken pulled sent p) : pulled <+: offered :=
  (List.prefix_append _ _).trans h.source

/-- One more item arrives. -/
theorem push (h : Flow announced offered taken pulled sent p) (item : Item) :
    Flow announced (offered ++ [item]) taken pulled sent (p.push item) where
  reader := h.reader
  writer := h.writer
  unfinished := h.unfinished
  frames := h.frames
  source := by
    show pulled ++ (p.source.push item).items <+: _
    rw [Body.items_push]
    split
    · rename_i ht
      have all : pulled ++ (p.source.items ++ [item]) = offered ++ [item] := by rw [← List.append_assoc, h.complete ht]
      exact all ▸ List.prefix_refl _
    · exact h.source.trans (List.prefix_append _ _)
  complete := by
    intro ht
    show pulled ++ (p.source.push item).items = _
    have takes : p.source.takes = true := by rw [← Body.takes_push p.source item]; exact ht
    rw [Body.items_push, if_pos takes, ← List.append_assoc, h.complete takes]
  stream := h.stream
  moved := h.moved
  trailers := h.trailers
  trailed := h.trailed
  single := h.single
  remaining := h.remaining

/-- The reader takes what is there: a chunk, or nothing. -/
theorem read (h : Flow announced offered taken pulled sent p) {item : Option Item} {pipe : Pipe}
    (hr : p.pipe.read = (item, pipe)) :
    Flow announced offered (taken ++ item.toList) pulled sent { p with pipe } := by
  obtain ⟨reader, writer, trailed, single⟩ := Pipe.read_spec hr
  cases item with
  | none =>
    obtain ⟨-, rfl⟩ := Pipe.items_of_read_none hr
    rw [Option.toList_none, List.append_nil]
    exact { h with }
  | some item =>
    have stream : taken ++ [item] ++ pipe.items = sent.map .data ∧ item ≠ .done := by
      rcases Pipe.items_of_read hr with ⟨hi, hd⟩ | ⟨rfl, hi, -⟩
      · exact ⟨by rw [List.append_assoc, List.singleton_append, ← hi, h.stream], hd⟩
      · -- the end is not there while the pump is at work
        have mem : Item.done ∈ sent.map Item.data := by
          rw [← h.stream, hi]
          simp
        simp at mem
    obtain ⟨bytes, -, rfl⟩ : ∃ bytes ∈ sent, Item.data bytes = item := by
      rw [← List.mem_map, ← stream.1]
      simp
    obtain ⟨trailers, remaining⟩ := Pipe.read_data hr
    refine {
      reader := reader.trans h.reader
      writer := writer.trans h.writer
      unfinished := h.unfinished
      frames := h.frames
      source := h.source
      complete := h.complete
      stream := stream.1
      moved := h.moved
      trailers := ?_
      trailed := ?_
      single := Nat.le_trans single h.single
      remaining := ?_ }
    · rw [h.trailers, ← trailers]
      rfl
    · rw [trailed, h.trailed, ← trailers]
    · rw [remaining, h.remaining, BodyLength.consume_consume]
      simp [chunks, Item.chunk?]

/-- Where no chunk waits in the pipe, nothing does. -/
theorem queue_eq_nil (h : Flow announced offered taken pulled sent p) (hc : p.pipe.holdsChunk = false) :
    p.pipe.queue = [] := by
  cases hq : p.pipe.queue with
  | nil => rfl
  | cons first rest =>
    have mem : Pipe.entry first ∈ sent.map Item.data := by
      rw [← h.stream, Pipe.items_of_writer h.writer, hq]
      simp
    cases first with
    | ok bytes => simp [Pipe.holdsChunk, hq] at hc
    | error cause => simp [Pipe.entry] at mem

/-- What was pulled goes behind what was pulled before. -/
theorem pull (h : Flow announced offered taken pulled sent p) {item : Item} {source : Body}
    (read : p.source.read = (some item, source)) (hi : item.isMore = true) :
    (∀ i ∈ pulled ++ [item], i.isMore = true) ∧ pulled ++ [item] ++ source.items <+: offered
      ∧ (source.takes = true → pulled ++ [item] ++ source.items = offered) := by
  have notDone : item ≠ .done := by
    rintro rfl
    cases hi
  obtain ⟨items, takes⟩ := Body.items_of_read read notDone
  have same : pulled ++ [item] ++ source.items = pulled ++ p.source.items := by
    rw [items, List.append_assoc, List.singleton_append]
  refine ⟨?_, same ▸ h.source, fun ht => same ▸ h.complete (takes ▸ ht)⟩
  intro i hmem
  rcases List.mem_append.1 hmem with hmem | hmem
  · exact h.frames i hmem
  · rw [List.mem_singleton.1 hmem, hi]

/-- A pump that waits for the body takes an item and holds it. -/
theorem take (h : Flow announced offered taken pulled sent p) {since : Nat} {item : Item} {source : Body}
    {phase : PumpPhase} (waits : p.phase = .waiting since) (read : p.source.read = (some item, source))
    (more : item.isMore = true) (unfinished : Pump.result? { p with source, phase } = none)
    (chunk : chunks [item] = Pump.held { p with source, phase })
    (fields : trailerFields [item] = Pump.heldFields { p with source, phase }) :
    Flow announced offered taken (pulled ++ [item]) sent { p with source, phase } := by
  obtain ⟨frames, below, complete⟩ := h.pull read more
  have moved := h.moved
  have trailers := h.trailers
  -- what waits holds nothing yet
  simp only [held, heldFields, waits, List.append_nil] at moved trailers
  exact { h with
    unfinished
    frames
    source := below
    complete
    moved := by rw [chunks_append, moved, chunk]
    trailers := by rw [trailerFields_append, trailers, fields] }

/-- A pump that holds trailers hands them over. -/
theorem hand (h : Flow announced offered taken pulled sent p) {fields : Headers} (holds : p.phase = .handing fields)
    (untrailed : p.pipe.trailed = false) (now : Nat) :
    Flow announced offered taken pulled sent
      { p with pipe := { p.pipe with trailers := some fields, trailed := true }, phase := .waiting now } := by
  -- the pipe takes trailers once
  have none : p.pipe.trailers = none := by
    have := h.trailed
    rw [untrailed] at this
    simpa using this.symm
  have same : Pipe.items { p.pipe with trailers := some fields, trailed := true } = p.pipe.items := by
    simp only [Pipe.items, h.writer, if_true]
  exact { h with
    unfinished := rfl
    stream := (congrArg (taken ++ ·) same).trans h.stream
    moved := by rw [h.moved, held, held, holds]
    trailers := by rw [h.trailers, none, heldFields, holds]; rfl
    trailed := rfl }

/-- A pump that holds a chunk sends it, once the pipe is ready. -/
theorem send (h : Flow announced offered taken pulled sent p) {bytes : Bytes} (holds : p.phase = .holding bytes)
    (ready : p.pipe.readiness = .ready) (now : Nat) :
    Flow announced offered taken pulled (sent ++ [bytes])
      { p with
        pipe := { p.pipe with queue := p.pipe.queue ++ [.ok bytes] }, phase := .waiting now,
        moved := p.moved + bytes.length } := by
  -- a pipe that is ready holds no chunk, so the one that is sent is the only one
  have empty : p.pipe.queue = [] := h.queue_eq_nil (Pipe.readiness_eq_ready_iff.1 ready).2.2
  have items : Pipe.items { p.pipe with queue := p.pipe.queue ++ [.ok bytes] } = p.pipe.items ++ [.data bytes] := by
    simp [Pipe.items, h.writer, Pipe.entry]
  have moved := h.moved
  simp only [held, holds] at moved
  refine { h with
    unfinished := rfl
    stream := ?_
    moved := moved.trans (List.append_nil _).symm
    trailers := by rw [h.trailers, heldFields, heldFields, holds]
    single := ?_ }
  · show taken ++ Pipe.items { p.pipe with queue := p.pipe.queue ++ [.ok bytes] } = _
    rw [items, ← List.append_assoc, h.stream, List.map_append]
    rfl
  · show (p.pipe.queue ++ [Except.ok bytes]).length ≤ 1
    rw [empty]
    exact Nat.le_refl _

/-- The pump goes on: what it read it holds, and what it held it sent. -/
theorem move (h : Flow announced offered taken pulled sent p) {now : Nat} (hm : p.Move now q) (hq : q.result? = none) :
    Flow announced offered taken (pulled ++ p.pulls) (sent ++ chunks p.accepts) q := by
  cases hm with
  | begin phase =>
    simp only [pulls, accepts, phase, chunks_nil, List.append_nil]
    exact { h with
      unfinished := rfl
      moved := by rw [h.moved, held, held, phase]
      trailers := by rw [h.trailers, heldFields, heldFields, phase] }
  | left reader =>
    rw [h.reader] at reader
    cases reader
  | @chunk since bytes source phase reader read =>
    have taken : p.pulls = [.data bytes] := by simp [pulls, phase, reader, read]
    simp only [taken, accepts, phase, chunks_nil, List.append_nil]
    exact h.take phase read rfl rfl rfl rfl
  | @trailers since fields source phase reader read =>
    have taken : p.pulls = [.trailers fields] := by simp [pulls, phase, reader, read]
    simp only [taken, accepts, phase, chunks_nil, List.append_nil]
    exact h.take phase read rfl rfl rfl rfl
  | @handed fields phase reader untrailed =>
    have given : p.accepts = [.trailers fields] := by
      simp [accepts, phase, Pipe.sendTrailers_of_taken reader untrailed]
    have chunkless : chunks [.trailers fields] = [] := rfl
    simp only [given, pulls, phase, chunkless, List.append_nil]
    exact h.hand phase untrailed now
  | @sent bytes phase _ ready =>
    have given : p.accepts = [.data bytes] := by simp [accepts, phase, Pipe.send, ready]
    have chunk : chunks [.data bytes] = [bytes] := rfl
    simp only [given, pulls, phase, chunk, List.append_nil]
    exact h.send phase ready now
  | refused | failure | done | overdue => cases hq

/-- A pump that has moved everything has pulled all the body had, and sent it. -/
theorem ended (h : Flow announced offered taken pulled sent p) {now : Nat} (hm : p.Move now q) {bytes : Nat}
    (hq : q.result? = some (.moved bytes)) :
    pulled ++ [.done] <+: offered ∧ chunks pulled = sent ∧ trailerFields pulled = p.pipe.trailers.toList := by
  cases hm with
  | begin | chunk | trailers | handed | sent | refused | failure | overdue => cases hq
  | left reader =>
    rw [h.reader] at reader
    cases reader
  | done phase _ read =>
    -- a pump that waits for the body holds nothing
    obtain ⟨rest, items⟩ := Body.items_of_read_done read
    refine ⟨?_, ?_, ?_⟩
    · have below := h.source
      rw [items] at below
      exact List.IsPrefix.trans ⟨rest, by simp⟩ below
    · have hmoved := h.moved
      simpa only [held, phase, List.append_nil] using hmoved
    · have htrailers := h.trailers
      simpa only [heldFields, phase, List.append_nil] using htrailers

/-- Only trailers after trailers make a pump at work take its pipe for closed. -/
theorem crowded (h : Flow announced offered taken pulled sent p) {now : Nat} (hm : p.Move now q)
    (hq : q.result? = some .sinkClosed) : 1 < (trailerFields (Gateway.frames offered)).length := by
  cases hm with
  | begin | chunk | trailers | handed | sent | failure | done | overdue => cases hq
  | left reader =>
    rw [h.reader] at reader
    cases reader
  | @refused fields phase refuses =>
    have trailed : p.pipe.trailed = true := refuses.resolve_left (by simp [h.reader])
    have pulled_two : (trailerFields pulled).length = 2 := by
      rw [h.trailers, List.length_append, Option.length_toList, if_pos (h.trailed ▸ trailed), heldFields, phase]
      rfl
    have many := (trailerFields_mono (prefix_frames h.frames h.pulled_prefix)).length_le
    rw [pulled_two] at many
    exact many

end Flow

end Pump

end Gateway
