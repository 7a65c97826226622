import Gateway.Exchange.Tasks
import Gateway.Proofs.Delivery.Pump

/-!
# How far a delivery got

`Delivery` says what a transfer made of the items it was offered, from what its reader has taken and what its pipe
still holds: it is at work, or it passed everything on and ended well, or it broke off, failed and the reader finds a
failure before any end; or the reader left. For a relay the reader is the client, and the outcome that of the request.
`Delivery.chunks_prefix` and `Delivery.clean` say what the reader can tell from what it took.
-/

namespace Gateway

theorem Transfer.reader_cancel (t : Transfer) : t.cancel.pump.pipe.reader = t.pump.pipe.reader := by
  show t.pump.pipe.abort.reader = _
  rw [Pipe.abort_eq]

/-- What a transfer made of the items it was offered; `o` is how it ended, or how the request it decides did. -/
inductive Delivery (announced : BodyLength) (offered taken : List Item) (t : Transfer) (o : Option Outcome) : Prop where
  /-- the transfer is at work, and its reader is there -/
  | flowing {pulled : List Item} {sent : List Bytes} (running : t.running = true)
      (flow : t.pump.Flow announced offered taken pulled sent)
  /-- everything was passed on -/
  | whole {pulled : List Item} {n : Nat} (running : t.running = false) (outcome : o = some .completed)
      (more : ∀ i ∈ pulled, i.isMore = true) (source : pulled ++ [.done] <+: offered)
      (stream : taken ++ t.pump.pipe.items
        = (chunks pulled).map .data ++ ((trailerFields pulled).map .trailers ++ List.replicate (n + 1) .done))
      (single : t.pump.pipe.queue.length ≤ 1)
  /-- the transfer broke off, and lets the reader see it -/
  | broken {pulled rest : List Item} {sent : List Bytes} {cause : Cause} (running : t.running = false)
      (outcome : ∃ failure, o = some (.failed failure)) (more : ∀ i ∈ pulled, i.isMore = true) (source : pulled <+: offered)
      (below : sent <+: chunks pulled) (stream : taken ++ t.pump.pipe.items = sent.map .data ++ .failure cause :: rest)
      (tail : chunks rest = [])
  /-- the reader left while the transfer was at work -/
  | left {pulled : List Item} {sent : List Bytes} (reader : t.pump.pipe.reader = false)
      (more : ∀ i ∈ pulled, i.isMore = true) (source : pulled <+: offered) (below : sent <+: chunks pulled)
      (stream : taken = sent.map .data)

namespace Delivery

variable {announced : BodyLength} {offered taken pulled : List Item} {sent : List Bytes} {t u : Transfer}
  {o : Option Outcome}

/-! ## What the parts do -/

/-- An outcome that is there stays, and one may be recorded. -/
theorem outcome (h : Delivery announced offered taken t o) {o' : Option Outcome} (ho : ∀ a, o = some a → o' = some a) :
    Delivery announced offered taken t o' := by
  cases h with
  | flowing running flow => exact .flowing running flow
  | whole running outcome more source stream single => exact .whole running (ho _ outcome) more source stream single
  | broken running outcome more source below stream tail =>
    obtain ⟨failure, hf⟩ := outcome
    exact .broken running ⟨failure, ho _ hf⟩ more source below stream tail
  | left reader more source below stream => exact .left reader more source below stream

/-- The source offers one more item. -/
theorem push (h : Delivery announced offered taken t o) (item : Item) :
    Delivery announced (offered ++ [item]) taken { t with pump := t.pump.push item } o := by
  have grows {l : List Item} (hl : l <+: offered) : l <+: offered ++ [item] := hl.trans (List.prefix_append _ _)
  cases h with
  | flowing running flow => exact .flowing running (flow.push item)
  | whole running outcome more source stream single => exact .whole running outcome more (grows source) stream single
  | broken running outcome more source below stream tail =>
    exact .broken running outcome more (grows source) below stream tail
  | left reader more source below stream => exact .left reader more (grows source) below stream

/-- The reader takes what is there. -/
theorem read (h : Delivery announced offered taken t o) (there : t.pump.pipe.reader = true) {item : Option Item}
    {pipe : Pipe} (hr : t.pump.pipe.read = (item, pipe)) :
    Delivery announced offered (taken ++ item.toList) { t with pump := { t.pump with pipe } } o := by
  -- what was read moves from the pipe to what was taken; an end that was read is there again
  have moves : taken ++ item.toList ++ pipe.items = taken ++ t.pump.pipe.items
      ∨ taken ++ item.toList ++ pipe.items = taken ++ t.pump.pipe.items ++ [.done] := by
    cases item with
    | none =>
      left
      obtain ⟨none, rfl⟩ := Pipe.items_of_read_none hr
      rw [Option.toList_none, List.append_nil]
      rfl
    | some item =>
      rcases Pipe.items_of_read hr with ⟨hi, -⟩ | ⟨rfl, hp, hq⟩
      · left
        rw [hi, List.append_assoc]
        rfl
      · right
        rw [hp, hq]
        rfl
  have single := (Pipe.read_spec hr).2.2.2
  cases h with
  | flowing running flow => exact .flowing running (flow.read hr)
  | @whole pulled n running outcome more source stream hs =>
    rcases moves with same | again
    · exact .whole running outcome more source (same.trans stream) (Nat.le_trans single hs)
    · have ends : taken ++ item.toList ++ pipe.items
          = (chunks pulled).map .data ++ ((trailerFields pulled).map .trailers ++ List.replicate (n + 1 + 1) .done) := by
        rw [again, stream, List.append_assoc, List.append_assoc, ← List.replicate_succ']
      exact .whole running outcome more source ends (Nat.le_trans single hs)
  | @broken pulled rest sent cause running outcome more source below stream tail =>
    rcases moves with same | again
    · exact .broken running outcome more source below (same.trans stream) tail
    · have behind : taken ++ item.toList ++ pipe.items
          = sent.map .data ++ .failure cause :: (rest ++ [.done]) := by
        rw [again, stream, List.append_assoc, List.cons_append]
      have none : chunks (rest ++ [.done]) = [] := by
        rw [chunks_append, tail]
        rfl
      exact .broken running outcome more source below behind none
  | left reader =>
    rw [there] at reader
    cases reader

/-- What was taken while only chunks were sent. -/
theorem taken_of_stream {rest : List Item} (h : taken ++ rest = sent.map .data) :
    taken = (chunks taken).map .data ∧ chunks taken <+: sent := by
  obtain ⟨first, second, hs, hf, -⟩ := List.append_eq_map_iff.1 h
  rw [← hf, chunks_map_data, hs]
  exact ⟨rfl, List.prefix_append _ _⟩

/-- The reader leaves. -/
theorem leave (h : Delivery announced offered taken t o) :
    Delivery announced offered taken { t with pump := { t.pump with pipe := t.pump.pipe.closeReader } } o := by
  cases h with
  | flowing running flow =>
    obtain ⟨stream, below⟩ := taken_of_stream flow.stream
    exact .left rfl flow.frames flow.pulled_prefix (below.trans flow.sent_prefix) stream
  | whole running outcome more source stream single => exact .whole running outcome more source stream single
  | broken running outcome more source below stream tail => exact .broken running outcome more source below stream tail
  | left reader more source below stream => exact .left rfl more source below stream

/-- A reader that has left takes nothing any more, whatever becomes of the transfer. -/
theorem departed (h : Delivery announced offered taken t o) (running : t.running = true)
    (gone : t.pump.pipe.reader = false) (hu : u.pump.pipe.reader = false) {o' : Option Outcome} :
    Delivery announced offered taken u o' := by
  cases h with
  | flowing _ flow =>
    rw [flow.reader] at gone
    cases gone
  | whole stopped | broken stopped =>
    rw [running] at stopped
    cases stopped
  | left _ more source below stream => exact .left hu more source below stream

/-- A transfer at work has its reader, and flows, or its reader has left. -/
theorem at_work (h : Delivery announced offered taken t o) (running : t.running = true) :
    (∃ pulled sent, t.pump.Flow announced offered taken pulled sent) ∨ t.pump.pipe.reader = false := by
  cases h with
  | flowing _ flow => exact .inl ⟨_, _, flow⟩
  | left reader => exact .inr reader
  | whole stopped | broken stopped =>
    rw [running] at stopped
    cases stopped

/-- The transfer goes on. -/
theorem moves (h : Delivery announced offered taken t o) (running : t.running = true) {pump : Pump} {now : Nat}
    (step : t.pump.Move now pump) (goesOn : pump.result? = none) {o' : Option Outcome} :
    Delivery announced offered taken { t with pump } o' := by
  rcases h.at_work running with ⟨pulled, sent, flow⟩ | gone
  · exact .flowing running (flow.move step goesOn)
  · exact h.departed running gone ((Pump.reader_of_move step).trans gone)

/-- The transfer gives up: its reader finds a failure behind what was sent. -/
theorem cancels (h : Delivery announced offered taken t o) (running : t.running = true) {pump : Pump}
    (pipe : pump.pipe = { t.pump.pipe with trailed := pump.pipe.trailed }) {o' : Option Outcome}
    (ho : ∃ failure, o' = some (.failed failure)) :
    Delivery announced offered taken (Transfer.cancel { t with pump }) o' := by
  rcases h.at_work running with ⟨pulled, sent, flow⟩ | gone
  · have items : (Transfer.cancel { t with pump }).pump.pipe.items
        = t.pump.pipe.items ++ .failure .pipeAborted :: (t.pump.pipe.trailers.toList.map .trailers ++ [.done]) := by
      show pump.pipe.abort.items = _
      rw [pipe]
      exact Pipe.items_abort flow.writer flow.reader
    have stream : taken ++ (Transfer.cancel { t with pump }).pump.pipe.items
        = sent.map .data ++ .failure .pipeAborted :: (t.pump.pipe.trailers.toList.map .trailers ++ [.done]) := by
      rw [items, ← List.append_assoc, flow.stream]
    exact .broken rfl ho flow.frames flow.pulled_prefix flow.sent_prefix stream (chunks_trailers_done _ 1)
  · refine h.departed running gone ((Transfer.reader_cancel _).trans ?_)
    exact (congrArg Pipe.reader pipe).trans gone

/-- The transfer is over, and has passed everything on. -/
theorem closes (h : Delivery announced offered taken t o) (running : t.running = true) {pump : Pump} {now bytes : Nat}
    (step : t.pump.Move now pump) (ended : pump.result? = some (.moved bytes)) {o' : Option Outcome}
    (ho : o' = some .completed) : Delivery announced offered taken (Transfer.close { t with pump }) o' := by
  have pipe := Pump.pipe_of_ended step ended
  rcases h.at_work running with ⟨pulled, sent, flow⟩ | gone
  · obtain ⟨all, hs, htrailers⟩ := flow.ended step ended
    have items : (Transfer.close { t with pump }).pump.pipe.items
        = t.pump.pipe.items ++ (t.pump.pipe.trailers.toList.map .trailers ++ [.done]) := by
      show pump.pipe.closeWriter.items = _
      rw [pipe]
      exact Pipe.items_closeWriter flow.writer
    have stream : taken ++ (Transfer.close { t with pump }).pump.pipe.items
        = (chunks pulled).map .data ++ ((trailerFields pulled).map .trailers ++ List.replicate (0 + 1) .done) := by
      rw [items, ← List.append_assoc, flow.stream, hs, htrailers]
      rfl
    have single : (Transfer.close { t with pump }).pump.pipe.queue.length ≤ 1 := by
      show pump.pipe.queue.length ≤ 1
      rw [pipe]
      exact flow.single
    exact .whole rfl ho flow.frames all stream single
  · exact h.departed running gone ((Pump.reader_of_move step).trans gone)

/-- A transfer that takes its reader for gone is right, unless there were trailers after trailers. -/
theorem gone (h : Delivery announced offered taken t o) (running : t.running = true) {pump : Pump} {now : Nat}
    (step : t.pump.Move now pump) (closed : pump.result? = some .sinkClosed)
    (one : (trailerFields (frames offered)).length ≤ 1) : t.pump.pipe.reader = false := by
  rcases h.at_work running with ⟨pulled, sent, flow⟩ | gone
  · exact absurd one (Nat.not_le.2 (flow.crowded step closed))
  · exact gone

/-! ## What the reader can tell -/

/-- The reader takes chunks of the source, unchanged and in order. -/
theorem chunks_prefix (h : Delivery announced offered taken t o) : chunks taken <+: chunks (frames offered) := by
  cases h with
  | flowing running flow =>
    exact (taken_of_stream flow.stream).2.trans
      (flow.sent_prefix.trans (Gateway.chunks_prefix (prefix_frames flow.frames flow.pulled_prefix)))
  | @whole pulled n running outcome more source stream single =>
    have hc := congrArg chunks stream
    rw [chunks_append, chunks_append, chunks_trailers_done, chunks_map_data, List.append_nil] at hc
    rw [frames_eq more rfl source, ← hc]
    exact List.prefix_append _ _
  | @broken pulled rest sent cause running outcome more source below stream tail =>
    have hc := congrArg chunks stream
    have none : chunks (.failure cause :: rest) = [] := tail
    rw [chunks_append, chunks_append, none, chunks_map_data, List.append_nil] at hc
    have taken_below : chunks taken <+: sent := ⟨_, hc⟩
    exact taken_below.trans (below.trans (Gateway.chunks_prefix (prefix_frames more source)))
  | left reader more source below stream =>
    rw [stream, chunks_map_data]
    exact below.trans (Gateway.chunks_prefix (prefix_frames more source))

/-- Where a failure comes before anything but chunks, an end comes behind a failure. -/
theorem failure_before_done {before after rest : List Item} {cause : Cause}
    (h : before ++ .done :: after = sent.map .data ++ .failure cause :: rest) : ∃ c, .failure c ∈ before := by
  induction sent generalizing before with
  | nil =>
    cases before with
    | nil => cases h
    | cons first before =>
      cases h
      exact ⟨cause, List.mem_cons_self⟩
  | cons bytes sent ih =>
    cases before with
    | nil => cases h
    | cons first before =>
      obtain ⟨-, h⟩ := List.cons.inj h
      obtain ⟨c, hc⟩ := ih h
      exact ⟨c, List.mem_cons_of_mem _ hc⟩

theorem not_done_of_stream {before after : List Item} (h : before ++ .done :: after = sent.map .data) : False := by
  have mem : Item.done ∈ sent.map Item.data := by
    rw [← h]
    simp
  simp at mem

/-- Before the first end the reader took everything. -/
theorem before_done {all before after : List Item} {n : Nat} (none : .done ∉ all)
    (h : before ++ .done :: after = all ++ List.replicate n .done) : ∃ m, before = all ++ List.replicate m .done := by
  induction all generalizing before with
  | nil =>
    refine ⟨before.length, List.eq_replicate_iff.2 ⟨rfl, fun i hi => ?_⟩⟩
    have mem : i ∈ List.replicate n Item.done := by
      rw [← List.nil_append (List.replicate n Item.done), ← h]
      exact List.mem_append_left _ hi
    exact (List.mem_replicate.1 mem).2
  | cons first all ih =>
    cases before with
    | nil =>
      obtain ⟨rfl, -⟩ := List.cons.inj h
      exact absurd List.mem_cons_self none
    | cons other before =>
      obtain ⟨rfl, behind⟩ := List.cons.inj h
      obtain ⟨m, hm⟩ := ih (fun hd => none (List.mem_cons_of_mem _ hd)) behind
      exact ⟨m, by rw [hm]; rfl⟩

/-- An end with no failure before it: the transfer ended well, the source did, and the reader has taken all of it. -/
theorem clean (h : Delivery announced offered taken t o) {before after : List Item} (ht : taken = before ++ .done :: after)
    (hf : ∀ c, .failure c ∉ before) :
    o = some .completed ∧ frames offered ++ [.done] <+: offered ∧ chunks before = chunks (frames offered)
      ∧ trailerFields before = trailerFields (frames offered) := by
  cases h with
  | flowing running flow =>
    have stream := flow.stream
    rw [ht, List.append_assoc, List.cons_append] at stream
    exact (not_done_of_stream stream).elim
  | @whole pulled n running outcome more source stream single =>
    rw [ht, List.append_assoc, List.cons_append, ← List.append_assoc] at stream
    have none : Item.done ∉ (chunks pulled).map Item.data ++ (trailerFields pulled).map Item.trailers := by simp
    -- an end may have been taken again and again, but nothing comes behind the first
    obtain ⟨m, hm⟩ := before_done none stream
    rw [frames_eq more rfl source]
    refine ⟨outcome, source, ?_, ?_⟩
    · rw [hm, List.append_assoc, chunks_append, chunks_trailers_done, chunks_map_data, List.append_nil]
    · rw [hm, List.append_assoc, trailerFields_append, trailerFields_map_data, trailerFields_trailers_done]
      rfl
  | @broken pulled rest sent cause running outcome more source below stream tail =>
    rw [ht, List.append_assoc, List.cons_append] at stream
    obtain ⟨c, hc⟩ := failure_before_done stream
    exact absurd hc (hf c)
  | left reader more source below stream =>
    rw [ht] at stream
    exact (not_done_of_stream stream).elim

end Delivery

end Gateway
