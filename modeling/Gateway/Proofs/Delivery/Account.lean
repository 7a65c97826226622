import Gateway.Body.Timed
import Gateway.Proofs.Delivery.Pump

/-!
# What a pump moved, and why it ended

A pump, the body that still arrives, the reader of its pipe and the clock go on in any order (`PumpRun`). At any moment
the frames the pipe has accepted begin what the body was offered, and the pump has counted their bytes (`Account`). A
pump that has ended had a reason to (`Ending`), and stays ended.

`Account` holds of every pump on its run, `Stage` says where it stands; both are kept by everything that can happen, and
`PumpRun.account` is the run as a whole.
-/

namespace Gateway

/-- What can become of a pump: `offered` is what its body was offered, `taken` what was read from its pipe and `accepted`
the frames the pipe took, each from the beginning and in order. -/
inductive PumpRun (begun : TimedPump) : (offered taken accepted : List Item) → TimedPump → Prop where
  | start : PumpRun begun begun.pump.source.items [] [] begun
  | advance {offered taken accepted t} (run : PumpRun begun offered taken accepted t) (d : Duration) :
      PumpRun begun offered taken accepted (t.advance d)
  | push {offered taken accepted t} (run : PumpRun begun offered taken accepted t) (item : Item) :
      PumpRun begun (offered ++ [item]) taken accepted (t.push item)
  /-- a reader that is there reads -/
  | read {offered taken accepted t} (run : PumpRun begun offered taken accepted t) {item : Option Item} {pipe : Pipe}
      (reader : t.pump.pipe.reader = true) (read : t.pump.pipe.read = (item, pipe)) :
      PumpRun begun offered (taken ++ item.toList) accepted { t with pump := { t.pump with pipe } }
  | leave {offered taken accepted t} (run : PumpRun begun offered taken accepted t) :
      PumpRun begun offered taken accepted t.closeReader
  | step {offered taken accepted t} (run : PumpRun begun offered taken accepted t) {pump : Pump}
      (step : t.pump.step t.now = some pump) :
      PumpRun begun offered taken (accepted ++ t.pump.accepts) { t with pump }
  /-- once the pump has ended the writer leaves -/
  | release {offered taken accepted t} (run : PumpRun begun offered taken accepted t) :
      PumpRun begun offered taken accepted { t with pump := t.pump.release t.aborts }

namespace Pump

/-- The books of a pump. -/
structure Account (announced : BodyLength) (limit : Option Duration) (offered taken accepted : List Item) (p : Pump) :
    Prop where
  limit : p.limit = limit
  below : accepted <+: frames offered
  moved : p.moved = (chunks accepted).flatten.length
  /-- what was read and what is still in the pipe are what the pipe accepted -/
  kept : chunks taken ++ chunks (p.pipe.queue.map Pipe.entry) = chunks accepted
  remaining : p.pipe.remaining = announced.consume (chunks taken).flatten.length

/-- Why a pump ended. -/
inductive Ending (announced : BodyLength) (limit : Option Duration) (offered taken accepted : List Item) (p : Pump) :
    PumpResult → Prop where
  | whole (source : frames offered ++ [.done] <+: offered) (all : accepted = frames offered) :
      Ending announced limit offered taken accepted p (.moved p.moved)
  /-- the reader left with everything announced -/
  | delivered {length : Nat} (reader : p.pipe.reader = false) (known : announced = .known length)
      (read : length ≤ (chunks taken).flatten.length) :
      Ending announced limit offered taken accepted p (.moved p.moved)
  | failed {cause : Cause} (source : frames offered ++ [.failure cause] <+: offered) :
      Ending announced limit offered taken accepted p (.sourceFailed cause)
  /-- the reader left with something missing -/
  | closed (reader : p.pipe.reader = false)
      (missing : ∀ length, announced = .known length → (chunks taken).flatten.length < length) :
      Ending announced limit offered taken accepted p .sinkClosed
  /-- the reader left before it was given the trailers -/
  | untrailed {fields : Headers} (reader : p.pipe.reader = false)
      (next : accepted ++ [.trailers fields] <+: frames offered) :
      Ending announced limit offered taken accepted p .sinkClosed
  /-- trailers after trailers -/
  | crowded (many : 1 < (trailerFields (frames offered)).length) :
      Ending announced limit offered taken accepted p .sinkClosed
  | silent {idle : Duration} (limited : limit = some idle) :
      Ending announced limit offered taken accepted p (.timedOut idle)

/-- Where a pump stands. -/
inductive Stage (announced : BodyLength) (limit : Option Duration) (offered taken accepted : List Item) (p : Pump) :
    Prop where
  /-- the pump is at work and its reader is there -/
  | flowing (flow : p.Flow announced offered taken (accepted ++ p.holds) (chunks accepted))
  /-- the reader left, which the pump has not noticed -/
  | left (reader : p.pipe.reader = false) (unfinished : p.result? = none) (next : accepted ++ p.holds <+: frames offered)
  | ended {result : PumpResult} (finished : p.result? = some result)
      (ending : Ending announced limit offered taken accepted p result)

variable {announced : BodyLength} {limit : Option Duration} {offered taken accepted : List Item} {p q : Pump}

namespace Account

theorem new (limit : Option Duration) (body : Body) (waits : Bool) :
    Account announced limit body.items [] [] (Pump.new limit body (Pipe.new announced waits)) where
  limit := rfl
  below := List.nil_prefix
  moved := rfl
  kept := rfl
  remaining := by cases announced <;> rfl

theorem push (a : Account announced limit offered taken accepted p) (item : Item) :
    Account announced limit (offered ++ [item]) taken accepted (p.push item) :=
  { a with below := a.below.trans (frames_mono (List.prefix_append _ _)) }

theorem leave (a : Account announced limit offered taken accepted p) :
    Account announced limit offered taken accepted p.closeReader :=
  { a with }

theorem read (a : Account announced limit offered taken accepted p) {item : Option Item} {pipe : Pipe}
    (hr : p.pipe.read = (item, pipe)) :
    Account announced limit offered (taken ++ item.toList) accepted { p with pipe } := by
  obtain ⟨queue, remaining⟩ := Pipe.read_counts hr
  refine { a with kept := ?_, remaining := ?_ }
  · rw [chunks_append, List.append_assoc, ← queue]
    exact a.kept
  · rw [remaining, a.remaining, BodyLength.consume_consume, chunks_append, List.flatten_append, List.length_append]

theorem release (a : Account announced limit offered taken accepted p) (aborts : Bool) :
    Account announced limit offered taken accepted (p.release aborts) := by
  have remaining : p.pipe.abort.remaining = p.pipe.remaining := by rw [Pipe.abort_eq]
  unfold Pump.release
  split
  · exact a
  · split
    · exact a
    · split
      · exact { a with kept := p.pipe.chunks_abort ▸ a.kept, remaining := remaining.trans a.remaining }
      · exact { a with }

/-- What is no chunk is not counted. -/
theorem quiet (a : Account announced limit offered taken accepted p) (below : accepted ++ p.accepts <+: frames offered)
    (chunkless : chunks p.accepts = []) (same : q.limit = p.limit) (moved : q.moved = p.moved)
    (queue : q.pipe.queue = p.pipe.queue) (remaining : q.pipe.remaining = p.pipe.remaining) :
    Account announced limit offered taken (accepted ++ p.accepts) q where
  limit := same.trans a.limit
  below := below
  moved := by rw [moved, a.moved, chunks_append, chunkless, List.append_nil]
  kept := by rw [queue, a.kept, chunks_append, chunkless, List.append_nil]
  remaining := remaining.trans a.remaining

/-- A step adds what the pipe takes from it. -/
theorem move (a : Account announced limit offered taken accepted p) {now : Nat} (h : p.Move now q)
    (below : accepted ++ p.accepts <+: frames offered) :
    Account announced limit offered taken (accepted ++ p.accepts) q := by
  have ends (result : PumpResult) (hq : q.result? = some result) : chunks p.accepts = [] := by
    rw [accepts_of_ended h hq, chunks_nil]
  cases h with
  | begin phase | chunk phase | trailers phase => exact a.quiet below (by simp [accepts, phase]) rfl rfl rfl rfl
  | handed phase reader untrailed =>
    refine a.quiet below ?_ rfl rfl rfl rfl
    simp [accepts, phase, Pipe.sendTrailers_of_taken reader untrailed, chunks, Item.chunk?]
  | left | refused | failure | done | overdue => exact a.quiet below (ends _ rfl) rfl rfl rfl rfl
  | @sent bytes phase _ ready =>
    have ha : p.accepts = [.data bytes] := by simp [accepts, phase, Pipe.send, ready]
    rw [ha] at below ⊢
    refine ⟨a.limit, below, ?_, ?_, a.remaining⟩
    · show p.moved + bytes.length = _
      rw [a.moved, chunks_append]
      simp [chunks, Item.chunk?]
    · show chunks taken ++ chunks ((p.pipe.queue ++ [Except.ok bytes]).map Pipe.entry) = _
      rw [List.map_append, chunks_append, ← List.append_assoc, a.kept, chunks_append]
      rfl

/-- The pump has passed on everything announced exactly if its reader took it. -/
theorem isDelivered_iff (a : Account announced limit offered taken accepted p) :
    p.pipe.isDelivered = true ↔ ∃ length, announced = .known length ∧ length ≤ (chunks taken).flatten.length := by
  rw [Pipe.isDelivered, a.remaining]
  cases announced with
  | unknown => simp [BodyLength.consume]
  | known length => simp [BodyLength.consume, Nat.sub_eq_zero_iff_le]

theorem isDelivered_eq_false_iff (a : Account announced limit offered taken accepted p) :
    p.pipe.isDelivered = false ↔ ∀ length, announced = .known length → (chunks taken).flatten.length < length := by
  rw [← Bool.not_eq_true, a.isDelivered_iff]
  simp only [not_exists, not_and, Nat.not_le]

end Account

/-! ## Reasons to end -/

namespace Ending

/-- A reason stays: what was read does not change once the reader has left. -/
theorem mono {result : PumpResult} (e : Ending announced limit offered taken accepted p result) (moved : q.moved = p.moved)
    {offered' taken' : List Item} (grows : offered <+: offered')
    (gone : p.pipe.reader = false → q.pipe.reader = false ∧ taken' = taken) :
    Ending announced limit offered' taken' accepted q result := by
  have stopped {stop : Item} (hs : stop.isMore = false) (source : frames offered ++ [stop] <+: offered) :
      frames offered' = frames offered := frames_eq isMore_of_mem_frames hs (source.trans grows)
  cases e with
  | whole source all =>
    have same := stopped rfl source
    exact moved ▸ .whole (same ▸ source.trans grows) (same ▸ all)
  | delivered reader known read =>
    obtain ⟨left, rfl⟩ := gone reader
    exact moved ▸ .delivered left known read
  | failed source => exact .failed (stopped rfl source ▸ source.trans grows)
  | closed reader missing =>
    obtain ⟨left, rfl⟩ := gone reader
    exact .closed left missing
  | untrailed reader next => exact .untrailed (gone reader).1 (next.trans (frames_mono grows))
  | crowded many => exact .crowded (Nat.lt_of_lt_of_le many (trailerFields_mono (frames_mono grows)).length_le)
  | silent limited => exact .silent limited

/-- The reader has left: with everything announced, or with something missing. -/
theorem of_left (a : Account announced limit offered taken accepted p) (reader : p.pipe.reader = false) :
    Ending announced limit offered taken accepted p.finishClosed
      (if p.pipe.isDelivered then .moved p.moved else .sinkClosed) := by
  split
  · rename_i all
    obtain ⟨length, known, read⟩ := a.isDelivered_iff.1 all
    exact .delivered (p := p.finishClosed) reader known read
  · rename_i missing
    exact .closed reader (a.isDelivered_eq_false_iff.1 (by simpa using missing))

end Ending

/-! ## Where a pump stands -/

theorem release_of_unfinished (unfinished : p.result? = none) (aborts : Bool) : p.release aborts = p := by
  simp [Pump.release, unfinished]

theorem release_spec (p : Pump) (aborts : Bool) :
    (p.release aborts).result? = p.result? ∧ (p.release aborts).moved = p.moved
      ∧ (p.release aborts).pipe.reader = p.pipe.reader := by
  have aborted : p.pipe.abort.reader = p.pipe.reader := by rw [Pipe.abort_eq]
  unfold Pump.release
  split
  · exact ⟨rfl, rfl, rfl⟩
  · split
    · exact ⟨rfl, rfl, rfl⟩
    · split
      · exact ⟨rfl, rfl, aborted⟩
      · exact ⟨rfl, rfl, rfl⟩

namespace Stage

theorem new (limit : Option Duration) (body : Body) (waits : Bool) :
    Stage announced limit body.items [] [] (Pump.new limit body (Pipe.new announced waits)) :=
  .flowing (.new limit body waits)

theorem push (s : Stage announced limit offered taken accepted p) (item : Item) :
    Stage announced limit (offered ++ [item]) taken accepted (p.push item) := by
  cases s with
  | flowing flow => exact .flowing (flow.push item)
  | left reader unfinished next => exact .left reader unfinished (next.trans (frames_mono (List.prefix_append _ _)))
  | ended finished ending =>
    exact .ended finished (ending.mono (q := p.push item) rfl (List.prefix_append _ _) fun gone => ⟨gone, rfl⟩)

theorem read (s : Stage announced limit offered taken accepted p) (there : p.pipe.reader = true) {item : Option Item}
    {pipe : Pipe} (hr : p.pipe.read = (item, pipe)) :
    Stage announced limit offered (taken ++ item.toList) accepted { p with pipe } := by
  cases s with
  | flowing flow => exact .flowing (flow.read hr)
  | left reader => simp [there] at reader
  | ended finished ending =>
    refine .ended finished (ending.mono (q := { p with pipe }) rfl (List.prefix_refl _) fun gone => ?_)
    simp [there] at gone

theorem leave (s : Stage announced limit offered taken accepted p) :
    Stage announced limit offered taken accepted p.closeReader := by
  cases s with
  | flowing flow => exact .left rfl flow.unfinished (prefix_frames flow.frames flow.pulled_prefix)
  | left reader unfinished next => exact .left rfl unfinished next
  | ended finished ending =>
    exact .ended finished (ending.mono (q := p.closeReader) rfl (List.prefix_refl _) fun _ => ⟨rfl, rfl⟩)

theorem release (s : Stage announced limit offered taken accepted p) (aborts : Bool) :
    Stage announced limit offered taken accepted (p.release aborts) := by
  cases s with
  | flowing flow =>
    rw [release_of_unfinished flow.unfinished]
    exact .flowing flow
  | left reader unfinished next =>
    rw [release_of_unfinished unfinished]
    exact .left reader unfinished next
  | ended finished ending =>
    obtain ⟨result, moved, reader⟩ := release_spec p aborts
    refine .ended (result.trans finished) (ending.mono moved (List.prefix_refl _) fun gone => ⟨reader.trans gone, rfl⟩)

/-- A pump at work with its reader there ends with a reason. -/
theorem ending_of_flow (a : Account announced limit offered taken accepted p)
    (flow : p.Flow announced offered taken (accepted ++ p.holds) (chunks accepted)) {now : Nat}
    (h : p.Move now q) {result : PumpResult} (hq : q.result? = some result) :
    Ending announced limit offered taken accepted q result := by
  -- a pump that waits for its body has passed on everything it pulled
  have waiting {since : Nat} (phase : p.phase = .waiting since) :
      p.Flow announced offered taken accepted (chunks accepted) := by
    simpa [holds, held, heldFields, phase] using flow
  have crowded := flow.crowded h
  cases h with
  | begin | chunk | trailers | handed | sent => cases hq
  | left reader =>
    rw [flow.reader] at reader
    cases reader
  | refused =>
    cases hq
    exact .crowded (crowded rfl)
  | @failure since cause source reader read phase =>
    cases hq
    have source := (waiting phase).source
    rw [(Body.items_of_read read (by simp)).1] at source
    have below : accepted ++ [.failure cause] <+: offered := .trans ⟨_, List.append_assoc _ _ _⟩ source
    exact .failed (frames_eq (waiting phase).frames rfl below ▸ below)
  | @done since source phase reader read =>
    cases hq
    have source := (waiting phase).source
    obtain ⟨rest, items⟩ := Body.items_of_read_done read
    rw [items] at source
    have below : accepted ++ [.done] <+: offered := .trans ⟨_, List.append_assoc _ _ _⟩ source
    have all := frames_eq (waiting phase).frames rfl below
    exact .whole (all ▸ below) all.symm
  | @overdue since idle source reader phase read late =>
    cases hq
    exact .silent (a.limit ▸ (isOverdue_eq_some_iff.1 late).1)

theorem move (s : Stage announced limit offered taken accepted p) (a : Account announced limit offered taken accepted p)
    {now : Nat} (h : p.Move now q) (unfinished : p.result? = none) :
    accepted ++ p.accepts <+: frames offered ∧ Stage announced limit offered taken (accepted ++ p.accepts) q := by
  cases s with
  | flowing flow =>
    cases hq : q.result? with
    | none =>
      have flow := flow.move h hq
      rw [List.append_assoc, held_of_move h hq, ← List.append_assoc, ← chunks_append] at flow
      exact ⟨(List.prefix_append _ _).trans (prefix_frames flow.frames flow.pulled_prefix), .flowing flow⟩
    | some result =>
      rw [accepts_of_ended h hq, List.append_nil]
      exact ⟨a.below, .ended hq (ending_of_flow a flow h hq)⟩
  | left reader _ next =>
    cases h with
    | begin phase =>
      have none : p.accepts = [] := by simp [accepts, phase]
      rw [none, List.append_nil]
      refine ⟨a.below, .left reader rfl ?_⟩
      simpa [holds, held, heldFields, phase] using next
    | left _ begun free =>
      have ends : p.Move now p.finishClosed := .left reader begun free
      rw [accepts_of_ended ends rfl, List.append_nil]
      exact ⟨a.below, .ended rfl (.of_left a reader)⟩
    | @refused fields phase refuses =>
      have ends : p.Move now _ := .refused phase refuses
      have holds : p.holds = [.trailers fields] := by simp [holds, held, heldFields, phase]
      rw [accepts_of_ended ends rfl, List.append_nil]
      exact ⟨a.below, .ended rfl (.untrailed reader (holds ▸ next))⟩
    | chunk _ there | trailers _ there | handed _ there | failure there | done _ there | overdue there
    | sent _ there => simp [reader] at there
  | ended finished =>
    rw [unfinished] at finished
    cases finished

end Stage

end Pump

/-! ## The run as a whole -/

theorem Pump.step_of_ended {p : Pump} {result : PumpResult} (ended : p.result? = some result) (now : Nat) :
    p.step now = none := by
  unfold result? at ended
  split at ended
  · rename_i phase
    simp [step, phase]
  · cases ended

theorem Pump.unfinished_of_step {p q : Pump} {now : Nat} (step : p.step now = some q) : p.result? = none := by
  cases hr : p.result? with
  | none => rfl
  | some result =>
    rw [step_of_ended hr] at step
    cases step

namespace PumpRun

variable {announced : BodyLength} {limit : Option Duration} {body : Body} {waits aborts : Bool} {now : Nat}
  {offered taken accepted : List Item} {begun t u : TimedPump}

theorem account (run : PumpRun ⟨.new limit body (.new announced waits), now, aborts⟩ offered taken accepted t) :
    t.pump.Account announced limit offered taken accepted ∧ t.pump.Stage announced limit offered taken accepted := by
  induction run with
  | start => exact ⟨.new limit body waits, .new limit body waits⟩
  | advance run d ih => exact ih
  | push run item ih => exact ⟨ih.1.push item, ih.2.push item⟩
  | read run reader read ih => exact ⟨ih.1.read read, ih.2.read reader read⟩
  | leave run ih => exact ⟨ih.1.leave, ih.2.leave⟩
  | @step offered taken accepted t run pump step ih =>
    obtain ⟨account, stage⟩ := ih
    obtain ⟨below, stage⟩ := stage.move account (Pump.move_of_step step) (Pump.unfinished_of_step step)
    exact ⟨account.move (Pump.move_of_step step) below, stage⟩
  | release run ih => exact ⟨ih.1.release _, ih.2.release _⟩

/-- A pump that has ended stays so. -/
theorem result_stays (run : PumpRun begun offered taken accepted t) {result : PumpResult}
    (ended : begun.pump.result? = some result) : t.pump.result? = some result := by
  induction run with
  | start => exact ended
  | advance run d ih | push run item ih | read run reader read ih | leave run ih => exact ih
  | step run step ih =>
    rw [Pump.step_of_ended ih] at step
    cases step
  | release run ih => exact (Pump.release_spec _ _).1.trans ih

/-! ### The pump on its own clock -/

theorem runFor (run : PumpRun begun offered taken accepted t) (fuel : Nat) :
    ∃ accepted, PumpRun begun offered taken accepted { t with pump := Pump.runFor fuel t.now t.pump } := by
  induction fuel generalizing accepted t with
  | zero => exact ⟨accepted, run⟩
  | succ fuel ih =>
    unfold Pump.runFor
    split
    · rename_i pump step
      exact ih (run.step step)
    · exact ⟨accepted, run⟩

theorem reader_runFor (p : Pump) (fuel now : Nat) : (Pump.runFor fuel now p).pipe.reader = p.pipe.reader := by
  induction fuel generalizing p with
  | zero => rfl
  | succ fuel ih =>
    unfold Pump.runFor
    split
    · rename_i q step
      exact (ih q).trans (Pump.reader_of_move (Pump.move_of_step step))
    · rfl

theorem reader_settle (there : t.pump.pipe.reader = true) : t.settle.pump.pipe.reader = true :=
  (Pump.release_spec _ _).2.2.trans ((reader_runFor _ _ _).trans there)

/-- A pump that goes on until it must wait makes some of the steps it could. -/
theorem settle (run : PumpRun begun offered taken accepted t) :
    ∃ accepted, PumpRun begun offered taken accepted t.settle := by
  obtain ⟨accepted, goesOn⟩ := run.runFor t.pump.potential
  exact ⟨accepted, goesOn.release⟩

/-- The reader reads what is there. -/
theorem readNow (run : PumpRun begun offered taken accepted t) (reader : t.pump.pipe.reader = true)
    {item : Option Item} {pump : Pump} (read : t.pump.read = (item, pump)) :
    PumpRun begun offered (taken ++ item.toList) accepted { t with pump } := by
  unfold Pump.read at read
  cases read
  exact run.read reader rfl

/-- A pump whose reader finds nothing goes on before the reader looks again. -/
theorem readSettled (run : PumpRun begun offered taken accepted t) (reader : t.pump.pipe.reader = true)
    {item : Option Item} (read : t.read = (item, u)) :
    ∃ accepted, PumpRun begun offered (taken ++ item.toList) accepted u := by
  unfold TimedPump.read Gateway.readSettled at read
  cases first : t.pump.read with
  | mk found pump =>
    have there : pump.pipe.reader = true := by
      have same := congrArg (fun r => r.2.pipe.reader) first
      exact same.symm.trans ((Pipe.read_spec (q := t.pump.pipe.read.2) rfl).1.trans reader)
    have looked := run.readNow reader first
    dsimp only at read
    rw [first] at read
    cases found with
    | some found =>
      cases read
      exact ⟨accepted, looked⟩
    | none =>
      rw [Option.toList_none, List.append_nil] at looked
      obtain ⟨accepted, settled⟩ := looked.settle
      cases second : (TimedPump.settle { t with pump }).pump.read with
      | mk item pump =>
        dsimp only at read
        rw [second] at read
        cases read
        exact ⟨accepted, settled.readNow (reader_settle there) second⟩

end PumpRun

/-- What a reader that has left did not get: some of what was announced, or trailers that the pump holds. -/
def Pump.Misses (announced : BodyLength) (taken : List Item) (p : Pump) : Prop :=
  (∀ length, announced = .known length → (chunks taken).flatten.length < length) ∨ ∃ fields, p.phase = .handing fields

/-- A pump without a reader ends well exactly if its reader missed nothing. -/
theorem Pump.Account.ends_of_left {announced : BodyLength} {limit : Option Duration} {offered taken accepted : List Item}
    {p q : Pump} (a : p.Account announced limit offered taken accepted) {now : Nat} (h : p.Move now q)
    (reader : p.pipe.reader = false) (begun : p.phase ≠ .created) :
    (q.result? = some .sinkClosed ∧ p.Misses announced taken)
      ∨ (q.result? = some (.moved p.moved) ∧ ¬p.Misses announced taken) := by
  cases h with
  | begin phase => exact absurd phase begun
  | left _ _ free =>
    have held : ¬∃ fields, p.phase = .handing fields := fun ⟨fields, phase⟩ => free fields phase
    cases delivered : p.pipe.isDelivered with
    | true =>
      obtain ⟨length, known, read⟩ := a.isDelivered_iff.1 delivered
      refine .inr ⟨by simp [finishClosed, finish, result?, delivered], ?_⟩
      rintro (missing | trailers)
      · exact Nat.not_lt.2 read (missing length known)
      · exact held trailers
    | false =>
      exact .inl ⟨by simp [finishClosed, finish, result?, delivered], .inl (a.isDelivered_eq_false_iff.1 delivered)⟩
  | refused phase => exact .inl ⟨rfl, .inr ⟨_, phase⟩⟩
  | chunk _ there | trailers _ there | handed _ there | failure there | done _ there | overdue there
  | sent _ there => simp [reader] at there

/-- Whatever happens around a pump: the frames its pipe accepts begin what its body was offered, the bytes counted are
those accepted, what the reader gets was accepted, and an end is the only one and has its reason. A pump whose reader
has left ends with everything moved exactly if the reader missed nothing, be it only trailers that the pump holds: they
are missing even to a reader that took everything announced. -/
theorem pump_accounts {announced : BodyLength} {limit : Option Duration} {body : Body} {waits aborts : Bool} {now : Nat}
    {offered taken accepted : List Item} {t : TimedPump}
    (run : PumpRun ⟨.new limit body (.new announced waits), now, aborts⟩ offered taken accepted t)
    (few : (trailerFields (frames offered)).length ≤ 1) :
    accepted <+: frames offered ∧ t.pump.moved = (chunks accepted).flatten.length ∧ chunks taken <+: chunks accepted
      ∧ (∀ pump, t.pump.step t.now = some pump → t.pump.pipe.reader = false → t.pump.phase ≠ .created →
          (pump.result? = some .sinkClosed ∧ t.pump.Misses announced taken)
            ∨ (pump.result? = some (.moved t.pump.moved) ∧ ¬t.pump.Misses announced taken))
      ∧ ∀ result, t.pump.result? = some result →
        (∀ offered taken accepted u, PumpRun t offered taken accepted u → u.pump.result? = some result)
        ∧ match result with
          | .sourceFailed cause => frames offered ++ [.failure cause] <+: offered
          | .sinkClosed => t.pump.pipe.reader = false
            ∧ ((∀ length, announced = .known length → (chunks taken).flatten.length < length)
              ∨ ∃ fields, accepted ++ [.trailers fields] <+: frames offered)
          | .timedOut idle => limit = some idle
          | .moved bytes => bytes = t.pump.moved
            ∧ (frames offered ++ [.done] <+: offered ∧ accepted = frames offered
              ∨ t.pump.pipe.reader = false
                ∧ ∃ length, announced = .known length ∧ length ≤ (chunks taken).flatten.length) := by
  obtain ⟨account, stage⟩ := run.account
  refine ⟨account.below, account.moved, ⟨_, account.kept⟩,
    fun pump step reader begun => account.ends_of_left (Pump.move_of_step step) reader begun,
    fun result ended => ⟨fun _ _ _ u more => ?_, ?_⟩⟩
  · exact more.result_stays ended
  · cases stage with
    | flowing flow => simp [flow.unfinished] at ended
    | left _ unfinished _ => simp [unfinished] at ended
    | ended finished ending =>
      obtain rfl : _ = result := Option.some.inj (finished.symm.trans ended)
      cases ending with
      | whole source all => exact ⟨rfl, .inl ⟨source, all⟩⟩
      | delivered reader known read => exact ⟨rfl, .inr ⟨reader, _, known, read⟩⟩
      | failed source => exact source
      | closed reader missing => exact ⟨reader, .inl missing⟩
      | untrailed reader next => exact ⟨reader, .inr ⟨_, next⟩⟩
      | crowded many => exact absurd many (Nat.not_lt.2 few)
      | silent limited => exact limited

/-- A pump that moves a chunk and trailers, and ends. -/
theorem pump_accounts_moved : ∃ t,
    PumpRun ⟨.new none (.arriving (.ofItems [.data [1, 2]] false)) (.new (.known 2) true), 0, false⟩
      [.data [1, 2], .trailers .empty, .done] [.data [1, 2]] [.data [1, 2], .trailers .empty] t
    ∧ t.pump.result? = some (.moved 2) ∧ t.pump.moved = 2 := by
  let begun : TimedPump := ⟨.new none (.arriving (.ofItems [.data [1, 2]] false)) (.new (.known 2) true), 0, false⟩
  have begins : PumpRun begun [.data [1, 2]] [] [] begun := .start
  have run := (((((((begins.step rfl).step rfl).read rfl rfl).push (.trailers .empty)).step rfl).read rfl rfl).step
    rfl).step rfl |>.push .done |>.step rfl
  exact ⟨_, run, rfl, (pump_accounts run (by decide)).2.1⟩

/-- A reader that took all the two bytes announced leaves while the pump holds trailers: the pump ends as one whose reader
left too early. -/
theorem sinkClosed_of_delivered : ∃ t,
    PumpRun ⟨.new none (.arriving (.ofItems [.data [1, 2]] false)) (.new (.known 2) true), 0, false⟩
      [.data [1, 2], .trailers .empty] [.data [1, 2]] [.data [1, 2]] t
    ∧ t.pump.pipe.isDelivered = true ∧ t.pump.result? = some .sinkClosed := by
  let begun : TimedPump := ⟨.new none (.arriving (.ofItems [.data [1, 2]] false)) (.new (.known 2) true), 0, false⟩
  have begins : PumpRun begun [.data [1, 2]] [] [] begun := .start
  have run := (((((((begins.step rfl).step rfl).read rfl rfl).push (.trailers .empty)).step rfl).read rfl rfl).step
    rfl).leave.step rfl
  exact ⟨_, run, rfl, rfl⟩

end Gateway
