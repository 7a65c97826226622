import Gateway.Proofs.Delivery.Backpressure

/-!
# What the limit of a pump measures

A pump gives its body up when that has been silent for too long. Only silence counts: time that passes while the pump
waits for the next item and its body has none. Time that passes while a slow reader keeps the pump waiting does not
count, and with every frame the pipe accepts a new wait begins, with the whole limit before it.

`Watch` is a stopwatch that is held beside a pump and looks at what the body has and what the pipe accepts; the pump
itself only notes when a wait began. `Timed` says that the two agree, and does all along a run (`WatchedRun.timed`).
The main theorem is `pump_silence`.
-/

namespace Gateway

/-- A body has nothing as long as no item has come and its end has not. -/
theorem Source.read_eq_none_iff {s : Source} : s.read.1 = none ↔ s.ended = false ∧ s.items = [] := by
  unfold read
  cases s.ended with
  | true => simp
  | false =>
    cases s.items with
    | nil => simp
    | cons first rest => cases first <;> simp

/-- A body that has nothing after one more item came had nothing before. -/
theorem Body.read_eq_none_of_push {b : Body} {item : Item} (h : (b.push item).read.1 = none) : b.read.1 = none := by
  cases b with
  | whole rest => exact h
  | arriving s =>
    have pushed : (s.push item).ended = false ∧ (s.push item).items = [] := Source.read_eq_none_iff.1 h
    by_cases released : s.released = true
    · have lost : s.push item = s := if_pos released
      rw [lost] at pushed
      exact Source.read_eq_none_iff.2 pushed
    · simp [Source.push, released] at pushed

namespace Pump

variable {p q : Pump} {now : Nat}

/-! ## Waits -/

/-- The pump waits for its body. -/
def awaits (p : Pump) : Bool :=
  match p.phase with
  | .waiting _ => true
  | _ => false

/-- The pump waits for its body, and its body has nothing. -/
def isStarved (p : Pump) : Bool := p.awaits && p.source.read.1.isNone

/-- A step begins a wait for the body if it is the first one, or if the pipe accepts a frame in it. -/
def beginsWait (p : Pump) : Bool := decide (p.phase = .created) || !p.accepts.isEmpty

theorem awaits_iff : p.awaits = true ↔ ∃ since, p.phase = .waiting since := by
  unfold awaits
  cases p.phase <;> simp

theorem isStarved_iff : p.isStarved = true ↔ ∃ since, p.phase = .waiting since ∧ p.source.read.1 = none := by
  rw [isStarved, Bool.and_eq_true, awaits_iff, Option.isNone_iff_eq_none, exists_and_right]

/-- A pump that waits for its body after a step has begun to with this step. -/
theorem began_of_move (h : p.Move now q) {since : Nat} (phase : q.phase = .waiting since) :
    since = now ∧ p.beginsWait = true := by
  cases h with
  | begin created =>
    cases phase
    exact ⟨rfl, by simp [beginsWait, created]⟩
  | handed handing reader untrailed =>
    cases phase
    exact ⟨rfl, by simp [beginsWait, accepts, handing, Pipe.sendTrailers_of_taken reader untrailed]⟩
  | sent holding _ ready =>
    cases phase
    exact ⟨rfl, by simp [beginsWait, accepts, holding, Pipe.send, ready]⟩
  | left | chunk | trailers | refused | failure | done | overdue => cases phase

/-- A step that ends the pump begins no wait. -/
theorem beginsWait_of_ended (h : p.Move now q) {result : PumpResult} (ended : q.result? = some result) :
    p.beginsWait = false := by
  have begun : p.phase ≠ .created := by
    cases h with
    | begin | chunk | trailers | handed | sent => cases ended
    | left _ begun => exact begun
    | refused phase | failure _ _ phase | done phase | overdue _ phase => simp [phase]
  simp [beginsWait, begun, accepts_of_ended h ended]

/-- Whatever the clock shows, a pump takes what its body has. -/
theorem takes_of_read (awaits : p.awaits = true) (reader : p.pipe.reader = true) {item : Item} {source : Body}
    (read : p.source.read = (some item, source)) (clock : Nat) :
    ∃ q, p.step clock = some q ∧ (q.source = source ∨ q.source = source.release)
      ∧ ∀ idle, q.result? ≠ some (.timedOut idle) := by
  obtain ⟨since, phase⟩ := awaits_iff.1 awaits
  cases item with
  | data bytes =>
    refine ⟨{ p with source, phase := .holding bytes }, ?_, .inl rfl, fun idle timedOut => ?_⟩
    · simp [step, phase, stepWaiting, reader, read]
    · cases timedOut
  | trailers fields =>
    refine ⟨{ p with source, phase := .handing fields }, ?_, .inl rfl, fun idle timedOut => ?_⟩
    · simp [step, phase, stepWaiting, reader, read]
    · cases timedOut
  | failure cause =>
    refine ⟨{ p with source }.finish (.sourceFailed cause), ?_, .inr rfl, fun idle timedOut => ?_⟩
    · simp [step, phase, stepWaiting, reader, read]
    · cases timedOut
  | done =>
    refine ⟨{ p with source }.finish (.moved p.moved), ?_, .inr rfl, fun idle timedOut => ?_⟩
    · simp [step, phase, stepWaiting, reader, read]
    · cases timedOut

/-! ## Letting a pump go on -/

theorem runFor_of_ended {result : PumpResult} (ended : p.result? = some result) (fuel now : Nat) :
    runFor fuel now p = p := by
  cases fuel with
  | zero => rfl
  | succ fuel =>
    unfold runFor
    rw [step_of_ended ended]

/-- A pump whose wait began just now does not run out of time now, however long it goes on. -/
theorem untimed_runFor {idle : Duration} (positive : 0 < idle.nanos) (fuel : Nat)
    (fresh : ∀ since, p.phase = .waiting since → since = now) (untimed : p.result? ≠ some (.timedOut idle)) :
    (runFor fuel now p).result? ≠ some (.timedOut idle) := by
  induction fuel generalizing p with
  | zero => exact untimed
  | succ fuel ih =>
    unfold runFor
    split
    · rename_i q step
      have move := move_of_step step
      refine ih (fun since phase => (began_of_move move phase).1) fun timedOut => ?_
      cases (breaks_iff_of_move move (by simp) (by simp)).2 timedOut with
      | silent phase _ _ _ late =>
        rw [fresh _ phase] at late
        omega
    · exact untimed

theorem exists_potential (unfinished : p.result? = none) : ∃ fuel, p.potential = fuel + 1 := by
  cases phase : p.phase with
  | created | waiting | holding | handing => simp only [potential, phase]; exact ⟨_, rfl⟩
  | finished => simp [result?, phase] at unfinished

/-- A pump that goes on until it must wait runs out of time with its first step, or not at all. -/
theorem timedOut_run_iff {idle : Duration} (positive : 0 < idle.nanos) (unfinished : p.result? = none) :
    (p.run now).result? = some (.timedOut idle)
      ↔ ∃ q, p.step now = some q ∧ q.result? = some (.timedOut idle) := by
  obtain ⟨fuel, potential⟩ := exists_potential unfinished
  unfold run
  rw [potential]
  unfold runFor
  cases step : p.step now with
  | none => simp [unfinished]
  | some q =>
    have fresh : ∀ since, q.phase = .waiting since → since = now := fun since phase =>
      (began_of_move (move_of_step step) phase).1
    show (runFor fuel now q).result? = _ ↔ _
    constructor
    · intro timedOut
      by_cases first : q.result? = some (.timedOut idle)
      · exact ⟨q, rfl, first⟩
      · exact absurd timedOut (untimed_runFor positive fuel fresh first)
    · rintro ⟨q, ⟨⟩, first⟩
      rw [runFor_of_ended first, first]

end Pump

/-! ## The stopwatch -/

/-- What is seen of the waits of a pump. Times are in nanoseconds. -/
structure Watch where
  /-- what the clock showed when the pump last began to wait for its body -/
  began : Nat
  /-- how long the body has been silent since then while the pump waited -/
  silent : Nat
  /-- what the clock showed when the pump last moved -/
  moved : Nat
  /-- whether the reader was there then -/
  attended : Bool

namespace Watch

/-- Before the pump has begun. -/
def start (now : Nat) : Watch := ⟨now, 0, now, true⟩

/-- Time passes beside the pump. -/
def advance (w : Watch) (p : Pump) (d : Duration) : Watch :=
  if p.isStarved then { w with silent := w.silent + d.nanos } else w

/-- The pump makes a step. -/
def step (w : Watch) (p : Pump) (now : Nat) : Watch where
  began := if p.beginsWait then now else w.began
  silent := if p.beginsWait then 0 else w.silent
  moved := now
  attended := p.pipe.reader

end Watch

/-- What can become of a pump, with a stopwatch beside it. -/
inductive WatchedRun (begun : TimedPump) : Watch → TimedPump → Prop where
  | start : WatchedRun begun (.start begun.now) begun
  | advance {w t} (run : WatchedRun begun w t) (d : Duration) : WatchedRun begun (w.advance t.pump d) (t.advance d)
  | push {w t} (run : WatchedRun begun w t) (item : Item) : WatchedRun begun w (t.push item)
  /-- a reader that is there reads -/
  | read {w t} (run : WatchedRun begun w t) {item : Option Item} {pipe : Pipe} (reader : t.pump.pipe.reader = true)
      (read : t.pump.pipe.read = (item, pipe)) : WatchedRun begun w { t with pump := { t.pump with pipe } }
  | leave {w t} (run : WatchedRun begun w t) : WatchedRun begun w t.closeReader
  | step {w t} (run : WatchedRun begun w t) {pump : Pump} (step : t.pump.step t.now = some pump) :
      WatchedRun begun (w.step t.pump t.now) { t with pump }
  /-- once the pump has ended the writer leaves -/
  | release {w t} (run : WatchedRun begun w t) : WatchedRun begun w { t with pump := t.pump.release t.aborts }

/-- A pump has run out of time: its reader is there, it waits for its body, and nothing came for the whole of its
limit. -/
structure Pump.OutOfTime (p : Pump) (limit : Option Duration) (w : Watch) (idle : Duration) : Prop where
  limited : limit = some idle
  reader : p.pipe.reader = true
  starved : p.isStarved = true
  silent : idle.nanos ≤ w.silent

/-- The stopwatch and the pump agree. -/
structure Timed (limit : Option Duration) (w : Watch) (t : TimedPump) : Prop where
  limited : t.pump.limit = limit
  began : ∀ since, t.pump.phase = .waiting since → since = w.began
  /-- while the body has nothing, all of the wait was silent -/
  silent : t.pump.isStarved = true → w.began + w.silent = t.now
  ended : ∀ idle, t.pump.result? = some (.timedOut idle) →
    limit = some idle ∧ idle.nanos ≤ w.silent ∧ w.began + w.silent = w.moved ∧ w.attended = true

namespace Timed

variable {limit : Option Duration} {w : Watch} {t : TimedPump}

theorem new (limit : Option Duration) (body : Body) (pipe : Pipe) (now : Nat) (aborts : Bool) :
    Timed limit (.start now) ⟨.new limit body pipe, now, aborts⟩ where
  limited := rfl
  began := fun since phase => by cases phase
  silent := fun starved => by cases starved
  ended := fun idle timedOut => by cases timedOut

theorem advance (h : Timed limit w t) (d : Duration) : Timed limit (w.advance t.pump d) (t.advance d) := by
  by_cases starved : t.pump.isStarved = true
  · have counted : w.advance t.pump d = { w with silent := w.silent + d.nanos } := if_pos starved
    rw [counted]
    refine ⟨h.limited, h.began, fun _ => ?_, fun idle timedOut => ?_⟩
    · show w.began + (w.silent + d.nanos) = t.now + d.nanos
      rw [← Nat.add_assoc, h.silent starved]
    · -- a pump that waits has not ended
      obtain ⟨since, phase, -⟩ := Pump.isStarved_iff.1 starved
      change t.pump.result? = _ at timedOut
      simp [Pump.result?, phase] at timedOut
  · have passed : w.advance t.pump d = w := if_neg starved
    rw [passed]
    exact ⟨h.limited, h.began, fun still => absurd still starved, h.ended⟩

theorem push (h : Timed limit w t) (item : Item) : Timed limit w (t.push item) := by
  refine ⟨h.limited, h.began, fun starved => h.silent ?_, h.ended⟩
  obtain ⟨since, phase, nothing⟩ := Pump.isStarved_iff.1 starved
  exact Pump.isStarved_iff.2 ⟨since, phase, Body.read_eq_none_of_push nothing⟩

/-- What is done to the pipe alone. -/
theorem piped (h : Timed limit w t) (pipe : Pipe) : Timed limit w { t with pump := { t.pump with pipe } } :=
  ⟨h.limited, h.began, h.silent, h.ended⟩

theorem release (h : Timed limit w t) : Timed limit w { t with pump := t.pump.release t.aborts } := by
  unfold Pump.release
  split
  · exact h
  · split
    · exact h
    · split
      · exact h.piped _
      · exact h.piped _

/-- The next step runs out of time exactly if all the limit was silent. -/
theorem timedOut_iff (h : Timed limit w t) (idle : Duration) :
    (∃ q, t.pump.step t.now = some q ∧ q.result? = some (.timedOut idle)) ↔ t.pump.OutOfTime limit w idle := by
  constructor
  · rintro ⟨q, step, timedOut⟩
    cases (Pump.breaks_iff_of_move (Pump.move_of_step step) (by simp) (by simp)).2 timedOut with
    | silent phase reader read limited late =>
      have starved : t.pump.isStarved = true := Pump.isStarved_iff.2 ⟨_, phase, by rw [read]⟩
      have began := h.began _ phase
      have silent := h.silent starved
      exact ⟨h.limited.symm.trans limited, reader, starved, by omega⟩
  · rintro ⟨limited, reader, starved, silent⟩
    obtain ⟨since, phase, nothing⟩ := Pump.isStarved_iff.1 starved
    have began := h.began _ phase
    have counted := h.silent starved
    have overdue : t.pump.isOverdue since t.now = some idle :=
      Pump.isOverdue_eq_some_iff.2 ⟨h.limited.trans limited, by omega⟩
    refine ⟨t.pump.finish (.timedOut idle), ?_, rfl⟩
    cases read : t.pump.source.read with
    | mk item source =>
      rw [read] at nothing
      cases nothing
      simp [Pump.step, phase, Pump.stepWaiting, reader, read, overdue]

theorem step (h : Timed limit w t) {pump : Pump} (step : t.pump.step t.now = some pump) :
    Timed limit (w.step t.pump t.now) { t with pump } := by
  have move := Pump.move_of_step step
  refine ⟨(Pump.limit_of_move move).trans h.limited, fun since phase => ?_, fun starved => ?_, fun idle timedOut => ?_⟩
  · obtain ⟨now, begins⟩ := Pump.began_of_move move phase
    rw [Watch.step, if_pos begins]
    exact now
  · obtain ⟨since, phase, -⟩ := Pump.isStarved_iff.1 starved
    obtain ⟨-, begins⟩ := Pump.began_of_move move phase
    simp only [Watch.step, if_pos begins, Nat.add_zero]
  · obtain ⟨limited, reader, starved, silent⟩ := (h.timedOut_iff idle).1 ⟨pump, step, timedOut⟩
    have still : t.pump.beginsWait = false := Pump.beginsWait_of_ended move timedOut
    simp only [Watch.step, still, Bool.false_eq_true, if_false]
    exact ⟨limited, silent, h.silent starved, reader⟩

end Timed

theorem WatchedRun.timed {limit : Option Duration} {body : Body} {pipe : Pipe} {now : Nat} {aborts : Bool} {w : Watch}
    {t : TimedPump} (run : WatchedRun ⟨.new limit body pipe, now, aborts⟩ w t) : Timed limit w t := by
  induction run with
  | start => exact .new limit body pipe now aborts
  | advance _ d ih => exact ih.advance d
  | push _ item ih => exact ih.push item
  | read _ _ _ ih => exact ih.piped _
  | leave _ ih => exact ih.piped _
  | step _ step ih => exact ih.step step
  | release _ ih => exact ih.release

/-- A pump runs out of time exactly if its reader is there, it waits for its body, and nothing has come since the wait
began for the whole of its limit: so it is with its next step, and when it goes on until it must wait. If it has run out
of time, all the time since it last began to wait was silent, and its reader was there. What its body has when it looks
is taken whatever the clock shows. -/
theorem pump_silence {announced : BodyLength} {limit : Option Duration} {body : Body} {waits aborts : Bool} {now : Nat}
    {w : Watch} {t : TimedPump} (run : WatchedRun ⟨.new limit body (.new announced waits), now, aborts⟩ w t) :
    (∀ idle, (∃ q, t.pump.step t.now = some q ∧ q.result? = some (.timedOut idle)) ↔ t.pump.OutOfTime limit w idle)
    ∧ (∀ idle, 0 < idle.nanos → t.pump.result? = none →
        (t.settle.pump.result? = some (.timedOut idle) ↔ t.pump.OutOfTime limit w idle))
    ∧ (∀ idle, t.pump.result? = some (.timedOut idle) →
        limit = some idle ∧ idle.nanos ≤ w.silent ∧ w.began + w.silent = w.moved ∧ w.attended = true)
    ∧ (∀ item source, t.pump.awaits = true → t.pump.pipe.reader = true → t.pump.source.read = (some item, source) →
        ∀ clock, ∃ q, t.pump.step clock = some q ∧ (q.source = source ∨ q.source = source.release)
          ∧ ∀ idle, q.result? ≠ some (.timedOut idle)) := by
  have timed := run.timed
  refine ⟨timed.timedOut_iff, fun idle positive unfinished => ?_, timed.ended, ?_⟩
  · rw [← timed.timedOut_iff, ← Pump.timedOut_run_iff positive unfinished]
    show ((t.pump.run t.now).release t.aborts).result? = _ ↔ _
    rw [(Pump.release_spec _ _).1]
  · intro item source awaits reader read clock
    exact Pump.takes_of_read awaits reader read clock

/-- A reader that takes a hundred nanoseconds over a chunk costs nothing of the twenty, which begin once the pipe has
accepted the chunk. -/
theorem pump_silence_slowReader : ∃ w t,
    WatchedRun ⟨.new (some ⟨20⟩) (.arriving (.ofItems [.data [1]] false)) (.new .unknown true), 0, false⟩ w t
    ∧ t.now = 120 ∧ w.began = 100 ∧ w.silent = 20 ∧ t.pump.result? = none
    ∧ t.settle.pump.result? = some (.timedOut ⟨20⟩) := by
  let begun : TimedPump := ⟨.new (some ⟨20⟩) (.arriving (.ofItems [.data [1]] false)) (.new .unknown true), 0, false⟩
  have begins : WatchedRun begun (.start 0) begun := .start
  have run := (((((begins.step rfl).step rfl).advance ⟨100⟩).read rfl rfl).step rfl).advance ⟨20⟩
  refine ⟨_, _, run, rfl, rfl, rfl, rfl, ?_⟩
  exact ((pump_silence run).2.1 ⟨20⟩ (by decide) rfl).2 ⟨rfl, rfl, rfl, Nat.le_refl _⟩

end Gateway
