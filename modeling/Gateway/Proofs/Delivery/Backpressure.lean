import Gateway.Proofs.Delivery.Account

/-!
# A pump does not read ahead

A pump takes the next frame from its body only when its pipe took the chunk before, and the pipe takes a chunk only when
the chunk before was read. So at most two chunks are on their way, one in the pipe and one with the pump; and in a pipe
that waits for its first read there is none before it.

`SeenRun` is a run of a pump on which is also kept what the body gave and how often the pipe was looked at. `Paced`
holds all along it: `SeenRun.paced`. The main theorem is `pump_backpressure`.
-/

namespace Gateway

/-- What was seen of a pump from its beginning. -/
structure Seen where
  /-- what its body was offered -/
  offered : List Item
  /-- what its body gave -/
  pulled : List Item
  /-- what its pipe accepted -/
  accepted : List Item
  /-- what was read from its pipe -/
  taken : List Item
  /-- how often its pipe was read, also if nothing was there -/
  reads : Nat

namespace Seen

/-- Before anything happened. -/
def start (body : Body) : Seen := ⟨body.items, [], [], [], 0⟩

/-- The pump makes a step. -/
def step (seen : Seen) (p : Pump) : Seen :=
  { seen with pulled := seen.pulled ++ p.pulls, accepted := seen.accepted ++ p.accepts }

/-- The pipe is read. -/
def read (seen : Seen) (item : Option Item) : Seen :=
  { seen with taken := seen.taken ++ item.toList, reads := seen.reads + 1 }

end Seen

/-- What can become of a pump, and what is seen of it. -/
inductive SeenRun (begun : TimedPump) : Seen → TimedPump → Prop where
  | start : SeenRun begun (.start begun.pump.source) begun
  | advance {seen t} (run : SeenRun begun seen t) (d : Duration) : SeenRun begun seen (t.advance d)
  | push {seen t} (run : SeenRun begun seen t) (item : Item) :
      SeenRun begun { seen with offered := seen.offered ++ [item] } (t.push item)
  /-- a reader that is there reads -/
  | read {seen t} (run : SeenRun begun seen t) {item : Option Item} {pipe : Pipe} (reader : t.pump.pipe.reader = true)
      (read : t.pump.pipe.read = (item, pipe)) :
      SeenRun begun (seen.read item) { t with pump := { t.pump with pipe } }
  | leave {seen t} (run : SeenRun begun seen t) : SeenRun begun seen t.closeReader
  | step {seen t} (run : SeenRun begun seen t) {pump : Pump} (step : t.pump.step t.now = some pump) :
      SeenRun begun (seen.step t.pump) { t with pump }
  /-- once the pump has ended the writer leaves -/
  | release {seen t} (run : SeenRun begun seen t) : SeenRun begun seen { t with pump := t.pump.release t.aborts }

/-- It is a run like any other. -/
theorem SeenRun.pumpRun {begun t : TimedPump} {seen : Seen} (run : SeenRun begun seen t) :
    PumpRun begun seen.offered seen.taken seen.accepted t := by
  induction run with
  | start => exact .start
  | advance _ d ih => exact ih.advance d
  | push _ item ih => exact ih.push item
  | read _ reader read ih => exact ih.read reader read
  | leave _ ih => exact ih.leave
  | step _ step ih => exact ih.step step
  | release _ ih => exact ih.release

/-! ## The number of items read from a body -/

/-- The items that were read, the end apart, as a body that arrives counts them. -/
def Body.counted (b : Body) : Option Nat := b.source?.map Source.pulled

/-- The items that count. -/
def counting (items : List Item) : Nat := items.countP (· ≠ .done)

theorem Body.counted_of_read {b c : Body} {item : Option Item} (h : b.read = (item, c)) :
    c.counted = b.counted.map (· + counting item.toList) := by
  cases b with
  | whole rest => cases rest <;> cases h <;> rfl
  | arriving s =>
    unfold read Source.read at h
    dsimp only at h
    split at h
    · cases h
      rfl
    · split at h
      · cases h
        rfl
      · cases h
        rfl
      · next item rest notDone items =>
        cases h
        have counts : counting [item] = 1 := by simpa [counting] using notDone
        exact congrArg some (congrArg (s.pulled + ·) counts.symm)

theorem Body.counted_release (b : Body) : b.release.counted = b.counted := by
  cases b <;> rfl

theorem Body.counted_push (b : Body) (item : Item) : (b.push item).counted = b.counted := by
  cases b with
  | whole rest => rfl
  | arriving s => cases hr : s.released <;> simp [counted, push, Source.push, source?, hr]

/-- The chunks that were sent and not read. -/
def Pipe.unread (p : Pipe) : List Bytes := chunks (p.queue.map Pipe.entry)

theorem Pipe.unread_of_free {p : Pipe} (free : p.holdsChunk = false) : p.unread = [] := by
  have same : Item.chunk? ∘ entry = Except.toOption := by
    funext sent
    cases sent <;> rfl
  rw [unread, chunks, List.filterMap_map, same]
  exact holdsChunk_eq_false_iff.1 free

theorem Pipe.demanded_of_read {p q : Pipe} {item : Option Item} (h : p.read = (item, q)) : q.demanded = true := by
  unfold read at h
  dsimp only at h
  split at h
  · cases h
    rfl
  · cases h
    rfl
  · split at h
    · cases h
      rfl
    · split at h <;> cases h <;> rfl

namespace Pump

variable {p q : Pump} {now : Nat}

/-! ## What a step takes and gives -/

theorem length_held_le (p : Pump) : p.held.length ≤ 1 := by
  unfold held
  split
  · exact Nat.le_refl _
  · exact Nat.zero_le _

/-- A pump that has something to read from its body holds nothing. -/
theorem waiting_of_pulls (h : p.pulls ≠ []) : p.result? = none ∧ p.held = [] := by
  unfold pulls at h
  split at h
  · next phase => simp [result?, held, phase]
  · exact absurd rfl h

/-- What a pump gives its pipe is unread there, and is one chunk that the pipe was ready for, if it is any. -/
theorem unread_of_move (h : p.Move now q) :
    q.pipe.unread = p.pipe.unread ++ chunks p.accepts ∧ q.pipe.demanded = p.pipe.demanded
      ∧ (chunks p.accepts = [] ∨ p.pipe.readiness = .ready ∧ (chunks p.accepts).length = 1) := by
  have quiet {q : Pump} (unread : q.pipe.unread = p.pipe.unread) (demanded : q.pipe.demanded = p.pipe.demanded)
      (none : chunks p.accepts = []) :
      q.pipe.unread = p.pipe.unread ++ chunks p.accepts ∧ q.pipe.demanded = p.pipe.demanded
        ∧ (chunks p.accepts = [] ∨ p.pipe.readiness = .ready ∧ (chunks p.accepts).length = 1) := by
    rw [none, List.append_nil]
    exact ⟨unread, demanded, .inl rfl⟩
  have ends (result : PumpResult) (hq : q.result? = some result) : chunks p.accepts = [] := by
    rw [accepts_of_ended h hq, chunks_nil]
  cases h with
  | left | refused | failure | done | overdue => exact quiet rfl rfl (ends _ rfl)
  | begin phase | chunk phase | trailers phase => exact quiet rfl rfl (by simp [accepts, phase])
  | handed phase reader untrailed =>
    refine quiet rfl rfl ?_
    simp [accepts, phase, Pipe.sendTrailers_of_taken reader untrailed, chunks, Item.chunk?]
  | @sent bytes phase _ ready =>
    have one : p.accepts = [.data bytes] := by simp [accepts, phase, Pipe.send, ready]
    rw [one]
    refine ⟨?_, rfl, .inr ⟨ready, rfl⟩⟩
    show chunks ((p.pipe.queue ++ [Except.ok bytes]).map Pipe.entry) = _
    rw [List.map_append, chunks_append]
    rfl

/-- A step reads its body for what it pulls, and for nothing else. -/
theorem source_of_move (h : p.Move now q) :
    ∃ source, (q.source = source ∨ q.source = source.release)
      ∧ (p.pulls = [] ∧ source = p.source ∨ ∃ item, p.pulls = [item] ∧ p.source.read = (some item, source)) := by
  cases h with
  | begin phase => exact ⟨p.source, .inl rfl, .inl ⟨by simp [pulls, phase], rfl⟩⟩
  | left reader =>
    refine ⟨p.source, .inr rfl, .inl ⟨?_, rfl⟩⟩
    cases phase : p.phase <;> simp [pulls, phase, reader]
  | @chunk _ _ source phase reader read | @trailers _ _ source phase reader read =>
    exact ⟨source, .inl rfl, .inr ⟨_, by simp [pulls, phase, reader, read], read⟩⟩
  | @failure _ _ source reader read phase | @done _ source phase reader read =>
    exact ⟨source, .inr rfl, .inr ⟨_, by simp [pulls, phase, reader, read], read⟩⟩
  | overdue reader phase read => exact ⟨p.source, .inr rfl, .inl ⟨by simp [pulls, phase, reader, read], rfl⟩⟩
  | sent phase | handed phase => exact ⟨p.source, .inl rfl, .inl ⟨by simp [pulls, phase], rfl⟩⟩
  | refused phase => exact ⟨p.source, .inr rfl, .inl ⟨by simp [pulls, phase], rfl⟩⟩

theorem counted_of_move (h : p.Move now q) : q.source.counted = p.source.counted.map (· + counting p.pulls) := by
  obtain ⟨source, after, pulled⟩ := source_of_move h
  have same : q.source.counted = source.counted := by
    rcases after with after | after
    · rw [after]
    · rw [after, Body.counted_release]
  rw [same]
  rcases pulled with ⟨none, rfl⟩ | ⟨item, one, read⟩
  · rw [none]
    exact Option.map_id'.symm
  · rw [one, Body.counted_of_read read]
    rfl

/-- A pump that ends has pulled no chunk in its last step. -/
theorem chunks_pulls_of_ended (h : p.Move now q) {result : PumpResult} (hq : q.result? = some result) :
    chunks p.pulls = [] := by
  cases h with
  | begin | chunk | trailers | handed | sent => cases hq
  | left reader => cases phase : p.phase <;> simp [pulls, phase, reader]
  | refused phase => simp [pulls, phase]
  | failure reader read phase | done phase reader read | overdue reader phase read =>
    simp [pulls, phase, reader, read, chunks, Item.chunk?]

end Pump

/-! ## What holds all along -/

/-- What was seen of a pump whose pipe `waits` for its first read, or does not. -/
structure Paced (counted : Option Nat) (waits : Bool) (seen : Seen) (p : Pump) : Prop where
  /-- a pump at work holds what its pipe has not accepted -/
  held : p.result? = none → chunks seen.pulled = chunks seen.accepted ++ p.held
  /-- a pump that has ended may have given a chunk up -/
  ahead : (chunks seen.pulled).length ≤ (chunks seen.accepted).length + 1
  single : p.pipe.unread.length ≤ 1
  undemanded : p.pipe.demanded = false → chunks seen.accepted = []
  unasked : waits = true → seen.reads = 0 → p.pipe.demanded = false
  counted : p.source.counted = counted.map (· + counting seen.pulled)

namespace Paced

variable {counted : Option Nat} {waits : Bool} {seen : Seen} {p q : Pump} {now : Nat}

theorem new (limit : Option Duration) (body : Body) (announced : BodyLength) (waits : Bool) :
    Paced body.counted waits (.start body) (Pump.new limit body (Pipe.new announced waits)) where
  held := fun _ => rfl
  ahead := Nat.zero_le _
  single := Nat.zero_le _
  undemanded := fun _ => rfl
  unasked := fun waits _ => by rw [waits]; rfl
  counted := Option.map_id'.symm

theorem push (h : Paced counted waits seen p) (item : Item) :
    Paced counted waits { seen with offered := seen.offered ++ [item] } (p.push item) :=
  { h with counted := (Body.counted_push _ _).trans h.counted }

theorem read (h : Paced counted waits seen p) {item : Option Item} {pipe : Pipe} (hr : p.pipe.read = (item, pipe)) :
    Paced counted waits (seen.read item) { p with pipe } where
  held := h.held
  ahead := h.ahead
  single := by
    have fewer := congrArg List.length (Pipe.read_counts hr).1
    rw [List.length_append] at fewer
    exact Nat.le_trans (Nat.le.intro ((Nat.add_comm _ _).trans fewer.symm)) h.single
  undemanded := fun undemanded => by
    have demanded : pipe.demanded = true := Pipe.demanded_of_read hr
    exact absurd (demanded.symm.trans undemanded) (by decide)
  unasked := fun _ none => absurd none (Nat.succ_ne_zero _)
  counted := h.counted

theorem leave (h : Paced counted waits seen p) : Paced counted waits seen p.closeReader := { h with }

theorem release (h : Paced counted waits seen p) (aborts : Bool) : Paced counted waits seen (p.release aborts) := by
  have unread : p.pipe.abort.unread = p.pipe.unread := p.pipe.chunks_abort
  have demanded : p.pipe.abort.demanded = p.pipe.demanded := by rw [Pipe.abort_eq]
  unfold Pump.release
  split
  · exact h
  · split
    · exact h
    · split
      · exact { h with
          single := unread ▸ h.single
          undemanded := fun none => h.undemanded (demanded.symm.trans none)
          unasked := fun waits none => demanded.trans (h.unasked waits none) }
      · exact { h with }

theorem move (h : Paced counted waits seen p) (m : p.Move now q) (unfinished : p.result? = none) :
    Paced counted waits (seen.step p) q := by
  obtain ⟨unread, demanded, given⟩ := Pump.unread_of_move m
  have held := h.held unfinished
  -- what the pump held and what it pulled it gave to the pipe or holds
  have goesOn (hq : q.result? = none) :
      chunks (seen.pulled ++ p.pulls) = chunks (seen.accepted ++ p.accepts) ++ q.held := by
    have moved := congrArg chunks (Pump.held_of_move m hq)
    rw [chunks_append, chunks_append, Pump.chunks_holds, Pump.chunks_holds] at moved
    rw [chunks_append, held, List.append_assoc, moved, chunks_append, List.append_assoc]
  refine {
    held := goesOn
    ahead := ?_
    single := ?_
    undemanded := fun none => ?_
    unasked := fun waits none => demanded.trans (h.unasked waits none)
    counted := ?_ }
  · show (chunks (seen.pulled ++ p.pulls)).length ≤ (chunks (seen.accepted ++ p.accepts)).length + 1
    cases hq : q.result? with
    | none =>
      rw [goesOn hq, List.length_append]
      exact Nat.add_le_add_left q.length_held_le _
    | some result =>
      -- a chunk that was held is given up now
      rw [Pump.accepts_of_ended m hq, chunks_append, Pump.chunks_pulls_of_ended m hq, List.append_nil, List.append_nil]
      exact h.ahead
  · rw [unread]
    rcases given with none | ⟨ready, one⟩
    · rw [none, List.append_nil]
      exact h.single
    · -- a pipe that is ready has no chunk in it
      rw [Pipe.unread_of_free (Pipe.readiness_eq_ready_iff.1 ready).2.2, List.nil_append]
      exact Nat.le_of_eq one
  · rw [demanded] at none
    show chunks (seen.accepted ++ p.accepts) = []
    rw [chunks_append, h.undemanded none, List.nil_append]
    refine given.resolve_right fun ready => ?_
    rw [(Pipe.readiness_eq_ready_iff.1 ready.1).2.1] at none
    cases none
  · rw [Pump.counted_of_move m, h.counted, Option.map_map]
    refine congrArg (Option.map · counted) (funext fun n => ?_)
    show n + counting seen.pulled + counting p.pulls = n + counting (seen.pulled ++ p.pulls)
    rw [counting, counting, counting, List.countP_append, Nat.add_assoc]

end Paced

namespace SeenRun

variable {announced : BodyLength} {limit : Option Duration} {body : Body} {waits aborts : Bool} {now : Nat}
  {seen : Seen} {t : TimedPump}

theorem paced (run : SeenRun ⟨.new limit body (.new announced waits), now, aborts⟩ seen t) :
    Paced body.counted waits seen t.pump := by
  induction run with
  | start => exact .new limit body announced waits
  | advance _ _ ih => exact ih
  | push _ item ih => exact ih.push item
  | read _ _ read ih => exact ih.read read
  | leave _ ih => exact ih.leave
  | step _ step ih => exact ih.move (Pump.move_of_step step) (Pump.unfinished_of_step step)
  | release _ ih => exact ih.release _

end SeenRun

/-- However a pump is read, and whatever its body has to give: at most two chunks more were pulled than were read, one
that is unread in the pipe and one that the pump holds; at most one before a pipe that waits was first read; and what is
pulled next is pulled when the pipe has accepted every chunk before. What was pulled is what the body counts as read. -/
theorem pump_backpressure {announced : BodyLength} {limit : Option Duration} {body : Body} {waits aborts : Bool}
    {now : Nat} {seen : Seen} {t : TimedPump}
    (run : SeenRun ⟨.new limit body (.new announced waits), now, aborts⟩ seen t) :
    (chunks seen.pulled).length ≤ (chunks seen.taken).length + 2
    ∧ (waits = true → seen.reads = 0 → (chunks seen.pulled).length ≤ 1)
    ∧ (t.pump.pulls ≠ [] → chunks seen.pulled = chunks seen.accepted)
    ∧ (t.pump.result? = none → chunks seen.pulled = chunks seen.taken ++ t.pump.pipe.unread ++ t.pump.held)
    ∧ t.pump.pipe.unread.length ≤ 1 ∧ t.pump.held.length ≤ 1
    ∧ t.pump.source.counted = body.counted.map (· + counting seen.pulled) := by
  have paced := run.paced
  have kept : chunks seen.taken ++ t.pump.pipe.unread = chunks seen.accepted := run.pumpRun.account.1.kept
  have lengths := congrArg List.length kept
  rw [List.length_append] at lengths
  have ahead := paced.ahead
  have single := paced.single
  refine ⟨by omega, fun waits none => ?_, fun more => ?_, fun unfinished => ?_, single, t.pump.length_held_le,
    paced.counted⟩
  · rw [paced.undemanded (paced.unasked waits none)] at ahead
    exact ahead
  · obtain ⟨unfinished, none⟩ := Pump.waiting_of_pulls more
    rw [paced.held unfinished, none, List.append_nil]
  · rw [paced.held unfinished, kept]

/-- A pump that is two chunks ahead: nothing was read, one chunk is in the pipe and one with the pump. -/
theorem pump_backpressure_ahead : ∃ seen t,
    SeenRun ⟨.new none (.arriving (.ofItems [.data [1], .data [2], .data [3]] false)) (.new .unknown true), 0, false⟩ seen t
    ∧ seen.reads = 1 ∧ seen.taken = [] ∧ t.pump.step t.now = none
    ∧ (chunks seen.pulled).length = 2 ∧ chunks seen.pulled = t.pump.pipe.unread ++ t.pump.held := by
  let begun : TimedPump :=
    ⟨.new none (.arriving (.ofItems [.data [1], .data [2], .data [3]] false)) (.new .unknown true), 0, false⟩
  have begins : SeenRun begun (.start begun.pump.source) begun := .start
  have run := ((((begins.step rfl).step rfl).read rfl rfl).step rfl).step rfl
  exact ⟨_, _, run, rfl, rfl, rfl, rfl, (pump_backpressure run).2.2.2.1 rfl⟩

end Gateway
