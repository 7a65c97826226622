import Gateway.Proofs.Trace.Kind
import Gateway.Proofs.Tunnel.Calls

/-!
# A relay forwards messages and closes once

What a relay passes on is told from its calls alone. `Relay.Forwards` says of each direction that what its sink took is
what its source gave, without the pongs, up to the one message that is on its way; `Relay.Course` says that the first
call that ends a direction ends the relay, and that only the closing of the two websockets follows, `Relay.Closes` how far
that is: nothing is asked of the backend's websocket as long as the client's has to wait.
-/

namespace Gateway

namespace WebSocket

@[simp] theorem Side.other_inj {side t : Side} : side.other = t.other ↔ side = t := by
  cases side <;> cases t <;> decide

namespace Call

/-- The message that the websocket of a side gave. -/
def heard? (side : Side) : Call → Option Message
  | received s (.message m) => if s = side then some m else none
  | _ => none

/-- The message that the websocket of a side took. -/
def taken? (side : Side) : Call → Option Message
  | offered s m (some .taken) => if s = side then some m else none
  | _ => none

/-- The result of the relay where a direction is over by a call: after a close that was taken, the end of the source, or a
closed websocket it is well, after a failure it is that failure. -/
def result? : Call → Option (Except Cause Unit)
  | received _ what => what.result?
  | offered _ m (some answer) => answer.result? m
  | _ => none

/-- Whether a call belongs to the work of a direction and lets it go on. -/
def goesOn : Call → Bool
  | closing .. => false
  | c => c.result?.isNone

/-- The side whose websocket is closed by a call. -/
def closed? : Call → Option Side
  | closing side true => some side
  | _ => none

end Call

/-- What the websocket of a side took, in order. -/
def taken (side : Side) (calls : List Call) : List Message := calls.filterMap (Call.taken? side)

/-- What the websocket of a side gave, in order. -/
def heard (side : Side) (calls : List Call) : List Message := calls.filterMap (Call.heard? side)

/-- What is to be passed on from a side: what its websocket gave, without the pongs. -/
def owed (side : Side) (calls : List Call) : List Message := (heard side calls).filter fun m => !m.isPong

/-- The sides whose websockets were closed, in order. -/
def closings (calls : List Call) : List Side := calls.filterMap Call.closed?

section

variable {side : Side} {calls news : List Call}

theorem taken_append : taken side (calls ++ news) = taken side calls ++ taken side news := List.filterMap_append

theorem owed_append : owed side (calls ++ news) = owed side calls ++ owed side news := by
  unfold owed heard
  rw [List.filterMap_append, List.filter_append]

end

namespace Relay

variable {σ : Type} {ports : Ports σ} {r r' : Relay} {s : σ} {calls news : List Call}

theorem take_eq (r : Relay) (side : Side) (m : Message) : r.take side m
    = { r with held := fun t => if m.isPong then r.held t else if t = side then some m else r.held t } := by
  unfold take
  split <;> rfl

theorem pass_eq (r : Relay) (side : Side) (m : Message) : r.pass side m
    = { r with
        held := fun t => if t = side then none else r.held t
        passed := r.passed ++ [(side, m)]
        result := if m.isClose then some (.ok ()) else r.result } := by
  unfold pass
  dsimp only
  split <;> rfl

/-! ## Order -/

/-- Each direction has passed on what it had to but for the message it holds. It offers that message only, so that a relay
that ends between an offer and its answer leaves nothing behind but the next message. -/
structure Forwards (r : Relay) (calls : List Call) : Prop where
  order : ∀ side, taken side.other calls ++ (r.held side).toList = owed side calls
  offers : ∀ before side m answer after, calls = before ++ .offered side.other m answer :: after →
    taken side.other before ++ [m] = owed side before

/-- What a direction held or is given in a step it passes on in that step or holds then. -/
theorem Asks.order (asks : r.Asks news r') (side : Side) :
    (r.held side).toList ++ owed side news = taken side.other news ++ (r'.held side).toList := by
  cases asks with
  | nothing | waitsForSink | waitsToClose | closes => exact List.append_nil _
  | @hears going source free m =>
    by_cases same : source = side
    · -- a pong is neither owed nor held
      subst same
      by_cases pong : m.isPong <;> simp [taken, owed, heard, Call.taken?, Call.heard?, take_eq, pong, free]
    · simp [taken, owed, heard, Call.taken?, Call.heard?, take_eq, same, Ne.symm same]
  | @stopsAtSource going source free what result ends =>
    cases what with
    | message m => cases ends
    | _ => exact List.append_nil _
  | @passes going source m held =>
    by_cases same : source = side
    · subst same
      simp [taken, owed, heard, Call.taken?, Call.heard?, pass_eq, held]
    · simp [taken, owed, heard, Call.taken?, Call.heard?, pass_eq, same, Ne.symm same]
  | @stopsAtSink going source m held answer result refused ends =>
    cases answer with
    | taken => exact absurd rfl refused
    | _ => exact List.append_nil _

/-- A message is offered by the direction that holds it, and the step does nothing before. -/
theorem Asks.offered (asks : r.Asks news r') {front after : List Call} {side : Side} {m : Message} {answer : Option Sent}
    (split : news = front ++ .offered side.other m answer :: after) : front = [] ∧ r.held side = some m := by
  -- a step makes one call at most
  have alone {c : Call} (split : [c] = front ++ .offered side.other m answer :: after) :
      front = [] ∧ c = .offered side.other m answer := by
    cases front with
    | nil => exact ⟨rfl, (List.cons.inj split).1⟩
    | cons d front => simp at split
  cases asks with
  | nothing => simp at split
  | hears | stopsAtSource | waitsToClose | closes => cases (alone split).2
  | waitsForSink going held | passes going held | stopsAtSink going held =>
    obtain ⟨none, same⟩ := alone split
    obtain ⟨sides, rfl, -⟩ := Call.offered.inj same
    exact ⟨none, Side.other_inj.1 sides ▸ held⟩

theorem Forwards.step (h : r.Forwards calls) (asks : r.Asks news r') : r'.Forwards (calls ++ news) where
  order side := by
    calc taken side.other (calls ++ news) ++ (r'.held side).toList
        = taken side.other calls ++ ((r.held side).toList ++ owed side news) := by
          rw [taken_append, List.append_assoc, asks.order side]
      _ = owed side (calls ++ news) := by rw [owed_append, ← h.order side, List.append_assoc]
  offers before side m answer after split := by
    rcases TraceEvent.split_append split with ⟨rest, earlier, -⟩ | ⟨front, rfl, now⟩
    · exact h.offers before side m answer rest earlier
    · obtain ⟨rfl, held⟩ := asks.offered now
      rw [List.append_nil, ← h.order side, held]
      rfl

/-- Of a stream of messages the other side gets the first ones, as far as the relay has come. -/
theorem Forwards.taken_prefix (h : r.Forwards calls) (side : Side) {stream : List Message}
    (given : heard side calls <+: stream) : taken side.other calls <+: stream.filter fun m => !m.isPong := by
  have sent : taken side.other calls <+: owed side calls := by
    rw [← h.order side]
    exact List.prefix_append _ _
  exact sent.trans (given.filter _)

theorem Run.forwards (run : Run ports r s calls) : r.Forwards calls :=
  run.keeps ⟨fun _ => rfl, fun before side m answer after split => by simp at split⟩ Forwards.step

/-! ## The end -/

/-- The calls that close the websockets, by what is closed so far: that of the client may have to wait, and only then comes
that of the backend, which may have to wait too. -/
inductive Closes : List Side → List Call → Prop where
  | neither (waits : Nat) : Closes [] (.replicate waits (.closing .client false))
  | client (before waits : Nat) : Closes [.client]
      (.replicate before (.closing .client false) ++ .closing .client true :: .replicate waits (.closing .backend false))
  | both (before waits : Nat) : Closes [.client, .backend]
      (.replicate before (.closing .client false) ++ .closing .client true ::
        (.replicate waits (.closing .backend false) ++ [.closing .backend true]))

theorem Closes.waits (h : Closes r.closed calls) {side : Side} (next : r.closesNext = some side) :
    Closes r.closed (calls ++ [.closing side false]) := by
  unfold closesNext at next
  generalize r.closed = closed at h next
  cases h with
  | neither n =>
    obtain rfl : .client = side := by simpa using next
    rw [← List.replicate_succ']
    exact .neither (n + 1)
  | client before n =>
    obtain rfl : .backend = side := by simpa using next
    rw [List.append_assoc, List.cons_append, ← List.replicate_succ']
    exact .client before (n + 1)
  | both => simp at next

theorem Closes.done (h : Closes r.closed calls) {side : Side} (next : r.closesNext = some side) :
    Closes (r.closed ++ [side]) (calls ++ [.closing side true]) := by
  unfold closesNext at next
  generalize r.closed = closed at h next
  cases h with
  | neither n =>
    obtain rfl : .client = side := by simpa using next
    exact .client n 0
  | client before n =>
    obtain rfl : .backend = side := by simpa using next
    rw [List.append_assoc, List.cons_append]
    exact .both before n
  | both => simp at next

theorem Closes.closings {closed : List Side} (h : Closes closed calls) : closings calls = closed := by
  have waiting (n : Nat) (side : Side) : (List.replicate n (Call.closing side false)).filterMap Call.closed? = [] := by
    rw [List.filterMap_eq_nil_iff]
    intro c hc
    rw [List.eq_of_mem_replicate hc]
    rfl
  cases h <;> simp [WebSocket.closings, waiting, Call.closed?]

/-- A websocket is closed after the client's only, and then the closing is over. -/
theorem Closes.closed_prefix {closed : List Side} (h : Closes closed calls) : closed <+: [.client, .backend] := by
  cases h <;> decide

/-- How far a relay is, by its calls: it goes on, or a call ended it with this result, and after that there is nothing but
the closing of both websockets. -/
inductive Course (r : Relay) (calls : List Call) : Prop where
  | going (result : r.result = none) (unclosed : r.closed = []) (working : ∀ c ∈ calls, c.goesOn)
  | ended (work : List Call) (last : Call) (result : Except Cause Unit) (told : r.result = some result)
      (working : ∀ c ∈ work, c.goesOn) (ends : last.result? = some result) (finale : List Call)
      (closing : Closes r.closed finale) (all : calls = work ++ last :: finale)

theorem Course.step (h : r.Course calls) (asks : r.Asks news r') : r'.Course (calls ++ news) := by
  cases h with
  | going result unclosed working =>
    have unbegun : Closes r.closed [] := by
      rw [unclosed]
      exact .neither 0
    cases asks with
    | nothing => simpa using Course.going result unclosed working
    | @hears _ source free m =>
      rw [take_eq]
      exact .going result unclosed (List.forall_mem_append.2 ⟨working, List.forall_mem_singleton.2 rfl⟩)
    | @stopsAtSource _ source free what result ends =>
      exact .ended calls (.received source what) result rfl working ends [] unbegun rfl
    | waitsForSink _ held =>
      exact .going result unclosed (List.forall_mem_append.2 ⟨working, List.forall_mem_singleton.2 rfl⟩)
    | @passes _ source m held =>
      rw [pass_eq]
      by_cases close : m.isClose
      · exact .ended calls (.offered source.other m (some .taken)) (.ok ()) (if_pos close) working (if_pos close) []
          unbegun rfl
      · refine .going ((if_neg close).trans result) unclosed
          (List.forall_mem_append.2 ⟨working, List.forall_mem_singleton.2 ?_⟩)
        simp [Call.goesOn, Call.result?, Sent.result?, close]
    | @stopsAtSink _ source m held answer result refused ends =>
      exact .ended calls (.offered source.other m (some answer)) result rfl working ends [] unbegun rfl
    | waitsToClose ended | closes ended => simp [result] at ended
  | ended work last result told working ends finale closing all =>
    cases asks with
    | nothing => simpa using Course.ended work last result told working ends finale closing all
    | waitsToClose _ next =>
      exact .ended work last result told working ends _ (closing.waits next) (by simp [all])
    | closes _ next => exact .ended work last result told working ends _ (closing.done next) (by simp [all])
    -- no direction moves any more
    | hears going | stopsAtSource going | waitsForSink going | passes going | stopsAtSink going => simp [told] at going

theorem Run.course (run : Run ports r s calls) : r.Course calls :=
  run.keeps (.going rfl rfl (List.forall_mem_nil _)) Course.step

/-- What a relay has closed is told from its calls: nothing twice, and the client's websocket first. -/
theorem Course.closings (h : r.Course calls) : closings calls = r.closed ∧ r.closed <+: [.client, .backend] := by
  have none_of_goesOn {work : List Call} (working : ∀ c ∈ work, c.goesOn) : work.filterMap Call.closed? = [] := by
    rw [List.filterMap_eq_nil_iff]
    intro c hc
    have on := working c hc
    cases c with
    | closing => cases on
    | received | offered => rfl
  cases h with
  | going _ unclosed working => simp [WebSocket.closings, none_of_goesOn working, unclosed]
  | ended work last result _ working ends finale closing all =>
    refine ⟨?_, closing.closed_prefix⟩
    have unlast : last.closed? = none := by
      cases last with
      | closing => cases ends
      | received | offered => rfl
    rw [all, WebSocket.closings, List.filterMap_append, none_of_goesOn working, List.filterMap_cons_none unlast]
    exact closing.closings

theorem closesNext_eq_none_iff (inOrder : r.closed <+: [.client, .backend]) :
    r.closesNext = none ↔ r.closed = [.client, .backend] := by
  unfold closesNext
  obtain ⟨rest, split⟩ := inOrder
  generalize r.closed = closed at *
  match closed, split with
  | [], _ => simp
  | [_], split => simp_all
  | [_, _], split => simp_all

/-- A relay that has nothing more to do by itself has returned, or the websocket that is closed next has to wait. -/
theorem returned_or_waits (ended : r.result.isSome) (still : (r.step ports s).1 = false) :
    r.returned? = r.result ∨ ∃ side, r.closesNext = some side ∧ (ports.close side s).1 = false := by
  obtain ⟨result, told⟩ := Option.isSome_iff_exists.1 ended
  have side (side : Side) : r.stepSide ports side s = (false, r, s) := by simp only [stepSide, told]
  cases next : r.closesNext with
  | none => exact .inl (by simp [returned?, next])
  | some last =>
    refine .inr ⟨last, rfl, ?_⟩
    rcases got : ports.close last s with ⟨_ | _, t⟩
    · rfl
    · simp [Relay.step, side, stepClose, told, next, got] at still

end Relay

/-- A closed connection is an end and no failure, whether it is read from or written to; any other fault is a failure. -/
theorem Links.over_iff_closed (fault : Fault) : (received (.error fault) = .over ↔ fault = .closed)
    ∧ (sent (some fault) = .over ↔ fault = .closed) := by
  cases fault <;> simp [received, sent, Fault.cause?]

namespace Relay

variable {σ : Type} {ports : Ports σ} {r : Relay} {s : σ} {calls : List Call}

/-- Between any two websockets, in whatever order the directions move and whatever becomes of the websockets: each side is
sent what the other one gave, in order, unchanged and without the pongs; the first direction that is over ends the relay with
its result, and nothing is passed on after that; each websocket is closed once at most, the client's first; when the relay has
returned each of them was closed once, and it has returned unless the websocket that is closed next lets it wait. -/
theorem Run.forwards_until_end (run : Run ports r s calls) :
    (∀ side (stream : List Message), heard side calls <+: stream →
      taken side.other calls <+: stream.filter fun m => !m.isPong)
    ∧ r.Forwards calls ∧ r.Course calls
    ∧ (closings calls <+: [.client, .backend])
    ∧ (∀ result, r.returned? = some result ↔ r.result = some result ∧ closings calls = [.client, .backend])
    ∧ (r.result.isSome → (r.step ports s).1 = false →
        r.returned? = r.result ∨ ∃ side, r.closesNext = some side ∧ (ports.close side s).1 = false)
    ∧ ∀ fault, (Links.received (.error fault) = .over ↔ fault = .closed)
        ∧ (Links.sent (some fault) = .over ↔ fault = .closed) := by
  obtain ⟨same, inOrder⟩ := run.course.closings
  refine ⟨fun side _ => run.forwards.taken_prefix side, run.forwards, run.course, ?_, ?_, returned_or_waits,
    Links.over_iff_closed⟩
  · rw [same]
    exact inOrder
  · intro result
    rw [same, ← closesNext_eq_none_iff inOrder]
    cases next : r.closesNext <;> simp [returned?, next]

/-- A client sends a pong, a text and a close. -/
theorem forwards_until_end_closed : ∃ r s calls, Run Links.ports r s calls
    ∧ taken .backend calls = [.text "hi", .close none] ∧ r.returned? = some (.ok ())
    ∧ closings calls = [.client, .backend] ∧ r.Forwards calls ∧ r.Course calls := by
  let client : Socket := { Socket.new .accepting with inbox := [.pong [], .text "hi", .close none] }
  let links : Links := ⟨⟨client, .new .opening, false⟩, ⟨.new .opening, .new .accepting, false⟩⟩
  have begun : Run Links.ports start links [] := .start links
  obtain ⟨calls, recorded, run⟩ := begun.runFor 9
  obtain ⟨-, forwards, course, -, returns, -⟩ := run.forwards_until_end
  have asked : taken .backend (start.runFor Links.ports.recorded 9 (links, [])).2.2 = [.text "hi", .close none] := by
    decide +kernel
  have returned : (start.runFor Links.ports 9 links).1.returned? = some (.ok ()) := by decide +kernel
  rw [recorded] at asked
  exact ⟨_, _, calls, run, asked, returned, ((returns _).1 returned).2, forwards, course⟩

end Relay

end WebSocket

end Gateway
