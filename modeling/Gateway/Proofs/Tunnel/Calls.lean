import Gateway.WebSocket.Session
import Mathlib.Data.List.Induction

/-!
# What a relay asks of its websockets

`Ports.recorded` writes down every call that a relay makes and every answer it gets. The relay does not notice, and
`Relay.Asks` says what it can do in one step: the calls, and the relay afterwards.

`Relay.Run` is a relay between any two websockets: its directions move in any order, and between their steps the websockets
change as they will, so that messages arrive, places for them come free and connections break at any time. The relay of
a session is one of them (`Session.run_of_acts`).
-/

namespace Gateway

namespace WebSocket

/-- A call of a relay with its answer. -/
inductive Call where
  /-- asked for a message, the websocket of this side gave one or told that there are no more -/
  | received (side : Side) (what : Received)
  /-- the websocket of this side was given a message; without an answer it may or may not take it later -/
  | offered (side : Side) (m : Message) (answer : Option Sent)
  /-- the one call that closes the websocket of this side was driven on; the flag says whether it came to its end -/
  | closing (side : Side) (done : Bool)
deriving DecidableEq

variable {σ : Type}

/-- Websockets that remember what was asked of them. -/
def Ports.recorded (ports : Ports σ) : Ports (σ × List Call) where
  receive side s :=
    let (what, t) := ports.receive side s.1
    (what, t, s.2 ++ (what.map (Call.received side)).toList)
  send side m s :=
    let (answer, t) := ports.send side m s.1
    (answer, t, s.2 ++ [.offered side m answer])
  close side s :=
    let (done, t) := ports.close side s.1
    (done, t, s.2 ++ [.closing side done])

/-- The end of a relay whose source gave this. -/
def Received.result? : Received → Option (Except Cause Unit)
  | .message _ => none
  | .over => some (.ok ())
  | .failed cause => some (.error cause)

/-- The end of a relay whose sink answered this to a message. -/
def Sent.result? (m : Message) : Sent → Option (Except Cause Unit)
  | .taken => if m.isClose then some (.ok ()) else none
  | .over => some (.ok ())
  | .failed cause => some (.error cause)

namespace Relay

/-- What a relay asks in a step, and what becomes of it. -/
inductive Asks (r : Relay) : List Call → Relay → Prop where
  /-- it has ended, or there is no message -/
  | nothing : Asks r [] r
  | hears (going : r.result = none) {side : Side} (free : r.held side = none) (m : Message) :
      Asks r [.received side (.message m)] (r.take side m)
  | stopsAtSource (going : r.result = none) {side : Side} (free : r.held side = none) {what : Received}
      {result : Except Cause Unit} (ends : what.result? = some result) : Asks r [.received side what] (r.stop result)
  | waitsForSink (going : r.result = none) {side : Side} {m : Message} (held : r.held side = some m) :
      Asks r [.offered side.other m none] r
  | passes (going : r.result = none) {side : Side} {m : Message} (held : r.held side = some m) :
      Asks r [.offered side.other m (some .taken)] (r.pass side m)
  | stopsAtSink (going : r.result = none) {side : Side} {m : Message} (held : r.held side = some m) {answer : Sent}
      {result : Except Cause Unit} (refused : answer ≠ .taken) (ends : answer.result? m = some result) :
      Asks r [.offered side.other m (some answer)] (r.stop result)
  | waitsToClose {result : Except Cause Unit} (ended : r.result = some result) {side : Side}
      (next : r.closesNext = some side) : Asks r [.closing side false] r
  | closes {result : Except Cause Unit} (ended : r.result = some result) {side : Side}
      (next : r.closesNext = some side) : Asks r [.closing side true] { r with closed := r.closed ++ [side] }

/-- The record of a direction's step; nothing else differs from the step without one. -/
theorem stepSide_recorded (ports : Ports σ) (side : Side) (r : Relay) (s : σ) (calls : List Call) :
    ∃ news, r.Asks news (r.stepSide ports side s).2.1 ∧ r.stepSide ports.recorded side (s, calls)
      = ((r.stepSide ports side s).1, (r.stepSide ports side s).2.1, (r.stepSide ports side s).2.2, calls ++ news) := by
  unfold stepSide
  cases going : r.result with
  | some result => exact ⟨[], .nothing, by simp⟩
  | none =>
    cases held : r.held side with
    | none =>
      rcases got : ports.receive side s with ⟨_ | m | _ | cause, t⟩
      · exact ⟨[], .nothing, by simp [Ports.recorded, got]⟩
      · exact ⟨[.received side (.message m)], .hears going held m, by simp [Ports.recorded, got]⟩
      · exact ⟨[.received side .over], .stopsAtSource going held rfl, by simp [Ports.recorded, got]⟩
      · exact ⟨[.received side (.failed cause)], .stopsAtSource going held rfl, by simp [Ports.recorded, got]⟩
    | some m =>
      dsimp only
      rcases got : ports.send side.other m s with ⟨_ | _ | _ | cause, t⟩
      · exact ⟨[.offered side.other m none], .waitsForSink going held, by simp [Ports.recorded, got]⟩
      · exact ⟨[.offered side.other m (some .taken)], .passes going held, by simp [Ports.recorded, got]⟩
      · exact ⟨[.offered side.other m (some .over)], .stopsAtSink going held nofun rfl, by simp [Ports.recorded, got]⟩
      · exact ⟨[.offered side.other m (some (.failed cause))], .stopsAtSink going held nofun rfl,
          by simp [Ports.recorded, got]⟩

/-- The record of a step of the closing. -/
theorem stepClose_recorded (ports : Ports σ) (r : Relay) (s : σ) (calls : List Call) :
    ∃ news, r.Asks news (r.stepClose ports s).2.1 ∧ r.stepClose ports.recorded (s, calls)
      = ((r.stepClose ports s).1, (r.stepClose ports s).2.1, (r.stepClose ports s).2.2, calls ++ news) := by
  unfold stepClose
  cases ended : r.result with
  | none => exact ⟨[], .nothing, by simp⟩
  | some result =>
    cases next : r.closesNext with
    | none => exact ⟨[], .nothing, by simp⟩
    | some side =>
      dsimp only
      rcases got : ports.close side s with ⟨_ | _, t⟩
      · exact ⟨[.closing side false], .waitsToClose ended next, by simp [Ports.recorded, got]⟩
      · refine ⟨[.closing side true], ?_, by simp [Ports.recorded, got]⟩
        simpa only [ended] using Asks.closes ended next

/-! ## Runs -/

/-- A relay from its beginning, with its websockets and all it asked of them. -/
inductive Run (ports : Ports σ) : Relay → σ → List Call → Prop where
  | start (s : σ) : Run ports .start s []
  | direction {r r' : Relay} {s t : σ} {calls calls' : List Call} {further : Bool} (run : Run ports r s calls)
      (side : Side) (step : r.stepSide ports.recorded side (s, calls) = (further, r', t, calls')) : Run ports r' t calls'
  | closing {r r' : Relay} {s t : σ} {calls calls' : List Call} {further : Bool} (run : Run ports r s calls)
      (step : r.stepClose ports.recorded (s, calls) = (further, r', t, calls')) : Run ports r' t calls'
  /-- the websockets change by themselves -/
  | elsewhere {r : Relay} {s : σ} {calls : List Call} (run : Run ports r s calls) (t : σ) : Run ports r t calls

namespace Run

variable {ports : Ports σ} {r : Relay} {s : σ} {calls : List Call}

/-- A property of relays and their calls that every step keeps is one of all runs. -/
theorem keeps {P : Relay → List Call → Prop} (first : P .start [])
    (next : ∀ {r r' : Relay} {calls news : List Call}, P r calls → r.Asks news r' → P r' (calls ++ news))
    (run : Run ports r s calls) : P r calls := by
  induction run with
  | start s => exact first
  | @direction r r' s t calls calls' further run side step ih =>
    obtain ⟨added, asks, recorded⟩ := stepSide_recorded ports side r s calls
    cases recorded.symm.trans step
    exact next ih asks
  | @closing r r' s t calls calls' further run step ih =>
    obtain ⟨added, asks, recorded⟩ := stepClose_recorded ports r s calls
    cases recorded.symm.trans step
    exact next ih asks
  | elsewhere run t ih => exact ih

/-! The steps of a relay with and without a record differ by the record alone, and either way are those of a run. -/

theorem stepSide (run : Run ports r s calls) (side : Side) : ∃ calls',
    r.stepSide ports.recorded side (s, calls)
      = ((r.stepSide ports side s).1, (r.stepSide ports side s).2.1, (r.stepSide ports side s).2.2, calls')
    ∧ Run ports (r.stepSide ports side s).2.1 (r.stepSide ports side s).2.2 calls' := by
  obtain ⟨news, -, recorded⟩ := stepSide_recorded ports side r s calls
  exact ⟨_, recorded, run.direction side recorded⟩

theorem stepClose (run : Run ports r s calls) : ∃ calls',
    r.stepClose ports.recorded (s, calls)
      = ((r.stepClose ports s).1, (r.stepClose ports s).2.1, (r.stepClose ports s).2.2, calls')
    ∧ Run ports (r.stepClose ports s).2.1 (r.stepClose ports s).2.2 calls' := by
  obtain ⟨news, -, recorded⟩ := stepClose_recorded ports r s calls
  exact ⟨_, recorded, run.closing recorded⟩

theorem step (run : Run ports r s calls) : ∃ calls',
    r.step ports.recorded (s, calls) = ((r.step ports s).1, (r.step ports s).2.1, (r.step ports s).2.2, calls')
    ∧ Run ports (r.step ports s).2.1 (r.step ports s).2.2 calls' := by
  obtain ⟨_, recorded, client⟩ := run.stepSide .client
  unfold Relay.step
  rcases byClient : r.stepSide ports .client s with ⟨_ | _, r', s'⟩
  · -- the client's direction must wait, and may have changed its websockets even so
    rw [byClient] at recorded client
    obtain ⟨_, recorded', backend⟩ := client.stepSide .backend
    rcases byBackend : r'.stepSide ports .backend s' with ⟨_ | _, r'', s''⟩
    · -- both must wait: what is left is to close
      rw [byBackend] at recorded' backend
      simpa only [recorded, recorded', byBackend] using backend.stepClose
    · rw [byBackend] at recorded' backend
      simpa only [recorded, recorded', byBackend] using ⟨_, rfl, backend⟩
  · rw [byClient] at recorded client
    simpa only [recorded] using ⟨_, rfl, client⟩

theorem runFor (fuel : Nat) (run : Run ports r s calls) : ∃ calls',
    r.runFor ports.recorded fuel (s, calls) = ((r.runFor ports fuel s).1, (r.runFor ports fuel s).2, calls')
    ∧ Run ports (r.runFor ports fuel s).1 (r.runFor ports fuel s).2 calls' := by
  induction fuel generalizing r s calls with
  | zero => exact ⟨calls, rfl, run⟩
  | succ fuel ih =>
    obtain ⟨_, recorded, next⟩ := run.step
    unfold Relay.runFor
    rcases stepped : r.step ports s with ⟨_ | _, r', s'⟩
    · rw [stepped] at recorded next
      simpa only [recorded] using ⟨_, rfl, next⟩
    · rw [stepped] at recorded next
      simpa only [recorded] using ih next

end Run

end Relay

/-! ## The relay of a session -/

/-- The relay of a tunnel has come there by a run. -/
def Tunnel.Reached (t : Tunnel) : Prop := ∃ calls, t.relay.Run Links.ports t.links calls

namespace Tunnel

variable {t : Tunnel}

theorem Reached.settle (h : t.Reached) (links : Links) : ({ t with links } : Tunnel).settle.Reached := by
  obtain ⟨calls, run⟩ := h
  obtain ⟨calls', -, settled⟩ := (run.elsewhere links).runFor ({ t with links } : Tunnel).potential
  unfold Tunnel.settle
  dsimp only
  split
  · exact ⟨calls', settled.elsewhere _⟩
  · exact ⟨calls', settled⟩

theorem Reached.send (h : t.Reached) (side : Side) (m : Message) : (t.send side m).2.Reached := by
  unfold Tunnel.send
  dsimp only
  split
  · exact h
  · exact h.settle _

theorem Reached.receive (h : t.Reached) (side : Side) : (t.receive side).2.Reached := by
  unfold Tunnel.receive
  dsimp only
  split
  · exact h
  · exact h.settle _

theorem Reached.drop (h : t.Reached) (side : Side) : (t.drop side).2.Reached := by
  unfold Tunnel.drop
  dsimp only
  split
  · exact h
  · exact h.settle _

end Tunnel

/-- Whatever the parties of a session do, its relay goes as a relay does. -/
theorem Session.run_of_acts (x : Exchange) (moves : List (Side × Move)) :
    (moves.foldl (fun s move => (Session.act s move.1 move.2).2) (.start x)).tunnel.Reached := by
  induction moves using List.reverseRecOn with
  | nil => exact ⟨[], .start _⟩
  | append_singleton moves move ih =>
    rw [List.foldl_append]
    obtain ⟨side, m | _ | _⟩ := move
    · exact ih.send side m
    · exact ih.receive side
    · exact ih.drop side

end WebSocket

end Gateway
