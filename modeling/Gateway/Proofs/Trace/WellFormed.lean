import Gateway.Proofs.Outcome.Once
import Gateway.Proofs.Trace.Stages

/-!
# The trace of a request is well formed

The handler, the upload, the relay, the tunnel and the departure of the client all trace events, in whatever order they
move. `WellTraced` says what the traces of all requests have in common nevertheless, and `Run.wellTraced` that this holds
after every run.

What is traced once at most is read off the stages: `onceOnly` lists the kinds and the stages at which they are still to
come. What the end of the request has to do with it is known from the standings (`Sound`).
-/

namespace Gateway

open TraceEvent (Kind times Heralded socketKinds times_append times_eq_zero_iff)

namespace TraceStage

variable {c d : TraceStage} {ks news : List Kind}

/-! ## What is traced once -/

/-- Kinds of events of which one is traced at most, and the stages at which it may still come. -/
def onceOnly : List (List Kind × List TraceStage) := [
  ([.requestStarted], [unbegun]),
  ([.forwardStarted], [unbegun, resolving]),
  ([.forwardFailed, .responseStarted], [unbegun, resolving, forwarding]),
  ([.answerHeaded], [unbegun, resolving, connecting, forwarding, composed, relaying false, heading]),
  ([.responseEnded, .responseFailed], [unbegun, resolving, forwarding, composed, relaying false, relaying true]),
  ([.answerEnded, .answerFailed], [unbegun, resolving, connecting, forwarding, composed, relaying false, relaying true])]

/-- How many events may come that are traced at these stages. -/
def toCome (stages : List TraceStage) (c : TraceStage) : Nat := if c ∈ stages then 1 else 0

/-- Whoever traces an event of such a kind leaves the stages at which it may come. -/
theorem Emits.spends (emits : Emits c news d) :
    ∀ once ∈ onceOnly, times once.1 news + toCome once.2 d ≤ toCome once.2 c := by
  cases emits with
  | silent => intro once _; exact Nat.le_of_eq (Nat.zero_add _)
  | replies expected => cases expected <;> decide
  | relayEnded headed ends => cases ends <;> cases headed <;> decide
  | deserted waits => rcases waits with rfl | rfl | rfl <;> decide
  | _ => decide

theorem Emitted.times_le_one (emitted : Emitted c ks) {kinds : List Kind} {stages : List TraceStage}
    (h : (kinds, stages) ∈ onceOnly) : times kinds ks + toCome stages c ≤ 1 := by
  have spent := emitted.cost_le (times kinds) (toCome stages) rfl (times_append kinds) fun emits => emits.spends _ h
  refine Nat.le_trans spent ?_
  unfold toCome
  split <;> decide

/-- Where an event may still come that is traced once, it has not come yet. -/
theorem Emitted.times_eq_zero (emitted : Emitted c ks) {kinds : List Kind} {stages : List TraceStage}
    (h : (kinds, stages) ∈ onceOnly) (due : c ∈ stages) : times kinds ks = 0 := by
  have once := emitted.times_le_one h
  rw [toCome, if_pos due] at once
  omega

/-! ## What is traced in order -/

/-- Whether the backend's response is on its way. -/
def isReplying : TraceStage → Bool
  | composed | relaying _ => true
  | _ => false

/-- What the backend's body came to is traced after the backend has answered. -/
theorem Emitted.heralded (emitted : Emitted c ks) :
    Heralded .responseStarted [.responseEnded, .responseFailed] ks ∧ (c.isReplying = true → .responseStarted ∈ ks) := by
  induction emitted with
  | nil => exact ⟨TraceEvent.heralded_of_times rfl, nofun⟩
  | snoc _ emits ih =>
    obtain ⟨heralded, replied⟩ := ih
    have goesOn {news : List Kind} (h : times [.responseEnded, .responseFailed] news = 0) :=
      heralded.append (.inr (TraceEvent.heralded_of_times h))
    cases emits with
    | silent => exact ⟨goesOn rfl, fun h => by simp [replied h]⟩
    | replies expected => exact ⟨goesOn (by cases expected <;> rfl), fun _ => by simp [reply]⟩
    | ended | overtaken => exact ⟨heralded.append (.inl (replied rfl)), nofun⟩
    | relays | heads => exact ⟨goesOn rfl, fun _ => List.mem_append_left _ (replied rfl)⟩
    | relayEnded headed => exact ⟨heralded.append (.inl (replied rfl)), by cases headed <;> exact nofun⟩
    | _ => exact ⟨goesOn rfl, nofun⟩

/-! ## Websockets apart -/

/-- How many events of a websocket may come. -/
def socketsToCome : TraceStage → Nat
  | unbegun | resolving => 3
  | connecting | accepted => 2
  | tunnelling => 1
  | _ => 0

/-- A request that goes to the backend as it is leaves nothing to come of a websocket, and the other way round. -/
theorem Emitted.apart (emitted : Emitted c ks) : times [.forwardStarted] ks = 0 ∨ times socketKinds ks = 0 := by
  have exclusive := emitted.cost_le (fun ks => 3 * times [.forwardStarted] ks + times socketKinds ks) socketsToCome rfl
    (fun ks news => by simp only [times_append]; omega) fun emits => by
      cases emits with
      | silent => exact Nat.le_of_eq (Nat.zero_add _)
      | replies expected => cases expected <;> decide
      | relayEnded headed ends => cases ends <;> cases headed <;> decide
      | deserted waits => rcases waits with rfl | rfl | rfl <;> decide
      | _ => decide
  have all : socketsToCome unbegun = 3 := rfl
  omega

end TraceStage

namespace Exchange

variable {x start : Exchange}

/-- The trace of a request is well formed. -/
structure WellTraced (x : Exchange) : Prop where
  /-- nothing is traced before the request arrives -/
  unbegun : x.handler = .idle → x.kinds = []
  /-- its arrival is traced first, and once -/
  arrival : x.handler ≠ .idle → times [.requestStarted] x.kinds = 1 ∧ ∃ rest, x.kinds = .requestStarted :: rest
  requestEnd : times [.requestEnded, .requestFailed] x.kinds ≤ 1
  forwardStarted : times [.forwardStarted] x.kinds ≤ 1
  /-- a request that could not be sent, or was not answered, has no response -/
  response : times [.forwardFailed, .responseStarted] x.kinds ≤ 1
  answerHeaded : times [.answerHeaded] x.kinds ≤ 1
  responseEnd : times [.responseEnded, .responseFailed] x.kinds ≤ 1
  responseOrder : Heralded .responseStarted [.responseEnded, .responseFailed] x.kinds
  answerEnd : times [.answerEnded, .answerFailed] x.kinds ≤ 1
  completed : .answerEnded ∈ x.kinds → x.guard.outcome = some .completed
  /-- the failures traced to have broken the response off are those that were reported with no head to send -/
  abandoned : x.traces.filterMap TraceEvent.failure? = x.abandonments
  recorded : ∀ failure ∈ x.abandonments, x.guard.outcome = some (.failed failure)
  /-- no event of a websocket is traced of a request that went to the backend as it is -/
  apart : times [.forwardStarted] x.kinds = 0 ∨ times socketKinds x.kinds = 0

theorem mem_traces {e : TraceEvent} : e ∈ x.traces ↔ .traced e ∈ x.log := by
  unfold traces
  rw [List.mem_filterMap]
  constructor
  · rintro ⟨o, ho, he⟩
    cases o with
    | traced f =>
      obtain rfl : f = e := Option.some.inj he
      exact ho
    | pageAsked | abandoned | forwarded | socketAsked | answered => cases he
  · intro h
    exact ⟨_, h, rfl⟩

/-- A failure that was reported with no head to send was handed over. -/
theorem handovers_of_abandonments {failure : Rejection} (h : failure ∈ x.abandonments) : failure ∈ x.handovers := by
  obtain ⟨o, ho, reported⟩ := List.mem_filterMap.1 h
  cases o with
  | abandoned f => exact List.mem_filterMap.2 ⟨_, ho, reported⟩
  | traced | pageAsked | forwarded | socketAsked | answered => cases reported

/-- The end of the client's body apart, the kinds that go with a stage are all there are. -/
theorem times_stageKinds {kinds : List Kind} (kept : ∀ k ∈ kinds, k.endsBody = false) :
    times kinds x.stageKinds = times kinds x.kinds :=
  TraceEvent.times_filter (fun k hk => by simp [kept k hk]) _

theorem endsBody_of_onceOnly : ∀ once ∈ TraceStage.onceOnly, ∀ k ∈ once.1, k.endsBody = false := by decide

theorem Traced.times_le_one (traced : x.Traced) {kinds : List Kind} (h : kinds ∈ TraceStage.onceOnly.map Prod.fst) :
    times kinds x.kinds ≤ 1 := by
  obtain ⟨⟨_, stages⟩, listed, rfl⟩ := List.mem_map.1 h
  rw [← times_stageKinds (endsBody_of_onceOnly _ listed)]
  exact Nat.le_trans (Nat.le_add_right _ _) (traced.emitted.times_le_one listed)

theorem Traced.times_eq_zero (traced : x.Traced) {kinds : List Kind} {stages : List TraceStage}
    (listed : (kinds, stages) ∈ TraceStage.onceOnly) (due : x.stage ∈ stages) : times kinds x.kinds = 0 := by
  rw [← times_stageKinds (endsBody_of_onceOnly _ listed)]
  exact traced.emitted.times_eq_zero listed due

/-- Nothing is traced of a request until it arrives, and its arrival comes first. -/
theorem Traced.arrival (traced : x.Traced) :
    (x.handler = .idle → x.kinds = [])
      ∧ (x.handler ≠ .idle → times [.requestStarted] x.kinds = 1 ∧ ∃ rest, x.kinds = .requestStarted :: rest) := by
  have once : times [.requestStarted] x.kinds ≤ 1 := traced.times_le_one (by decide)
  rcases traced.begins with ⟨idle, none⟩ | ⟨rest, first⟩
  · exact ⟨fun _ => none, fun begun => absurd idle begun⟩
  · have counted : times [.requestStarted] x.kinds = times [.requestStarted] rest + 1 := by
      rw [first]
      exact List.countP_cons_of_pos (by decide)
    refine ⟨fun idle => ?_, fun _ => ⟨by omega, rest, first⟩⟩
    have listed : ([.requestStarted], [.unbegun]) ∈ TraceStage.onceOnly := by decide
    have none := traced.times_eq_zero listed (by simp [stage_eq_unbegun_iff.2 idle])
    omega

/-- How the client's body ended is traced once at most. -/
theorem Traced.requestEnd (traced : x.Traced) : times [.requestEnded, .requestFailed] x.kinds ≤ 1 := by
  have ends : times [.requestEnded, .requestFailed] x.kinds = TraceEvent.bodyEnds x.traces :=
    List.countP_congr fun k _ => by cases k <;> decide
  rw [ends]
  exact Nat.le_trans (Nat.le_add_right _ _) traced.body

/-- Whatever happens to a request and in whichever order, its trace is well formed. -/
theorem Run.wellTraced {es : List Event} (fresh : start.Fresh) (run : Run start es x) : x.WellTraced := by
  have sound : x.Sound := run.sound fresh
  have traced : x.Traced := run.traced fresh
  exact {
    unbegun := traced.arrival.1
    arrival := traced.arrival.2
    requestEnd := traced.requestEnd
    forwardStarted := traced.times_le_one (by decide)
    response := traced.times_le_one (by decide)
    answerHeaded := traced.times_le_one (by decide)
    responseEnd := traced.times_le_one (by decide)
    responseOrder := traced.emitted.heralded.1.of_filter (by decide)
    answerEnd := traced.times_le_one (by decide)
    completed := fun ended => by
      obtain ⟨e, told, kind⟩ := List.mem_map.1 ended
      cases e with
      | answerEnded => exact sound.answerEnded (mem_traces.1 told)
      | _ => cases kind
    abandoned := traced.abandonments.symm
    recorded := fun failure reported => sound.endsOnce.recorded _ (handovers_of_abandonments reported)
    apart := by
      have apart := traced.emitted.apart
      rwa [times_stageKinds (by decide), times_stageKinds (by decide)] at apart }

/-- A response that breaks off after its first chunk. -/
def brokenResponse : Response where
  head := { status := .ok, phrase := none, headers := .empty }
  body := .arriving (.ofItems [.data [1], .failure .pipeAborted] false)

/-- Such a response is traced to have begun and to have broken off, and the failure is reported once. -/
theorem wellTraced_brokenResponse : ∃ start es x, start.Fresh ∧ Run start es x ∧ x.WellTraced
    ∧ x.kinds = [.requestStarted, .hopResolved, .requestEnded, .forwardStarted, .responseStarted, .answerStarted,
        .answerHeaded, .responseFailed, .answerFailed]
    ∧ x.abandonments = [.responseBody .pipeAborted] := by
  let start := towards (.forward ⟨"backend", 80, "/", ""⟩) (Headers.empty.insert .host .zero) (.buffered [])
  let es : List Event := [.arrived ⟨0⟩, .resolverAllowed, .handlerStepped 0, .backendAnswered (.ok brokenResponse),
    .handlerStepped 0, .handlerStepped 0, .handlerStepped 0, .handlerStepped 0, .relayStepped 0, .relayStepped 0,
    .clientRead none, .relayStepped 0, .clientRead (some (.data [1])), .relayStepped 0]
  have reached : (es.foldlM perform start).any (fun x =>
      x.kinds = [.requestStarted, .hopResolved, .requestEnded, .forwardStarted, .responseStarted, .answerStarted,
        .answerHeaded, .responseFailed, .answerFailed]
      ∧ x.abandonments = [.responseBody .pipeAborted]) = true := by decide +kernel
  obtain ⟨x, hx, h⟩ := (Option.any_eq_true _ _).1 reached
  obtain ⟨told, reported⟩ := of_decide_eq_true h
  have fresh : start.Fresh := fresh_towards _ _ _
  have run : Run start es x := run_of_perform hx
  exact ⟨start, es, x, fresh, run, Run.wellTraced fresh run, told, reported⟩

end Exchange

end Gateway
