import Gateway.Proofs.Outcome.Sound
import Gateway.Proofs.Trace.Kind

/-!
# What is traced at which stage

Handler, upload, relay and tunnel trace events in whatever order they move. `TraceStage.Emits` lists what can be traced next
at each stage of an exchange, and the stage that follows, whoever traces it. How the client's body ended is left out,
since the upload traces that at any stage; it is traced once, by the handler or by the upload (`owesBodyEnd`).

The stage is read off the exchange (`stage`). `Step.advances` says that every event of an exchange emits what its stage
allows, `Run.traced` what that comes to in every run.
-/

namespace Gateway

namespace TraceEvent

/-- The failure an event reports to have broken the response off. -/
def failure? : TraceEvent → Option Rejection
  | answerFailed failure => some failure
  | _ => none

/-- The kinds of these events that go with a stage: all but those about the end of the client's body. -/
def stageKinds (events : List TraceEvent) : List Kind := (events.map kind).filter fun k => !k.endsBody

/-- How many of these events are about the end of the client's body. -/
def bodyEnds (events : List TraceEvent) : Nat := (events.map kind).countP Kind.endsBody

variable (events news : List TraceEvent)

theorem stageKinds_append : stageKinds (events ++ news) = stageKinds events ++ stageKinds news := by
  simp [stageKinds]

theorem bodyEnds_append : bodyEnds (events ++ news) = bodyEnds events + bodyEnds news := by
  simp [bodyEnds]

/-- What is traced when the backend has answered; where the client waits to be told to go on, also whether its body was
complete then. -/
def replyBegins (head : ResponseHead) (complete : Option Bool) : List TraceEvent :=
  responseStarted head.status head.headers :: answerStarted :: complete.toList.map answeredEarly

theorem bodyEnds_replyBegins (head : ResponseHead) (complete : Option Bool) : bodyEnds (replyBegins head complete) = 0 := by
  cases complete <;> rfl

end TraceEvent

namespace Observation

/-- The trace event that was observed. -/
def event? : Observation → Option TraceEvent
  | traced e => some e
  | _ => none

/-- The failure that was reported with no head to send. -/
def abandoned? : Observation → Option Rejection
  | abandoned failure => some failure
  | _ => none

end Observation

/-! ## Stages -/

/-- How far an exchange got, as far as its trace is concerned. -/
inductive TraceStage where
  | unbegun
  | resolving
  /-- a websocket was asked for -/
  | connecting
  /-- the backend was asked -/
  | forwarding
  /-- the head of the backend's response is composed -/
  | composed
  /-- a relay is at work, and the head is out or held -/
  | relaying (headed : Bool)
  /-- nothing but the head is left to come -/
  | heading
  /-- the websocket was accepted -/
  | accepted
  /-- messages are relayed -/
  | tunnelling
  | concluded
deriving DecidableEq

namespace TraceStage

open TraceEvent (Kind)

/-- The kinds of what is traced when the backend has answered. -/
def reply (expected : Bool) : List Kind :=
  [.responseStarted, .answerStarted] ++ if expected then [.answeredEarly] else []

theorem stageKinds_replyBegins (head : ResponseHead) (complete : Option Bool) :
    TraceEvent.stageKinds (TraceEvent.replyBegins head complete) = reply complete.isSome := by
  cases complete <;> rfl

/-- What a relay traces as it ends. -/
inductive RelayEnds : List Kind → Prop where
  | moved : RelayEnds [.responseEnded, .answerEnded]
  /-- everything was moved, but a failure was recorded after the relay's last look -/
  | overtaken : RelayEnds [.responseEnded, .answerFailed]
  | clientLeft : RelayEnds [.clientLeft, .answerFailed]
  | brokenOff : RelayEnds [.responseFailed, .answerFailed]
  /-- the relay has found a failure of another part -/
  | cancelled : RelayEnds [.answerFailed]

/-- The stage after a relay. -/
def relayed (headed : Bool) : TraceStage := if headed then concluded else heading

/-- What can be traced next, and the stage that follows. -/
inductive Emits : TraceStage → List Kind → TraceStage → Prop where
  | silent {c : TraceStage} : Emits c [] c
  | arrived : Emits unbegun [.requestStarted] resolving
  /-- the resolver has answered the client itself -/
  | answered : Emits resolving [] concluded
  | refused : Emits resolving [.answerHeaded] concluded
  /-- the request names no host, or has no key for the websocket it asks for -/
  | unfit : Emits resolving [.hopResolved, .answerHeaded] concluded
  | unsendable : Emits resolving [.hopResolved, .forwardFailed, .answerHeaded] concluded
  | unconnectable : Emits resolving [.hopResolved, .socketFailed, .answerHeaded] concluded
  | connects : Emits resolving [.hopResolved, .socketStarted] connecting
  | forwards : Emits resolving [.hopResolved, .forwardStarted] forwarding
  /-- a failure recorded by another part was answered -/
  | failed : Emits forwarding [.answerHeaded] concluded
  | unanswered : Emits forwarding [.forwardFailed, .answerHeaded] concluded
  | replies (expected : Bool) : Emits forwarding (reply expected) composed
  /-- the backend's body is over -/
  | ended : Emits composed [.responseEnded, .answerEnded] heading
  /-- it is over, but a failure was recorded since the head was composed -/
  | overtaken : Emits composed [.responseEnded] heading
  | relays : Emits composed [] (relaying false)
  | heads : Emits (relaying false) [.answerHeaded] (relaying true)
  | relayEnded (headed : Bool) {news : List Kind} (ends : RelayEnds news) : Emits (relaying headed) news (relayed headed)
  | headed : Emits heading [.answerHeaded] concluded
  /-- the client left while the handler waited -/
  | deserted {c : TraceStage} (waits : c = resolving ∨ c = connecting ∨ c = forwarding) :
      Emits c [.clientLeft, .answerFailed] concluded
  | socketRefused : Emits connecting [.answerHeaded] concluded
  | socketFailed : Emits connecting [.socketFailed, .answerHeaded] concluded
  | accepts : Emits connecting [.answerHeaded] accepted
  | opened : Emits accepted [.tunnelOpened] tunnelling
  | unopened : Emits accepted [.tunnelFailed] concluded
  | closed : Emits tunnelling [.tunnelClosed] concluded
  | torn : Emits tunnelling [.tunnelFailed] concluded

/-- What was traced up to a stage. -/
inductive Emitted : TraceStage → List Kind → Prop where
  | nil : Emitted unbegun []
  | snoc {c d : TraceStage} {ks news : List Kind} (emitted : Emitted c ks) (emits : Emits c news d) : Emitted d (ks ++ news)

/-- Where each stage allows so much to be spent from there on, no more is ever spent than the first stage allows. -/
theorem Emitted.cost_le (cost : List Kind → Nat) (allowance : TraceStage → Nat) (nothing : cost [] = 0)
    (append : ∀ ks news, cost (ks ++ news) = cost ks + cost news)
    (spends : ∀ {c news d}, Emits c news d → cost news + allowance d ≤ allowance c) {c : TraceStage} {ks : List Kind}
    (emitted : Emitted c ks) : cost ks + allowance c ≤ allowance unbegun := by
  induction emitted with
  | nil => omega
  | snoc _ emits ih =>
    have spent := spends emits
    rw [append]
    omega

end TraceStage

/-- Whether a handler in this phase still holds the client's body. -/
def HandlerPhase.holdsBody : HandlerPhase → Bool
  | idle | resolving => true
  | _ => false

namespace Exchange

variable {x y z : Exchange} {events : List TraceEvent}

/-- The trace events of an exchange, in order. -/
def traces (x : Exchange) : List TraceEvent := x.log.filterMap Observation.event?

/-- The kinds of the trace events of an exchange, in order. -/
def kinds (x : Exchange) : List TraceEvent.Kind := x.traces.map TraceEvent.kind

/-- The kinds of those that go with a stage. -/
def stageKinds (x : Exchange) : List TraceEvent.Kind := TraceEvent.stageKinds x.traces

/-- The failures that were reported with no head to send, in order. -/
def abandonments (x : Exchange) : List Rejection := x.log.filterMap Observation.abandoned?

/-- Whether an upload is at work; `none` where there is no upload. -/
def uploading (x : Exchange) : Option Bool := x.upload.map (·.running)

/-- Whether it is still to be traced how the client's body ended: it was not handed over, or the upload is at work. -/
def owesBodyEnd (x : Exchange) : Bool := x.handler.holdsBody || x.uploading == some true

/-- The stage of an exchange. -/
def stage (x : Exchange) : TraceStage :=
  match x.handler with
  | .idle => .unbegun
  | .resolving => .resolving
  | .connecting _ => .connecting
  | .forwarding _ | .failing _ | .responding => .forwarding
  | .composed _ => .composed
  | .heading .. => if x.relaying = some true then .relaying false else .heading
  | .returned =>
    if x.relaying = some true then .relaying true
    else
      match x.tunnel with
      | .accepted => .accepted
      | .opened => .tunnelling
      | .absent | .over => .concluded
  | .dropped => .concluded

/-- A tunnel is there only behind the answer to a handshake, where no relay is. -/
def Tunnelled (x : Exchange) : Prop := x.tunnel = .absent ∨ (x.handler = .returned ∧ x.relaying = none)

/-! ## What an operation traces -/

/-- The second log has these events behind those of the first one, and reports the failures they are about. -/
structure Appends (before after : List Observation) (events : List TraceEvent) : Prop where
  traces : after.filterMap Observation.event? = before.filterMap Observation.event? ++ events
  abandonments : after.filterMap Observation.abandoned?
    = before.filterMap Observation.abandoned? ++ events.filterMap TraceEvent.failure?

theorem Appends.refl (log : List Observation) : Appends log log [] := by
  constructor <;> simp

theorem Appends.trans {first second third : List Observation} {news : List TraceEvent} (h : Appends first second events)
    (k : Appends second third news) : Appends first third (events ++ news) where
  traces := by rw [k.traces, h.traces, List.append_assoc]
  abandonments := by rw [k.abandonments, h.abandonments, List.filterMap_append, List.append_assoc]

theorem appends_trace (x : Exchange) {e : TraceEvent} (h : e.failure? = none) : Appends x.log (x.trace e).log [e] := by
  constructor <;> simp [trace, observe, Observation.event?, Observation.abandoned?, h]

theorem appends_arrive (x : Exchange) (ids : RequestIds) :
    ∃ start, Appends x.log (x.arrive ids).1.log [.requestStarted start] :=
  ⟨_, appends_trace x (e := .requestStarted _) rfl⟩

theorem appends_observe (x : Exchange) {o : Observation} (event : o.event? = none) (report : o.abandoned? = none) :
    Appends x.log (x.observe o).log [] := by
  constructor <;> simp [observe, event, report]

theorem appends_abandon {failure : Rejection} (h : x.guard.failure = some failure) :
    Appends x.log x.abandon.log [.answerFailed failure] := by
  unfold abandon
  rw [h]
  constructor
  · simp [trace, observe, Observation.event?]
  · simp only [trace, observe, List.filterMap_append, List.append_assoc]
    rfl

theorem appends_finish (x : Exchange) (head : ResponseHead) (body : ClientBody) :
    Appends x.log (x.finish head body).log [] :=
  appends_observe { x with handler := .returned, inbound := x.inbound.release, clientBody := some body }
    (o := .answered head _ _) rfl rfl

theorem appends_finishTraced (x : Exchange) (head : ResponseHead) (body : ClientBody) :
    Appends x.log (x.finishTraced head body).log [.answerHeaded head.status head.headers] :=
  (appends_trace x rfl).trans (appends_finish (x.trace (.answerHeaded head.status head.headers)) head body)

theorem appends_respondFailure (x : Exchange) (failure : Rejection) :
    ∃ status headers, Appends x.log (x.respondFailure failure).log [.answerHeaded status headers] :=
  ⟨_, _, (appends_observe x (o := .pageAsked failure) rfl rfl).trans (appends_finishTraced _ _ _)⟩

theorem appends_reject (x : Exchange) (failure : Rejection) :
    ∃ status headers, Appends x.log (x.reject failure).log [.answerHeaded status headers] :=
  appends_respondFailure (x.fail failure) _

theorem appends_failSocket (x : Exchange) (cause : Cause) :
    ∃ status headers, Appends x.log (x.failSocket cause).log [.socketFailed cause, .answerHeaded status headers] :=
  ⟨_, _, (appends_trace x (e := .socketFailed cause) rfl).trans
    (appends_finishTraced ((x.trace (.socketFailed cause)).fail (.backend cause)) _ _)⟩

theorem appends_traceResponse (x : Exchange) (response : Response) : ∃ complete,
    Appends x.log (x.traceResponse response).log (TraceEvent.replyBegins response.head complete) := by
  have started := (appends_trace x (e := .responseStarted response.head.status response.head.headers) rfl).trans
    (appends_trace _ (e := .answerStarted) rfl)
  unfold traceResponse
  dsimp only
  split
  · exact ⟨some x.bodyComplete, started.trans (appends_trace _ rfl)⟩
  · exact ⟨none, started⟩

/-- The end of the request is traced where its body is handed over as a whole; otherwise the upload begins. -/
theorem appends_handOver (x : Exchange) (headers : Headers) :
    (∃ bytes, Appends x.log (x.handOver headers).1.log [.requestEnded bytes] ∧ (x.handOver headers).1.upload = x.upload)
      ∨ Appends x.log (x.handOver headers).1.log [] := by
  unfold handOver
  split
  · rename_i bytes _
    exact .inl ⟨bytes.length, appends_trace x rfl, rfl⟩
  · split <;> exact .inr (Appends.refl _)

theorem appends_send (x : Exchange) (now : Nat) (head : RequestHead) :
    Appends x.log (x.send now head).log [.forwardStarted head.method head.uri head.headers] :=
  (appends_trace x rfl).trans (appends_observe (x.trace (.forwardStarted head.method head.uri head.headers))
    (o := .forwarded head _ _) rfl rfl)

theorem appends_passEnded (x : Exchange) (head : ResponseHead) (response : Response) :
    Appends x.log (x.passEnded head response).log [.responseEnded 0]
      ∨ Appends x.log (x.passEnded head response).log [.responseEnded 0, .answerEnded] := by
  have traced := appends_trace x (e := .responseEnded 0) rfl
  unfold passEnded
  dsimp only
  split
  · exact .inl traced
  · exact .inr (traced.trans (appends_trace (x.trace (.responseEnded 0)).complete rfl))

theorem appends_dropHandler {failure : Rejection} (h : (x.fail .clientLeft).guard.failure = some failure) :
    Appends x.log x.dropHandler.log [.clientLeft, .answerFailed failure] := by
  have left := appends_trace x (e := .clientLeft) rfl
  exact left.trans (appends_abandon (x := fail (trace { x with
    handler := .dropped, inbound := x.inbound.release, backendCall := _ } .clientLeft) .clientLeft) h)

/-! ## The stage of an exchange -/

theorem stage_congr (handler : y.handler = x.handler) (relaying : y.relaying = x.relaying) (tunnel : y.tunnel = x.tunnel) :
    y.stage = x.stage := by
  unfold stage
  rw [handler, relaying, tunnel]

theorem stage_eq_unbegun_iff : x.stage = .unbegun ↔ x.handler = .idle := by
  unfold stage
  constructor
  · intro unbegun
    split at unbegun
    · assumption
    all_goals first | cases unbegun | (split at unbegun <;> first | cases unbegun | (split at unbegun <;> cases unbegun))
  · intro idle
    rw [idle]

/-- The handler is over, and neither a relay nor a tunnel is at work. -/
theorem stage_eq_concluded (handler : x.handler = .returned ∨ x.handler = .dropped) (relaying : x.relaying ≠ some true)
    (tunnel : x.tunnel = .absent ∨ x.tunnel = .over) : x.stage = .concluded := by
  rcases handler with handler | handler
  · rcases tunnel with tunnel | tunnel <;> simp [stage, handler, relaying, tunnel]
  · simp [stage, handler]

theorem HeadStands.phase {body : ClientBody} {reports : List Observation} (h : x.HeadStands body reports) :
    x.handler = .returned ∨ ∃ head, x.handler = .heading head body := by
  cases h with
  | held handler => exact .inr ⟨_, handler⟩
  | first handler | last handler => exact .inl handler

/-- At work and after it, a relay is beside a handler that holds the head or has returned it. -/
theorem stage_of_headStands {body : ClientBody} {reports : List Observation} (head : x.HeadStands body reports)
    (untunnelled : x.tunnel = .absent) :
    (x.relaying = some true → x.stage = .relaying (decide (x.handler = .returned)))
      ∧ (x.relaying ≠ some true → x.stage = .relayed (decide (x.handler = .returned))) := by
  rcases head.phase with returned | ⟨head, held⟩
  · constructor <;> intro relaying <;> simp [stage, returned, relaying, untunnelled, TraceStage.relayed]
  · constructor <;> intro relaying <;> simp [stage, held, relaying, TraceStage.relayed]

theorem Tunnelled.absent_of_relaying (h : x.Tunnelled) {running : Bool} (relaying : x.relaying = some running) :
    x.tunnel = .absent := by
  refine h.resolve_right fun ⟨_, alone⟩ => ?_
  rw [relaying] at alone
  cases alone

theorem Tunnelled.absent_of_handler (h : x.Tunnelled) (unreturned : x.handler ≠ .returned) : x.tunnel = .absent :=
  h.resolve_right fun ⟨returned, _⟩ => unreturned returned

/-- Before the handler has passed a response on, it is alone. -/
theorem Sound.alone (sound : x.Sound) (tunnelled : x.Tunnelled) (isOpen : x.handler.isOpen = true) :
    x.relaying = none ∧ x.tunnel = .absent := by
  refine ⟨(sound.standing.of_isOpen isOpen).2.1, tunnelled.absent_of_handler ?_⟩
  intro returned
  simp [returned, HandlerPhase.isOpen] at isOpen

/-! ## What an event traces -/

/-- An exchange goes on with these events: its stage allows them, and how the client's body ended is traced only where
that was still owed, once the request has arrived. -/
structure Advances (x y : Exchange) (events : List TraceEvent) : Prop where
  appends : Appends x.log y.log events
  emits : x.stage.Emits (TraceEvent.stageKinds events) y.stage
  tunnelled : y.Tunnelled
  begun : x.handler = .idle → TraceEvent.bodyEnds events = 0
  body : TraceEvent.bodyEnds events + y.owesBodyEnd.toNat ≤ x.owesBodyEnd.toNat

/-- While the handler holds the body, nothing is traced of its end, and it may be owed further on. -/
theorem owesBodyEnd_le_of_holdsBody (unended : TraceEvent.bodyEnds events = 0) (holds : x.handler.holdsBody = true) :
    TraceEvent.bodyEnds events + y.owesBodyEnd.toNat ≤ x.owesBodyEnd.toNat := by
  simp only [unended, owesBodyEnd, holds, Nat.zero_add, Bool.true_or]
  exact Bool.toNat_le _

/-- A handler that goes on without the client's body owes no more of its end than before. -/
theorem advances_of_emits {d : TraceStage} (appends : Appends x.log y.log events)
    (emits : x.stage.Emits (TraceEvent.stageKinds events) d) (stage : y.stage = d) (tunnelled : y.Tunnelled)
    (unended : TraceEvent.bodyEnds events = 0) (past : y.handler.holdsBody = false) (upload : y.upload = x.upload) :
    Advances x y events where
  appends := appends
  emits := stage ▸ emits
  tunnelled := tunnelled
  begun := fun _ => unended
  body := by
    simp only [unended, owesBodyEnd, past, uploading, upload, Nat.zero_add, Bool.false_or]
    cases x.upload.map (·.running) == some true <;> simp

/-- Nothing is traced, and nothing has changed that says how far the exchange got. -/
theorem advances_silent (tunnelled : x.Tunnelled) (log : y.log = x.log) (handler : y.handler = x.handler)
    (relaying : y.relaying = x.relaying) (tunnel : y.tunnel = x.tunnel) (uploading : y.uploading = x.uploading) :
    Advances x y [] where
  appends := log ▸ Appends.refl _
  emits := by
    rw [stage_congr handler relaying tunnel]
    exact .silent
  tunnelled := by
    rw [Tunnelled, handler, relaying, tunnel]
    exact tunnelled
  begun := fun _ => rfl
  body := by
    have owed : y.owesBodyEnd = x.owesBodyEnd := by rw [owesBodyEnd, handler, uploading]; rfl
    rw [owed]
    exact Nat.le_of_eq (Nat.zero_add _)

/-- Only the log, the handler, the relay, the tunnel and the upload count for what follows. -/
theorem Advances.congr (h : Advances z y events) (log : z.log = x.log) (handler : z.handler = x.handler)
    (relaying : z.relaying = x.relaying) (tunnel : z.tunnel = x.tunnel) (uploading : z.uploading = x.uploading) :
    Advances x y events where
  appends := log ▸ h.appends
  emits := stage_congr handler relaying tunnel ▸ h.emits
  tunnelled := h.tunnelled
  begun := handler ▸ h.begun
  body := by
    have owed : z.owesBodyEnd = x.owesBodyEnd := by rw [owesBodyEnd, handler, uploading]; rfl
    exact owed ▸ h.body

/-- The handler ends, and neither a relay nor a tunnel is there to go on. -/
theorem advances_concluded (appends : Appends x.log y.log events)
    (emits : x.stage.Emits (TraceEvent.stageKinds events) .concluded) (unended : TraceEvent.bodyEnds events = 0)
    (handler : y.handler = .returned ∨ y.handler = .dropped) (alone : x.relaying = none ∧ x.tunnel = .absent)
    (relay : y.relay = x.relay) (tunnel : y.tunnel = x.tunnel) (upload : y.upload = x.upload) : Advances x y events := by
  have relaying : y.relaying = none := by
    rw [Exchange.relaying, relay]
    exact alone.1
  have absent : y.tunnel = .absent := tunnel.trans alone.2
  have stage : y.stage = .concluded := stage_eq_concluded handler (by simp [relaying]) (.inl absent)
  refine advances_of_emits appends emits stage (.inl absent) unended ?_ upload
  rcases handler with handler | handler <;> rw [handler] <;> rfl

/-! ## Neighbours -/

theorem advances_pushRequest (tunnelled : x.Tunnelled) (item : Item) : Advances x (x.pushRequest item) [] := by
  unfold pushRequest
  split
  · rename_i t ht
    exact advances_silent tunnelled rfl rfl rfl rfl (by simp [uploading, ht])
  · exact advances_silent tunnelled rfl rfl rfl rfl rfl

theorem advances_clientRead (tunnelled : x.Tunnelled) {item : Option Item} (read : x.clientRead = some (item, y)) :
    Advances x y [] := by
  rcases clientRead_cases read with ⟨_, _, -, rfl⟩ | ⟨t, _, -, ht, -, rfl⟩
  · exact advances_silent tunnelled rfl rfl rfl rfl rfl
  · exact advances_silent tunnelled rfl rfl (by simp [relaying, ht]) rfl rfl

theorem advances_dropResponse (tunnelled : x.Tunnelled) (drop : x.dropResponse = some y) : Advances x y [] := by
  rcases dropResponse_cases drop with ⟨_, -, rfl⟩ | ⟨-, rfl⟩
  · exact advances_silent tunnelled rfl rfl rfl rfl rfl
  · exact advances_silent tunnelled rfl rfl (by simp [relaying, Function.comp_def]) rfl rfl

theorem advances_backendRead (tunnelled : x.Tunnelled) {item : Option Item} (read : x.backendRead = some (item, y)) :
    Advances x y [] := by
  rcases backendRead_cases read with ⟨_, _, -, rfl⟩ | ⟨t, _, -, ht, -, rfl⟩
  · exact advances_silent tunnelled rfl rfl rfl rfl rfl
  · exact advances_silent tunnelled rfl rfl rfl rfl (by simp [uploading, ht])

theorem advances_backendDropBody (tunnelled : x.Tunnelled) (drop : x.backendDropBody = some y) : Advances x y [] := by
  rcases backendDropBody_cases drop with ⟨_, -, rfl⟩ | ⟨-, rfl⟩
  · exact advances_silent tunnelled rfl rfl rfl rfl rfl
  · exact advances_silent tunnelled rfl rfl rfl rfl (by simp [uploading, Function.comp_def])

theorem advances_pushResponse (tunnelled : x.Tunnelled) (item : Item) : Advances x (x.pushResponse item) [] := by
  unfold pushResponse
  split
  · rename_i t ht
    exact advances_silent tunnelled rfl rfl (by simp [relaying, ht]) rfl rfl
  · split
    · exact advances_silent tunnelled rfl rfl rfl rfl rfl
    · split <;> exact advances_silent tunnelled rfl rfl rfl rfl rfl

/-! ## Arrival and departure -/

theorem advances_arrive (tunnelled : x.Tunnelled) (idle : x.handler = .idle) (ids : RequestIds) :
    ∃ events, Advances x (x.arrive ids).1 events := by
  have unbegun : x.stage = .unbegun := stage_eq_unbegun_iff.2 idle
  have absent : x.tunnel = .absent := tunnelled.absent_of_handler (by simp [idle])
  have unread : x.handler.holdsBody = true := by rw [idle]; rfl
  obtain ⟨start, appends⟩ := appends_arrive x ids
  exact ⟨_, appends, unbegun ▸ .arrived, .inl absent, fun _ => rfl, owesBodyEnd_le_of_holdsBody rfl unread⟩

/-- The client has left while the handler waited; with nothing to send, the failure that counts is reported. -/
theorem advances_dropHandler (tunnelled : x.Tunnelled) (sound : x.Sound) (waiting : x.isWaiting) :
    ∃ events, Advances x x.dropHandler events := by
  have isOpen := isOpen_of_isWaiting waiting
  obtain ⟨failure, failed⟩ := Guard.exists_failure_fail (sound.standing.of_isOpen isOpen).2.2 .clientLeft
  have waits : x.stage = .resolving ∨ x.stage = .connecting ∨ x.stage = .forwarding := by
    unfold isWaiting at waiting
    unfold stage
    split at waiting <;> simp_all
  have recorded : (x.fail .clientLeft).guard.failure = some failure := Guard.failure_eq_some_iff.2 failed
  have appends := appends_dropHandler recorded
  obtain ⟨_, _, _, _, same⟩ := touches_dropHandler x
  refine ⟨_, advances_concluded appends (.deserted waits) rfl ?_ (sound.alone tunnelled isOpen) ?_ ?_ ?_⟩ <;> rw [same]
  exact .inr rfl

/-! ## Handler -/

/-- The head goes to the backend, after the body was handed over or an upload was begun. -/
theorem advances_send (phase : x.handler = .resolving) (handed : Appends x.log z.log events)
    (resolved : TraceEvent.stageKinds events = [.hopResolved])
    (ended : TraceEvent.bodyEnds events = 0 ∨ (TraceEvent.bodyEnds events = 1 ∧ z.upload = none))
    (absent : z.tunnel = .absent) (now : Nat) (head : RequestHead) : ∃ events, Advances x (z.send now head) events := by
  have owed : x.owesBodyEnd = true := by simp [owesBodyEnd, phase, HandlerPhase.holdsBody]
  have stage : x.stage = .resolving := by rw [Exchange.stage, phase]
  have counted : TraceEvent.bodyEnds (events ++ [TraceEvent.forwardStarted head.method head.uri head.headers])
      = TraceEvent.bodyEnds events := by
    rw [TraceEvent.bodyEnds_append]
    rfl
  refine ⟨_, handed.trans (appends_send z now head), ?_, .inl absent, fun idle => by simp [idle] at phase, ?_⟩
  · rw [TraceEvent.stageKinds_append, resolved, stage]
    exact .forwards
  · rw [counted, owed]
    rcases ended with none | ⟨one, unloaded⟩
    · rw [none, Nat.zero_add]
      exact Bool.toNat_le _
    · have clear : (z.send now head).owesBodyEnd = false := by
        show (false || z.uploading == some true) = false
        rw [Exchange.uploading, unloaded]
        rfl
      rw [one, clear]
      exact Nat.le_refl 1

/-- The request goes to the backend, with its body in full or with an upload. -/
theorem advances_sent (phase : x.handler = .resolving) (absent : x.tunnel = .absent) (unloaded : x.upload = none)
    (now : Nat) (target : Target) (headers : Headers) (head : RequestHead) :
    ∃ events, Advances x (((x.trace (.hopResolved target)).handOver headers).1.send now head) events := by
  have resolved := appends_trace x (e := .hopResolved target) rfl
  have handed := appends_handOver (x.trace (.hopResolved target)) headers
  have still : ((x.trace (.hopResolved target)).handOver headers).1.tunnel = .absent := by
    obtain ⟨_, _, _, _, _, same⟩ := touches_handOver (x.trace (.hopResolved target)) headers
    rw [same]
    exact absent
  generalize ((x.trace (.hopResolved target)).handOver headers).1 = z at handed still
  rcases handed with ⟨bytes, handed, upload⟩ | handed
  · exact advances_send phase (resolved.trans handed) rfl (.inr ⟨rfl, upload.trans unloaded⟩) still now head
  · exact advances_send phase (resolved.trans handed) rfl (.inl rfl) still now head

/-- After some events the handler has answered. -/
theorem advances_answered {answer : List TraceEvent} (appends : Appends x.log z.log events)
    (answered : Appends z.log y.log answer)
    (emits : x.stage.Emits (TraceEvent.stageKinds events ++ TraceEvent.stageKinds answer) .concluded)
    (unended : TraceEvent.bodyEnds events = 0) (bodyless : TraceEvent.bodyEnds answer = 0) (returned : y.handler = .returned)
    (alone : x.relaying = none ∧ x.tunnel = .absent) (relay : y.relay = x.relay) (tunnel : y.tunnel = x.tunnel)
    (upload : y.upload = x.upload) : Advances x y (events ++ answer) := by
  refine advances_concluded (appends.trans answered) ?_ ?_ (.inl returned) alone relay tunnel upload
  · rw [TraceEvent.stageKinds_append]
    exact emits
  · rw [TraceEvent.bodyEnds_append, unended, bodyless]

/-- After some events a failure was answered. -/
theorem advances_reject (appends : Appends x.log z.log events)
    (emits : x.stage.Emits (TraceEvent.stageKinds events ++ [.answerHeaded]) .concluded)
    (unended : TraceEvent.bodyEnds events = 0) (alone : x.relaying = none ∧ x.tunnel = .absent)
    (relay : z.relay = x.relay) (tunnel : z.tunnel = x.tunnel) (upload : z.upload = x.upload) (failure : Rejection) :
    ∃ events, Advances x (z.reject failure) events := by
  obtain ⟨status, headers, answered⟩ := appends_reject z failure
  exact ⟨_, advances_answered appends answered emits unended rfl rfl alone relay tunnel upload⟩

/-- After some events the gateway answered itself that there is no websocket. -/
theorem advances_failSocket (appends : Appends x.log z.log events) (cause : Cause)
    (emits : x.stage.Emits (TraceEvent.stageKinds events ++ [.socketFailed, .answerHeaded]) .concluded)
    (unended : TraceEvent.bodyEnds events = 0) (alone : x.relaying = none ∧ x.tunnel = .absent)
    (relay : z.relay = x.relay) (tunnel : z.tunnel = x.tunnel) (upload : z.upload = x.upload) :
    ∃ events, Advances x (z.failSocket cause) events := by
  obtain ⟨status, headers, answered⟩ := appends_failSocket z cause
  exact ⟨_, advances_answered appends answered emits unended rfl rfl alone relay tunnel upload⟩

/-- What follows the resolver's answer. -/
theorem advances_of_resolves (phase : x.handler = .resolving) (alone : x.relaying = none ∧ x.tunnel = .absent)
    (unloaded : x.upload = none) {now : Nat} {hop : Except Rejection NextHop} (next : Resolves x now hop y) :
    ∃ events, Advances x y events := by
  have resolved (target : Target) := appends_trace x (e := .hopResolved target) rfl
  have stage : x.stage = .resolving := by rw [Exchange.stage, phase]
  cases next with
  | refused failure => exact advances_reject (Appends.refl x.log) (stage ▸ .refused) rfl alone rfl rfl rfl failure
  | answered response =>
    have appends := appends_finish x.complete
    exact ⟨_, advances_concluded (appends _ _) (stage ▸ .answered) rfl (.inl rfl) alone rfl rfl rfl⟩
  | hostless target | keyless target =>
    exact advances_reject (resolved target) (stage ▸ .unfit) rfl alone rfl rfl rfl _
  | @socketFailed target _ _ cause =>
    exact advances_failSocket (resolved target) cause (stage ▸ .unconnectable) rfl alone rfl rfl rfl
  | @socketAsked target _ key uri headers =>
    have asked := (appends_trace (x.trace (.hopResolved target)) (e := .socketStarted uri headers) rfl).trans
      (appends_observe _ (o := .socketAsked target headers) rfl rfl)
    exact ⟨_, advances_of_emits ((resolved target).trans asked) (stage ▸ .connects) rfl (.inl alone.2) rfl rfl rfl⟩
  | @unsendable target _ cause =>
    have failed := (resolved target).trans
      (appends_trace (x.trace (.hopResolved target)) (e := .forwardFailed cause) rfl)
    exact advances_reject failed (stage ▸ .unsendable) rfl alone rfl rfl rfl (.backend cause)
  | @sent target _ uri headers => exact advances_sent phase alone.2 unloaded now target headers _

/-- What ends the wait for the backend. -/
theorem advances_of_forwards {now since : Nat} (phase : x.handler = .forwarding since)
    (alone : x.relaying = none ∧ x.tunnel = .absent) (next : Forwards x now since y) : ∃ events, Advances x y events := by
  have stage : x.stage = .forwarding := by rw [Exchange.stage, phase]
  have goesOn (call : BackendCall) {p : HandlerPhase} (past : p.holdsBody = false)
      (same : Exchange.stage { x with backendCall := call, handler := p } = .forwarding) :
      Advances x { x with backendCall := call, handler := p } [] :=
    advances_of_emits (Appends.refl x.log) (stage ▸ .silent) same (.inl alone.2) rfl past rfl
  cases next with
  | @failed failure =>
    obtain ⟨status, headers, appends⟩ := appends_respondFailure { x with backendCall := .dropped } failure
    exact ⟨_, advances_concluded appends (stage ▸ .failed) rfl (.inl rfl) alone rfl rfl rfl⟩
  | answered => exact ⟨_, goesOn .answered rfl rfl⟩
  | unanswered => exact ⟨_, goesOn .failed rfl rfl⟩
  | overdue => exact ⟨_, goesOn .dropped rfl rfl⟩

/-- The head of the backend's response is composed. -/
theorem advances_composed (phase : x.handler = .responding) (absent : x.tunnel = .absent) (response : Response)
    (head : ResponseHead) : ∃ events, Advances x { x.traceResponse response with handler := .composed head } events := by
  have stage : x.stage = .forwarding := by rw [Exchange.stage, phase]
  obtain ⟨complete, begun⟩ := appends_traceResponse x response
  obtain ⟨log, same⟩ := touches_traceResponse x response
  refine ⟨_, advances_of_emits begun ?_ rfl ?_ (TraceEvent.bodyEnds_replyBegins _ _) rfl ?_⟩
  · rw [TraceStage.stageKinds_replyBegins, stage]
    exact .replies _
  · rw [same]
    exact .inl absent
  · rw [same]

/-- The body is over, which leaves the head to come. -/
theorem advances_passEnded {head : ResponseHead} (phase : x.handler = .composed head)
    (alone : x.relaying = none ∧ x.tunnel = .absent) (response : Response) :
    ∃ events, Advances x (x.passEnded head response) events := by
  have stage : x.stage = .composed := by rw [Exchange.stage, phase]
  have held : (x.passEnded head response).handler = .heading head (.direct .empty) := rfl
  obtain ⟨_, _, _, _, same⟩ := touches_passEnded x head response
  have relaying : (x.passEnded head response).relaying = none := by
    rw [same]
    exact alone.1
  have follows : (x.passEnded head response).stage = .heading := by
    simp [Exchange.stage, held, relaying]
  have absent : (x.passEnded head response).Tunnelled := by
    rw [same]
    exact .inl alone.2
  have upload : (x.passEnded head response).upload = x.upload := by rw [same]
  rcases appends_passEnded x head response with traced | ended
  · exact ⟨_, advances_of_emits traced (stage ▸ .overtaken) follows absent rfl (by rw [held]; rfl) upload⟩
  · exact ⟨_, advances_of_emits ended (stage ▸ .ended) follows absent rfl (by rw [held]; rfl) upload⟩

/-- The head goes out, while the relay is at work or as the last thing of the response. -/
theorem advances_headed (tunnelled : x.Tunnelled) {head : ResponseHead} {body : ClientBody}
    (phase : x.handler = .heading head body) : ∃ events, Advances x (x.finishTraced head body) events := by
  have absent : x.tunnel = .absent := tunnelled.absent_of_handler (by simp [phase])
  have returned : (x.finishTraced head body).handler = .returned := rfl
  have still : (x.finishTraced head body).relaying = x.relaying := rfl
  have untunnelled : (x.finishTraced head body).tunnel = .absent := absent
  have goesOn {d : TraceStage} (emits : x.stage.Emits [.answerHeaded] d) (follows : (x.finishTraced head body).stage = d) :
      ∃ events, Advances x (x.finishTraced head body) events :=
    ⟨_, advances_of_emits (appends_finishTraced x head body) emits follows (.inl untunnelled) rfl rfl rfl⟩
  by_cases relaying : x.relaying = some true
  · have stage : x.stage = .relaying false := by simp [Exchange.stage, phase, relaying]
    have follows : (x.finishTraced head body).stage = .relaying true := by
      simp [Exchange.stage, returned, still, relaying]
    exact goesOn (stage ▸ .heads) follows
  · have stage : x.stage = .heading := by simp [Exchange.stage, phase, relaying]
    exact goesOn (stage ▸ .headed) (stage_eq_concluded (.inl rfl) relaying (.inl absent))

/-- What follows the backend's answer. -/
theorem advances_of_responds (tunnelled : x.Tunnelled) (sound : x.Sound) (next : Responds x y) :
    ∃ events, Advances x y events := by
  have alone {p : HandlerPhase} (phase : x.handler = p) (isOpen : p.isOpen = true) :
      x.relaying = none ∧ x.tunnel = .absent := sound.alone tunnelled (phase ▸ isOpen)
  cases next with
  | @failed response failure phase =>
    have stage : x.stage = .forwarding := by rw [Exchange.stage, phase]
    obtain ⟨status, headers, appends⟩ := appends_respondFailure (x.releaseResponse response) failure
    exact ⟨_, advances_concluded appends (stage ▸ .failed) rfl (.inl rfl) (alone phase rfl) rfl rfl rfl⟩
  | composed phase => exact advances_composed phase (alone phase rfl).2 _ _
  | ended phase => exact advances_passEnded phase (alone phase rfl) _
  | relayed phase =>
    have stage : x.stage = .composed := by rw [Exchange.stage, phase]
    exact ⟨_, advances_of_emits (Appends.refl x.log) (stage ▸ .relays) rfl (.inl (alone phase rfl).2) rfl rfl rfl⟩
  | headed phase => exact advances_headed tunnelled phase

/-- The answer to the websocket that was asked for. -/
theorem advances_answerSocket {key : HeaderValue} (phase : x.handler = .connecting key)
    (alone : x.relaying = none ∧ x.tunnel = .absent) (answer : SocketAnswer) :
    ∃ events, Advances x (x.answerSocket key answer) events := by
  have stage : x.stage = .connecting := by rw [Exchange.stage, phase]
  cases answer with
  | accepted protocol =>
    have headed := appends_finishTraced { x.complete with tunnel := .accepted }
    have idle : (x.answerSocket key (.accepted protocol)).relaying = none := alone.1
    have follows : (x.answerSocket key (.accepted protocol)).stage = .accepted := by
      show (if (x.answerSocket key (.accepted protocol)).relaying = some true then _ else TraceStage.accepted) = _
      rw [idle]
      rfl
    exact ⟨_, advances_of_emits (headed _ _) (stage ▸ .accepts) follows (.inr ⟨rfl, idle⟩) rfl rfl rfl⟩
  | refused status headers =>
    exact ⟨_, advances_concluded (appends_finishTraced x.complete _ _) (stage ▸ .socketRefused) rfl (.inl rfl) alone rfl
      rfl rfl⟩
  | failed cause => exact advances_failSocket (Appends.refl x.log) cause (stage ▸ .socketFailed) rfl alone rfl rfl rfl

theorem advances_stepHandler (tunnelled : x.Tunnelled) (sound : x.Sound) {now : Nat} (step : x.stepHandler now = some y) :
    ∃ events, Advances x y events := by
  have alone {p : HandlerPhase} (phase : x.handler = p) (isOpen : p.isOpen = true) :
      x.relaying = none ∧ x.tunnel = .absent := sound.alone tunnelled (phase ▸ isOpen)
  cases stepHandler_cases step with
  | @resolved head _ _ phase _ _ next =>
    obtain ⟨-, -, unloaded, -⟩ := sound.waiting (.inr (.inl phase))
    obtain ⟨events, goes⟩ := advances_of_resolves (x := { x with head }) phase (alone phase rfl) unloaded next
    exact ⟨events, goes.congr rfl rfl rfl rfl rfl⟩
  | forwarded phase next => exact advances_of_forwards phase (alone phase rfl) next
  | @failed cause phase =>
    have stage : x.stage = .forwarding := by rw [Exchange.stage, phase]
    exact advances_reject (appends_trace x (e := .forwardFailed cause) rfl) (stage ▸ .unanswered) rfl (alone phase rfl) rfl
      rfl rfl _
  | responded next => exact advances_of_responds tunnelled sound next
  | connected phase => exact advances_answerSocket phase (alone phase rfl) _

/-! ## Upload -/

/-- The upload has come to its end, which is traced once at most. -/
theorem advances_uploaded (tunnelled : x.Tunnelled) (appends : Appends x.log y.log events)
    (apart : TraceEvent.stageKinds events = []) (once : events.length ≤ 1) (owed : x.uploading = some true)
    (stopped : y.uploading = some false) (past : x.handler.holdsBody = false) (handler : y.handler = x.handler)
    (relaying : y.relaying = x.relaying) (tunnel : y.tunnel = x.tunnel) : Advances x y events where
  appends := appends
  emits := by
    rw [apart, stage_congr handler relaying tunnel]
    exact .silent
  tunnelled := by
    rw [Tunnelled, handler, relaying, tunnel]
    exact tunnelled
  begun := by
    intro idle
    rw [idle] at past
    cases past
  body := by
    have counted : TraceEvent.bodyEnds events ≤ events.length := by
      have most := List.countP_le_length (p := TraceEvent.Kind.endsBody) (l := events.map TraceEvent.kind)
      rwa [List.length_map] at most
    have some : x.owesBodyEnd = true := by simp [owesBodyEnd, owed]
    have none : y.owesBodyEnd = false := by simp [owesBodyEnd, handler, past, stopped]
    rw [some, none]
    exact Nat.le_trans counted once

theorem advances_endUpload (tunnelled : x.Tunnelled) (owed : x.uploading = some true) (past : x.handler.holdsBody = false)
    (t : Transfer) (result : PumpResult) : ∃ events, Advances x (x.endUpload t result) events := by
  have broken (cause : Cause) : Advances x (x.breakUpload t cause) [.requestFailed cause] :=
    advances_uploaded tunnelled (appends_trace { x with upload := some t.cancel, uploadError := some cause } rfl) rfl
      (Nat.le_refl 1) owed rfl past rfl rfl rfl
  cases result with
  | moved bytes =>
    have appends := appends_trace { x with upload := some t.close, bodyComplete := true } (e := .requestEnded bytes) rfl
    exact ⟨_, advances_uploaded tunnelled appends rfl (Nat.le_refl 1) owed rfl past rfl rfl rfl⟩
  | sinkClosed =>
    exact ⟨_, advances_uploaded tunnelled (Appends.refl x.log) rfl (Nat.zero_le 1) owed rfl past rfl rfl rfl⟩
  | sourceFailed cause => exact ⟨_, broken cause⟩
  | timedOut limit => exact ⟨_, broken (.receiveTimeout limit)⟩

theorem advances_moveUpload (tunnelled : x.Tunnelled) (sound : x.Sound) {now : Nat} (moves : UploadMoves x now y) :
    ∃ events, Advances x y events := by
  have owed {t : Transfer} (upload : x.upload = some t) (running : t.running = true) : x.uploading = some true := by
    simp [uploading, upload, running]
  have past {t : Transfer} (upload : x.upload = some t) : x.handler.holdsBody = false := by
    cases phase : x.handler with
    | idle | resolving =>
      obtain ⟨-, -, unloaded, -⟩ := sound.waiting (by simp [phase])
      rw [upload] at unloaded
      cases unloaded
    | _ => rfl
  cases moves with
  | records => exact ⟨_, advances_silent tunnelled rfl rfl rfl rfl rfl⟩
  | cancels upload running =>
    exact ⟨_, advances_uploaded tunnelled (Appends.refl x.log) rfl (Nat.zero_le 1) (owed upload running) rfl (past upload) rfl
      rfl rfl⟩
  | goesOn upload => exact ⟨_, advances_silent tunnelled rfl rfl rfl rfl (by simp [uploading, upload])⟩
  | ends upload running => exact advances_endUpload tunnelled (owed upload running) (past upload) _ _

/-! ## Relay -/

/-- The relay stops, and the head is out or still to come. -/
theorem advances_relayEnded {reports : List Observation} (tunnelled : x.Tunnelled) (head : x.HeadStands .relayed reports)
    (running : x.relaying = some true) (appends : Appends x.log z.log events)
    (ends : TraceStage.RelayEnds (TraceEvent.stageKinds events)) (unended : TraceEvent.bodyEnds events = 0)
    (handler : z.handler = x.handler) (stopped : z.relaying = some false) (tunnel : z.tunnel = x.tunnel)
    (upload : z.upload = x.upload) : Advances x z events := by
  have absent : x.tunnel = .absent := tunnelled.absent_of_relaying running
  have atWork := (stage_of_headStands head absent).1 running
  have past : z.handler.holdsBody = false := by
    rw [handler]
    rcases head.phase with returned | ⟨_, held⟩
    · rw [returned]; rfl
    · rw [held]; rfl
  have follows : z.stage = .relayed (decide (x.handler = .returned)) := by
    rcases head.phase with returned | ⟨_, held⟩
    · simp [Exchange.stage, handler, returned, stopped, tunnel, absent, TraceStage.relayed]
    · simp [Exchange.stage, handler, held, stopped, TraceStage.relayed]
  exact advances_of_emits appends (atWork ▸ .relayEnded _ ends) follows (.inl (tunnel.trans absent)) unended past upload

/-- The relay reports a failure that was recorded, after it has traced why it stops. -/
theorem advances_abandon (tunnelled : x.Tunnelled) (head : x.HeadStands .relayed []) (running : x.relaying = some true)
    (appends : Appends x.log z.log events) {failure : Rejection}
    (ends : TraceStage.RelayEnds (TraceEvent.stageKinds events ++ [.answerFailed]))
    (unended : TraceEvent.bodyEnds events = 0) (failed : z.guard.outcome = some (.failed failure))
    (handler : z.handler = x.handler) (stopped : z.relaying = some false) (tunnel : z.tunnel = x.tunnel)
    (upload : z.upload = x.upload) : ∃ events, Advances x z.abandon events := by
  have abandoned := appends_abandon (Guard.failure_eq_some_iff.2 failed)
  obtain ⟨_, same⟩ := touches_abandon z
  rw [same] at abandoned ⊢
  refine ⟨_, advances_relayEnded tunnelled head running (appends.trans abandoned) ?_ ?_ handler stopped tunnel upload⟩
  · rw [TraceEvent.stageKinds_append]
    exact ends
  · rw [TraceEvent.bodyEnds_append, unended]
    rfl

theorem advances_endRelay (tunnelled : x.Tunnelled) (head : x.HeadStands .relayed []) (running : x.relaying = some true)
    (unended : x.guard.outcome ≠ some .completed) (t : Transfer) (result : PumpResult) :
    ∃ events, Advances x (x.endRelay t result) events := by
  have broken (e : TraceEvent) (unreported : e.failure? = none) (bodyless : TraceEvent.bodyEnds [e] = 0)
      (failure : Rejection) (ends : TraceStage.RelayEnds (TraceEvent.stageKinds [e] ++ [.answerFailed])) :
      ∃ events, Advances x ((x.trace e).failRelay t failure) events := by
    obtain ⟨recorded, failed⟩ := Guard.exists_failure_fail unended failure
    exact advances_abandon (z := { (x.trace e).fail failure with relay := some t.cancel }) tunnelled head running
      (appends_trace x unreported) ends bodyless failed rfl rfl rfl rfl
  cases result with
  | moved bytes =>
    have traced := appends_trace x (e := .responseEnded bytes) rfl
    unfold endRelay
    dsimp only
    split
    -- a failure was recorded after the relay's last look
    · rename_i terminated
      obtain ⟨failure, failed⟩ := Guard.exists_failure unended terminated
      exact advances_abandon (z := { x.trace (.responseEnded bytes) with relay := some t.cancel }) tunnelled head running
        traced .overtaken rfl failed rfl rfl rfl rfl
    · have ended := traced.trans
        (appends_trace { (x.trace (.responseEnded bytes)).complete with relay := some t.close } (e := .answerEnded) rfl)
      exact ⟨_, advances_relayEnded tunnelled head running ended .moved rfl rfl rfl rfl rfl⟩
  | sinkClosed => exact broken .clientLeft rfl rfl .clientLeft .clientLeft
  | sourceFailed cause => exact broken (.responseFailed cause) rfl rfl (.responseBody cause) .brokenOff
  | timedOut limit =>
    exact broken (.responseFailed (.receiveTimeout limit)) rfl rfl (.responseBody (.receiveTimeout limit)) .brokenOff

theorem advances_moveRelay (tunnelled : x.Tunnelled) (sound : x.Sound) {now : Nat} (moves : RelayMoves x now y) :
    ∃ events, Advances x y events := by
  have atWork {t : Transfer} (relay : x.relay = some t) (running : t.running = true) : x.relaying = some true := by
    simp [relaying, relay, running]
  cases moves with
  | @cancels t _ relay running recorded =>
    have failed := sound.signalled.awaitFailure_eq_some_iff.1 recorded
    exact advances_abandon (z := { x with relay := some t.cancel }) tunnelled (sound.streaming relay running).1
      (atWork relay running) (Appends.refl x.log) .cancelled rfl failed rfl rfl rfl rfl
  | goesOn relay => exact ⟨_, advances_silent tunnelled rfl rfl (by simp [relaying, relay]) rfl rfl⟩
  | ends relay running =>
    obtain ⟨head, unended⟩ := sound.streaming relay running
    exact advances_endRelay tunnelled head (atWork relay running) unended _ _

/-! ## Tunnel -/

/-- A tunnel that waits or is open is all that is left. -/
theorem Tunnelled.of_tunnel (h : x.Tunnelled) (there : x.tunnel ≠ .absent) : x.handler = .returned ∧ x.relaying = none :=
  h.resolve_left there

/-- The tunnel is over. -/
theorem advances_tunnelOver (handler : x.handler = .returned) (relaying : x.relaying = none) {e : TraceEvent}
    (unreported : e.failure? = none) (unended : TraceEvent.bodyEnds [e] = 0)
    (emits : x.stage.Emits (TraceEvent.stageKinds [e]) .concluded) :
    Advances x ({ x with tunnel := .over }.trace e) [e] := by
  have idle : Exchange.relaying ({ x with tunnel := .over }.trace e) = none := relaying
  have past : x.handler.holdsBody = false := by rw [handler]; rfl
  exact advances_of_emits (appends_trace { x with tunnel := .over } unreported) emits
    (stage_eq_concluded (.inl handler) (by simp [idle]) (.inr rfl)) (.inr ⟨handler, idle⟩) unended past rfl

theorem advances_stepTunnel (tunnelled : x.Tunnelled) (step : x.stepTunnel = some y) : ∃ events, Advances x y events := by
  have accepted (tunnel : x.tunnel = .accepted) :
      x.handler = .returned ∧ x.relaying = none ∧ x.stage = .accepted := by
    obtain ⟨handler, relaying⟩ := tunnelled.of_tunnel (by simp [tunnel])
    exact ⟨handler, relaying, by simp [stage, handler, relaying, tunnel]⟩
  unfold stepTunnel at step
  split at step
  · rename_i tunnel _
    obtain ⟨handler, relaying, stage⟩ := accepted tunnel
    cases step
    have past : x.handler.holdsBody = false := by rw [handler]; rfl
    have idle : Exchange.relaying ({ x with tunnel := .opened }.trace .tunnelOpened) = none := relaying
    have returned : Exchange.handler ({ x with tunnel := .opened }.trace .tunnelOpened) = .returned := handler
    have opened : Exchange.tunnel ({ x with tunnel := .opened }.trace .tunnelOpened) = .opened := rfl
    have follows : Exchange.stage ({ x with tunnel := .opened }.trace .tunnelOpened) = .tunnelling := by
      simp [Exchange.stage, returned, idle, opened]
    exact ⟨_, advances_of_emits (appends_trace { x with tunnel := .opened } rfl) (stage ▸ .opened) follows
      (.inr ⟨returned, idle⟩) rfl past rfl⟩
  · rename_i detail tunnel _
    obtain ⟨handler, relaying, stage⟩ := accepted tunnel
    cases step
    exact ⟨_, advances_tunnelOver handler relaying rfl rfl (stage ▸ .unopened)⟩
  · cases step

theorem advances_endTunnel (tunnelled : x.Tunnelled) (result : Except Cause Unit) :
    ∃ events, Advances x (x.endTunnel result) events := by
  unfold endTunnel
  split
  · rename_i tunnel
    obtain ⟨handler, relaying⟩ := tunnelled.of_tunnel (by simp [tunnel])
    have stage : x.stage = .tunnelling := by simp [Exchange.stage, handler, relaying, tunnel]
    cases result with
    | ok => exact ⟨_, advances_tunnelOver handler relaying rfl rfl (stage ▸ .closed)⟩
    | error cause => exact ⟨_, advances_tunnelOver handler relaying rfl rfl (stage ▸ .torn)⟩
  · exact ⟨_, advances_silent tunnelled rfl rfl rfl rfl rfl⟩

/-! ## Runs -/

/-- Every event traces what the stage of the exchange allows. -/
theorem Step.advances {e : Event} (tunnelled : x.Tunnelled) (sound : x.Sound) (step : Step x e y) :
    ∃ events, Advances x y events := by
  cases step with
  | arrive ids idle => exact advances_arrive tunnelled idle ids
  | pushRequest item => exact ⟨_, advances_pushRequest tunnelled item⟩
  | clientRead hy => exact ⟨_, advances_clientRead tunnelled hy⟩
  | leave hy =>
    unfold dropClient at hy
    split at hy
    · rename_i waiting
      cases hy
      exact advances_dropHandler tunnelled sound waiting
    · exact ⟨_, advances_dropResponse tunnelled hy⟩
  | allow hy =>
    obtain rfl := touches_allowResolve hy
    exact ⟨_, advances_silent tunnelled rfl rfl rfl rfl rfl⟩
  | backendRead hy => exact ⟨_, advances_backendRead tunnelled hy⟩
  | backendDrop hy => exact ⟨_, advances_backendDropBody tunnelled hy⟩
  | answer hy =>
    obtain rfl := touches_answerBackend hy
    exact ⟨_, advances_silent tunnelled rfl rfl rfl rfl rfl⟩
  | pushResponse item => exact ⟨_, advances_pushResponse tunnelled item⟩
  | answerSocket answer | giveConnection takeover => exact ⟨_, advances_silent tunnelled rfl rfl rfl rfl rfl⟩
  | endTunnel result => exact advances_endTunnel tunnelled result
  | handler hy => exact advances_stepHandler tunnelled sound hy
  | upload hy => exact advances_moveUpload tunnelled sound (uploadMoves_of_stepUpload hy)
  | moveUpload hy => exact advances_moveUpload tunnelled sound (uploadMoves_of_moveUpload hy)
  | relay hy => exact advances_moveRelay tunnelled sound (relayMoves_of_stepRelay hy)
  | moveRelay hy => exact advances_moveRelay tunnelled sound (relayMoves_of_moveRelay hy)
  | tunnel hy => exact advances_stepTunnel tunnelled hy

/-- What was traced of an exchange. -/
structure Traced (x : Exchange) : Prop where
  tunnelled : x.Tunnelled
  emitted : x.stage.Emitted x.stageKinds
  begins : (x.handler = .idle ∧ x.kinds = []) ∨ ∃ rest, x.kinds = .requestStarted :: rest
  body : TraceEvent.bodyEnds x.traces + x.owesBodyEnd.toNat ≤ 1
  abandonments : x.abandonments = x.traces.filterMap TraceEvent.failure?

theorem Advances.traces (goes : Advances x y events) : y.traces = x.traces ++ events := goes.appends.traces

theorem Advances.kinds (goes : Advances x y events) : y.kinds = x.kinds ++ events.map TraceEvent.kind := by
  rw [Exchange.kinds, goes.traces, List.map_append]
  rfl

theorem Advances.stageKinds (goes : Advances x y events) :
    y.stageKinds = x.stageKinds ++ TraceEvent.stageKinds events := by
  rw [Exchange.stageKinds, goes.traces, TraceEvent.stageKinds_append]
  rfl

theorem Traced.advances (traced : x.Traced) (goes : Advances x y events) : y.Traced where
  tunnelled := goes.tunnelled
  emitted := by
    rw [goes.stageKinds]
    exact .snoc traced.emitted goes.emits
  begins := by
    rcases traced.begins with ⟨idle, none⟩ | ⟨rest, first⟩
    · have all : TraceEvent.stageKinds events = events.map TraceEvent.kind :=
        List.filter_eq_self.2 fun k hk => by simpa using List.countP_eq_zero.1 (goes.begun idle) k hk
      have emits := goes.emits
      rw [all, stage_eq_unbegun_iff.2 idle] at emits
      rw [goes.kinds, none]
      generalize hd : y.stage = d at emits
      generalize events.map TraceEvent.kind = ks at emits
      cases emits with
      | silent => exact .inl ⟨stage_eq_unbegun_iff.1 hd, rfl⟩
      | arrived => exact .inr ⟨[], rfl⟩
      | deserted waits => simp at waits
    · exact .inr ⟨rest ++ events.map TraceEvent.kind, by rw [goes.kinds, first, List.cons_append]⟩
  body := by
    have before := traced.body
    have news := goes.body
    rw [goes.traces, TraceEvent.bodyEnds_append]
    omega
  abandonments := by
    rw [Exchange.abandonments, goes.appends.abandonments, goes.traces, List.filterMap_append]
    exact congrArg (· ++ _) traced.abandonments

theorem Fresh.traced (h : x.Fresh) : x.Traced := by
  obtain ⟨profile, resolver, head, tls, client, inbound, ready, answer, socket, takeover, rfl⟩ := h
  exact ⟨.inl rfl, .nil, .inl ⟨rfl, rfl⟩, Nat.le_refl 1, rfl⟩

/-- What every run has traced. -/
theorem Run.traced {start : Exchange} {es : List Event} (run : Run start es x) (fresh : start.Fresh) : x.Traced := by
  have reached : x.Sound ∧ x.Traced := by
    refine run.invariant (I := fun _ x => x.Sound ∧ x.Traced) ⟨fresh.sound, fresh.traced⟩ ?_
    rintro es x e y ⟨sound, traced⟩ step
    obtain ⟨events, goes⟩ := step.advances traced.tunnelled sound
    exact ⟨sound.step step, traced.advances goes⟩
  exact reached.2

end Exchange

end Gateway
