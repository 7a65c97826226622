import Gateway.Proofs.Gate.Calls
import Gateway.Proofs.Gate.Sendable

/-!
# What comes of a request

What keeps a request from the backend is looked at in an order: the answer of the resolver, the host the request names,
the key of a websocket it asks for, the target. `Resolution.verdict` is this order, said of the request and the
resolver's answer alone; `CameTo` is what can be seen of each verdict.
-/

namespace Gateway

/-! ## Verdicts -/

/-- What comes of a request. -/
inductive Verdict where
  /-- the client left before the resolver's answer was taken -/
  | left
  /-- the resolver has answered it -/
  | answered (response : Response)
  | rejected (failure : Rejection)
  /-- it asks for a websocket that the target cannot be asked for -/
  | socketless (cause : Cause)
  /-- the target is asked for a websocket -/
  | socket (target : Target)
  /-- the target is sent the request -/
  | plain (target : Target)
deriving DecidableEq

/-- Whether no backend is called. -/
def Verdict.bars : Verdict → Bool
  | left | answered _ | rejected _ | socketless _ => true
  | socket _ | plain _ => false

/-- Whether a request asks for a websocket. Over HTTP/2 none does. -/
def RequestHead.asksForSocket (r : RequestHead) : Bool := decide (r.version ≠ .http2) && r.headers.asksForWebSocket

/-- What comes of a request for a target: the first that applies. -/
def RequestHead.verdict (r : RequestHead) (target : Target) : Verdict :=
  if r.namesHost = false then .rejected ⟨400, .host, none⟩
  else if r.asksForSocket then
    if r.headers.get? .secWebSocketKey = none then .rejected ⟨400, .incomingRequest, some .noWebSocketKey⟩
    else
      match target.flaw? "ws" with
      | some cause => .socketless cause
      | none => .socket target
  else
    match target.flaw? "http" with
    | some cause => .rejected ⟨502, .outgoingRequest, some cause⟩
    | none => .plain target

/-- What comes of a request that was resolved. The version is the one the request came with. -/
def Resolution.verdict (resolution : Resolution) (version : Version) : Verdict :=
  match resolution.hop with
  | .error failure => .rejected failure
  | .ok (.answered response) => .answered response
  | .ok (.forward target) => { resolution.head with version }.verdict target

namespace RequestHead

variable {r : RequestHead} {target : Target}

theorem verdict_of_hostless (h : r.namesHost = false) : r.verdict target = .rejected ⟨400, .host, none⟩ := if_pos h

theorem verdict_of_keyless (named : r.namesHost = true) (socket : r.asksForSocket = true)
    (unkeyed : r.headers.get? .secWebSocketKey = none) :
    r.verdict target = .rejected ⟨400, .incomingRequest, some .noWebSocketKey⟩ := by
  rw [verdict, if_neg (by simp [named]), if_pos socket, if_pos unkeyed]

theorem verdict_of_keyed (named : r.namesHost = true) (socket : r.asksForSocket = true)
    {key : HeaderValue} (keyed : r.headers.get? .secWebSocketKey = some key) :
    r.verdict target = match target.flaw? "ws" with
      | some cause => .socketless cause
      | none => .socket target := by
  rw [verdict, if_neg (by simp [named]), if_pos socket, if_neg (by simp [keyed])]

theorem verdict_of_plain (named : r.namesHost = true) (plain : r.asksForSocket = false) :
    r.verdict target = match target.flaw? "http" with
      | some cause => .rejected ⟨502, .outgoingRequest, some cause⟩
      | none => .plain target := by
  rw [verdict, if_neg (by simp [named]), if_neg (by simp [plain])]

end RequestHead

namespace Exchange

variable {x y : Exchange}

/-! ## What can be seen of a verdict -/

/-- A request that got to no backend: how it ended, and all that was answered and reported. Nothing goes on. -/
structure Turned (x : Exchange) (phase : HandlerPhase) (outcome : Outcome) (milestones : List Observation) : Prop where
  handler : x.handler = phase
  upload : x.upload = none
  relaying : x.relaying = none
  calls : x.calls = []
  outcome : x.guard.outcome = some outcome
  milestones : x.milestones = milestones

/-- What an exchange came to. -/
def CameTo (x : Exchange) : Verdict → Prop
  | .left => x.Turned .dropped (.failed .clientLeft) [.abandoned .clientLeft]
  | .answered response =>
    x.Turned .returned .completed [.answered
      (headWith response (finishHeaders x.profile.idle x.context response.head.headers)) response.body.isEnded
      response.body.exactLength]
  | .rejected failure => x.Turned .returned (.failed failure) [.pageAsked failure, x.pageAnswer failure]
  | .socketless cause =>
    ∃ head : ResponseHead, head.status = .badGateway ∧ head.headers.values .contentLength = [.zero]
      ∧ x.Turned .returned (.failed ⟨502, .outgoingRequest, some cause⟩) [.answered head true (some 0)]
  | .socket target => ∃ headers, x.calls = [.socketAsked target headers]
  | .plain target => ∃ head ended length, target.absoluteUri "http" = .ok head.uri ∧ x.calls = [.forwarded head ended length]

theorem CameTo.calls_eq_nil_iff {v : Verdict} (h : x.CameTo v) : x.calls = [] ↔ v.bars = true := by
  cases v with
  | left | answered response | rejected failure => exact iff_of_true h.calls rfl
  | socketless cause =>
    obtain ⟨head, -, -, turned⟩ := h
    exact iff_of_true turned.calls rfl
  | socket target =>
    obtain ⟨headers, calls⟩ := h
    exact iff_of_false (by simp [calls]) Bool.false_ne_true
  | plain target =>
    obtain ⟨head, ended, length, -, calls⟩ := h
    exact iff_of_false (by simp [calls]) Bool.false_ne_true

theorem CameTo.calls_le_one {v : Verdict} (h : x.CameTo v) : x.calls.length ≤ 1 := by
  cases v with
  | left | answered response | rejected failure => simp [h.calls]
  | socketless cause =>
    obtain ⟨head, -, -, turned⟩ := h
    simp [turned.calls]
  | socket target =>
    obtain ⟨headers, calls⟩ := h
    simp [calls]
  | plain target =>
    obtain ⟨head, ended, length, -, calls⟩ := h
    simp [calls]

/-! ## Ways to turn a request away -/

/-- Before the resolver's answer is taken: nothing was asked of anybody, and no part is at work but the handler. -/
structure Uncalled (x : Exchange) : Prop extends Unanswered x where
  upload : x.upload = none
  calls : x.calls = []
  unset : x.guard.outcome = none

namespace Uncalled

/-- What the handler observes of the resolver's answer and of a failure changes nothing of that. -/
theorem trace (h : x.Uncalled) {e : TraceEvent} (he : e ≠ .answerEnded) : (x.trace e).Uncalled where
  toUnanswered := h.toUnanswered.trace he
  upload := h.upload
  calls := (calls_trace x e).trans h.calls
  unset := h.unset

theorem reject (h : x.Uncalled) (failure : Rejection) : (x.reject failure).CameTo (.rejected failure) := by
  have failed := outcome_fail_of_unset h.unset failure
  -- nothing failed before, so the page is about this failure
  have recorded : (x.fail failure).guard.failure = some failure := Guard.failure_eq_some_iff.2 failed
  have same : x.reject failure = (x.fail failure).respondFailure failure := by
    unfold Exchange.reject
    simp only [recorded, Option.getD_some]
  rw [same]
  refine ⟨rfl, h.upload, h.relaying, (calls_respondFailure _ _).trans h.calls, failed, ?_⟩
  have before : (x.fail failure).milestones = [] := h.milestones
  unfold respondFailure finishTraced
  dsimp only
  rw [milestones_finish_direct, milestones_trace, milestones_observe_pageAsked, before]
  rfl

theorem finish (h : x.Uncalled) (response : Response) :
    (x.complete.finish (headWith response (finishHeaders x.profile.idle x.context response.head.headers))
      (.direct response.body)).CameTo (.answered response) := by
  refine ⟨rfl, h.upload, h.relaying, (calls_finish _ _ _).trans h.calls, outcome_complete_of_unset h.unset, ?_⟩
  rw [milestones_finish_direct, show x.complete.milestones = [] from h.milestones]
  rfl

theorem failSocket (h : x.Uncalled) (cause : Cause) : (x.failSocket cause).CameTo (.socketless cause) := by
  refine ⟨headWith (.bodiless .badGateway) (failedSocketHeaders x.profile.idle x.context), rfl, ?_, rfl, h.upload,
    h.relaying, (calls_failSocket x cause).trans h.calls,
    outcome_fail_of_unset (x := x.trace (.socketFailed cause)) h.unset _, ?_⟩
  · show (failedSocketHeaders x.profile.idle x.context).values .contentLength = _
    rw [failedSocketHeaders, Headers.values_stampId_of_ne _ _ (by decide),
      Headers.values_keepOpen_of_ne _ _ (by decide) (by decide), Headers.values_insert, if_pos rfl]
  · have before : ((x.trace (.socketFailed cause)).fail (.backend cause)).milestones = [] :=
      (milestones_trace x (.socketFailed cause)).trans h.milestones
    unfold Exchange.failSocket finishTraced
    dsimp only
    rw [milestones_finish_direct, milestones_trace, before]
    rfl

/-- With nobody to answer, the failure is reported. -/
theorem abandon (h : x.Uncalled) (failure : Rejection) :
    (x.fail failure).abandon.Turned x.handler (.failed failure) [.abandoned failure] := by
  have failed := outcome_fail_of_unset h.unset failure
  have before : (x.fail failure).milestones = [] := h.milestones
  have calls : (x.fail failure).abandon.calls = x.calls := calls_abandon (x.fail failure)
  unfold Exchange.abandon at calls ⊢
  rw [Guard.failure_eq_some_iff.2 failed] at calls ⊢
  refine ⟨rfl, h.upload, h.relaying, calls.trans h.calls, failed, ?_⟩
  rw [milestones_observe_abandoned, milestones_trace, before]
  rfl

theorem dropHandler (h : x.Uncalled) : x.dropHandler.CameTo .left := by
  have dropped (call : BackendCall) :
      Uncalled { x with handler := .dropped, inbound := x.inbound.release, backendCall := call } :=
    { h with toUnanswered := h.congr rfl rfl rfl rfl }
  exact ((dropped _).trace (e := .clientLeft) (by simp)).abandon .clientLeft

end Uncalled

/-! ## Ways to call a backend -/

theorem calls_awaitSocket (x : Exchange) (target : Target) (uri : Uri) (headers : Headers) (key : HeaderValue) :
    Exchange.calls { (x.trace (.socketStarted uri headers)).observe (.socketAsked target headers) with
      handler := .connecting key } = x.calls ++ [.socketAsked target headers] := by
  rw [← calls_trace x (.socketStarted uri headers)]
  exact List.filter_append ..

theorem calls_send (x : Exchange) (now : Nat) (head : RequestHead) :
    (x.send now head).calls = x.calls ++ [.forwarded head x.backendView.1 x.backendView.2] := by
  rw [← calls_trace x (.forwardStarted head.method head.uri head.headers)]
  exact List.filter_append ..

/-! ## The resolver's answer -/

/-- For a target, the handler does what the verdict says. -/
theorem cameTo_of_forward {client : SocketAddress} (h : x.Uncalled) (legal : x.head.uri.AuthorityLegal)
    (address : x.context.clientHost = client.clientHost) {target : Target} {now : Nat}
    (next : Resolves x now (.ok (.forward target)) y) :
    y.CameTo ({ x.head with version := x.context.version }.verdict target) := by
  have resolved := h.trace (e := .hopResolved target) (by simp)
  have names {host : String} (hosted : requestedHost? x.context x.head = some host) :
      RequestHead.namesHost { x.head with version := x.context.version } = true := by
    -- the version plays no part in whether there is a host
    show x.head.namesHost = true
    rw [← requestedHost?_isSome x.context, hosted]
    rfl
  have socket : RequestHead.asksForSocket { x.head with version := x.context.version } = x.wantsSocket := by
    have http2 : decide (x.context.version ≠ .http2) = !x.context.isHttp2 := by
      rw [Context.isHttp2]
      cases x.context.version <;> rfl
    rw [RequestHead.asksForSocket, wantsSocket, http2]
  -- a row of the verdict for each way the handler can go on
  cases next with
  | hostless _ unhosted =>
    have unnamed : RequestHead.namesHost { x.head with version := x.context.version } = false := by
      show x.head.namesHost = false
      rw [← requestedHost?_isSome x.context, unhosted]
      rfl
    rw [RequestHead.verdict_of_hostless unnamed]
    exact resolved.reject .noHost
  | keyless _ hosted wants unkeyed =>
    rw [RequestHead.verdict_of_keyless (names hosted) (socket.trans wants) unkeyed]
    exact resolved.reject .noKey
  | socketFailed _ hosted wants keyed outbound =>
    rw [RequestHead.verdict_of_keyed (names hosted) (socket.trans wants) keyed, flaw?_eq legal address hosted, outbound]
    exact resolved.failSocket _
  | @socketAsked _ _ _ uri headers hosted wants keyed outbound =>
    rw [RequestHead.verdict_of_keyed (names hosted) (socket.trans wants) keyed, flaw?_eq legal address hosted, outbound]
    have called := calls_awaitSocket (x.trace (.hopResolved target)) target uri headers
    simp only [resolved.calls, List.nil_append] at called
    exact ⟨headers, called _⟩
  | @unsendable _ _ cause hosted plain outbound =>
    rw [RequestHead.verdict_of_plain (names hosted) (socket.trans plain), flaw?_eq legal address hosted, outbound]
    exact (resolved.trace (e := .forwardFailed cause) (by simp)).reject (.backend cause)
  | @sent _ _ uri headers hosted plain outbound =>
    rw [RequestHead.verdict_of_plain (names hosted) (socket.trans plain), flaw?_eq legal address hosted, outbound]
    have called := calls_send ((x.trace (.hopResolved target)).handOver headers).1 now
    simp only [calls_handOver, resolved.calls, List.nil_append] at called
    exact ⟨_, _, _, absoluteUri_of_outboundHead outbound, called _⟩

/-- What the handler does with the resolver's answer is what the verdict says. -/
theorem cameTo_of_resolves {client : SocketAddress} (h : x.Uncalled) (legal : x.head.uri.AuthorityLegal)
    (address : x.context.clientHost = client.clientHost) {hop : Except Rejection NextHop} {now : Nat}
    (next : Resolves x now hop y) : y.CameTo (Resolution.verdict ⟨x.head, hop⟩ x.context.version) := by
  match hop with
  | .error failure =>
    cases next
    exact h.reject failure
  | .ok (.answered response) =>
    cases next
    exact h.finish response
  | .ok (.forward target) => exact cameTo_of_forward h legal address next

end Exchange

end Gateway
