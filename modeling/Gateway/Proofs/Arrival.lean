import Gateway.Proofs.Answers

/-!
# What a request arrived with

An exchange is begun once, by the arrival of its request. Its context is fixed then, and its head is what the client sent
and the request id until the resolver has answered. No event changes that (`Keeps`), the arrival and the steps of the
handler apart; `Run.known` says what it comes to after any run.
-/

namespace Gateway

/-- What an exchange goes by, other than the answers of its neighbours. -/
structure Premises where
  profile : Profile
  resolver : Resolver
  context : Context
  head : RequestHead
  expectsContinue : Bool

/-- Whether a handler in this phase has left the resolver behind; over HTTP/2 it asks for no websocket then. -/
def HandlerPhase.isPast (http2 : Bool) : HandlerPhase → Bool
  | idle | resolving => false
  | connecting _ => !http2
  | _ => true

namespace Exchange

variable {x y start : Exchange}

/-- What this exchange goes by. -/
def premises (x : Exchange) : Premises where
  profile := x.profile
  resolver := x.resolver
  context := x.context
  head := x.head
  expectsContinue := x.expectsContinue

/-! ## What keeps the premises -/

/-- The exchange goes by the same as before, and its handler stands where it stood. -/
structure Keeps (x y : Exchange) : Prop where
  premises : y.premises = x.premises
  handler : y.handler = x.handler

theorem keeps_pushRequest (x : Exchange) (item : Item) : Keeps x (x.pushRequest item) := by
  obtain ⟨_, _, same⟩ := touches_pushRequest x item
  rw [same]
  exact ⟨rfl, rfl⟩

theorem keeps_clientRead {item : Option Item} (h : x.clientRead = some (item, y)) : Keeps x y := by
  obtain ⟨_, _, rfl⟩ := touches_clientRead h
  exact ⟨rfl, rfl⟩

theorem keeps_dropResponse (h : x.dropResponse = some y) : Keeps x y := by
  obtain ⟨_, _, rfl⟩ := touches_dropResponse h
  exact ⟨rfl, rfl⟩

theorem keeps_allowResolve (h : x.allowResolve = some y) : Keeps x y := by
  obtain rfl := touches_allowResolve h
  exact ⟨rfl, rfl⟩

theorem keeps_backendRead {item : Option Item} (h : x.backendRead = some (item, y)) : Keeps x y := by
  obtain ⟨_, _, rfl⟩ := touches_backendRead h
  exact ⟨rfl, rfl⟩

theorem keeps_backendDropBody (h : x.backendDropBody = some y) : Keeps x y := by
  obtain ⟨_, _, rfl⟩ := touches_backendDropBody h
  exact ⟨rfl, rfl⟩

theorem keeps_answerBackend {answer : Except Cause Response} (h : x.answerBackend answer = some y) : Keeps x y := by
  obtain rfl := touches_answerBackend h
  exact ⟨rfl, rfl⟩

theorem keeps_pushResponse (x : Exchange) (item : Item) : Keeps x (x.pushResponse item) := by
  obtain ⟨_, _, _, same⟩ := touches_pushResponse x item
  rw [same]
  exact ⟨rfl, rfl⟩

theorem keeps_endTunnel (x : Exchange) (result : Except Cause Unit) : Keeps x (x.endTunnel result) := by
  obtain ⟨_, _, same⟩ := touches_endTunnel x result
  rw [same]
  exact ⟨rfl, rfl⟩

theorem keeps_stepTunnel (h : x.stepTunnel = some y) : Keeps x y := by
  obtain ⟨_, _, rfl⟩ := touches_stepTunnel h
  exact ⟨rfl, rfl⟩

theorem UploadMoves.keeps {now : Nat} (moves : UploadMoves x now y) : Keeps x y := by
  obtain ⟨_, _, _, _, _, rfl⟩ := moves.touches
  exact ⟨rfl, rfl⟩

theorem RelayMoves.keeps {now : Nat} (moves : RelayMoves x now y) : Keeps x y := by
  obtain ⟨_, _, _, rfl⟩ := moves.touches
  exact ⟨rfl, rfl⟩

/-! ## What the handler changes -/

/-- The handler went on from the resolver, or from what it waited for after it. The fields of the request may be the
resolver's now. -/
structure GoesOn (x y : Exchange) : Prop where
  premises : ∃ head, y.premises = { x.premises with head }
  past : y.handler.isPast x.context.isHttp2 = true

theorem premises_handOver (x : Exchange) (headers : Headers) : (x.handOver headers).1.premises = x.premises := by
  obtain ⟨_, _, _, _, _, same⟩ := touches_handOver x headers
  rw [same]
  rfl

theorem premises_traceResponse (x : Exchange) (response : Response) :
    (x.traceResponse response).premises = x.premises := by
  obtain ⟨_, same⟩ := touches_traceResponse x response
  rw [same]
  rfl

theorem premises_passEnded (x : Exchange) (head : ResponseHead) (response : Response) :
    (x.passEnded head response).premises = x.premises := by
  obtain ⟨_, _, _, _, same⟩ := touches_passEnded x head response
  rw [same]
  rfl

theorem premises_send (x : Exchange) (now : Nat) (head : RequestHead) : (x.send now head).premises = x.premises := rfl

theorem goesOn_stepHandler {now : Nat} (step : x.stepHandler now = some y) : GoesOn x y := by
  cases stepHandler_cases step with
  | @resolved resolved _ _ _ _ _ next =>
    cases next with
    | refused | answered | hostless | keyless | socketFailed | unsendable => exact ⟨⟨_, rfl⟩, rfl⟩
    | socketAsked target _ socket => exact ⟨⟨_, rfl⟩, (Bool.and_eq_true_iff.1 socket).1⟩
    | @sent target _ _ headers =>
      have handed := premises_handOver (trace { x with head := resolved } (.hopResolved target)) headers
      exact ⟨⟨_, (premises_send _ _ _).trans handed⟩, rfl⟩
  | forwarded _ next => cases next <;> exact ⟨⟨_, rfl⟩, rfl⟩
  | failed => exact ⟨⟨_, rfl⟩, rfl⟩
  | responded next =>
    cases next with
    | failed | relayed | headed => exact ⟨⟨_, rfl⟩, rfl⟩
    | composed => exact ⟨⟨x.head, premises_traceResponse x _⟩, rfl⟩
    | ended => exact ⟨⟨x.head, premises_passEnded x _ _⟩, rfl⟩
  | @connected key answer => cases answer <;> exact ⟨⟨_, rfl⟩, rfl⟩

theorem goesOn_dropHandler (x : Exchange) : GoesOn x x.dropHandler := by
  obtain ⟨_, _, _, _, same⟩ := touches_dropHandler x
  rw [same]
  exact ⟨⟨x.head, rfl⟩, rfl⟩

/-! ## Events -/

/-- What an event means for what an exchange goes by: the request arrives, nothing changes, or the handler goes on. -/
inductive Passage (x : Exchange) : Event → Exchange → Prop where
  | arrived (ids : RequestIds) (idle : x.handler = .idle) : Passage x (.arrived ids) (x.arrive ids).1
  | kept {e : Event} {y : Exchange} (keeps : Keeps x y) : Passage x e y
  | wentOn {e : Event} {y : Exchange} (goesOn : GoesOn x y) (begun : x.handler ≠ .idle) : Passage x e y

theorem Step.passage {e : Event} (hs : Step x e y) : Passage x e y := by
  cases hs with
  | arrive ids idle => exact .arrived ids idle
  | pushRequest item => exact .kept (keeps_pushRequest x item)
  | clientRead hy => exact .kept (keeps_clientRead hy)
  | leave hy =>
    unfold dropClient at hy
    split at hy
    · rename_i waiting
      cases hy
      refine .wentOn (goesOn_dropHandler x) fun idle => ?_
      simp [isWaiting, idle] at waiting
    · exact .kept (keeps_dropResponse hy)
  | allow hy => exact .kept (keeps_allowResolve hy)
  | backendRead hy => exact .kept (keeps_backendRead hy)
  | backendDrop hy => exact .kept (keeps_backendDropBody hy)
  | answer hy => exact .kept (keeps_answerBackend hy)
  | pushResponse item _ => exact .kept (keeps_pushResponse x item)
  | answerSocket answer => exact .kept ⟨rfl, rfl⟩
  | giveConnection takeover => exact .kept ⟨rfl, rfl⟩
  | endTunnel result => exact .kept (keeps_endTunnel x result)
  | handler hy =>
    refine .wentOn (goesOn_stepHandler hy) fun idle => ?_
    simp [stepHandler, idle] at hy
  | upload hy => exact .kept (uploadMoves_of_stepUpload hy).keeps
  | relay hy => exact .kept (relayMoves_of_stepRelay hy).keeps
  | moveUpload hy => exact .kept (uploadMoves_of_moveUpload hy).keeps
  | moveRelay hy => exact .kept (relayMoves_of_moveRelay hy).keeps
  | tunnel hy => exact .kept (keeps_stepTunnel hy)

/-- Once a request has arrived, it never has not, and it keeps its id. -/
theorem Step.begun {e : Event} (hs : Step x e y) (begun : x.handler ≠ .idle) :
    y.handler ≠ .idle ∧ y.context.requestId = x.context.requestId := by
  cases hs.passage with
  | arrived _ idle => exact absurd idle begun
  | kept keeps =>
    have context : y.context = x.context := congrArg Premises.context keeps.premises
    exact ⟨keeps.handler ▸ begun, by rw [context]⟩
  | wentOn goesOn =>
    obtain ⟨⟨head, premises⟩, past⟩ := goesOn
    have context : y.context = x.context := congrArg Premises.context premises
    refine ⟨fun idle => ?_, by rw [context]⟩
    rw [idle] at past
    cases past

/-! ## Runs -/

theorem Run.begun {es : List Event} (run : Run x es y) (begun : x.handler ≠ .idle) :
    y.handler ≠ .idle ∧ y.context.requestId = x.context.requestId := by
  refine run.invariant (I := fun _ y => y.handler ≠ .idle ∧ y.context.requestId = x.context.requestId) ⟨begun, rfl⟩ ?_
  intro es y e z before step
  have after := step.begun before.1
  exact ⟨after.1, after.2.trans before.2⟩

/-- What an exchange goes by after a run: nothing has arrived, or the request that has and the id it got then. -/
inductive Known (start : Exchange) (es : List Event) (x : Exchange) : Prop where
  | unbegun (handler : x.handler = .idle) (premises : x.premises = start.premises)
  | resolving {ids : RequestIds} (arrived : .arrived ids ∈ es) (handler : x.handler = .resolving)
      (premises : x.premises = (start.arrive ids).1.premises)
  /-- the handler has left the resolver behind -/
  | resolved {ids : RequestIds} {head : RequestHead} (arrived : .arrived ids ∈ es)
      (past : x.handler.isPast x.context.isHttp2 = true) (premises : x.premises = { (start.arrive ids).1.premises with head })

/-- The arrival of a request depends on the premises alone. -/
theorem premises_arrive (h : x.premises = y.premises) (ids : RequestIds) :
    (x.arrive ids).1.premises = (y.arrive ids).1.premises := by
  injection h with profile resolver context head expects
  simp only [premises, arrive, trace, observe, profile, resolver, context, head]

namespace Known

variable {es : List Event}

theorem keeps (h : Known start es x) (k : Keeps x y) (e : Event) : Known start (es ++ [e]) y := by
  cases h with
  | unbegun handler premises => exact .unbegun (k.handler.trans handler) (k.premises.trans premises)
  | resolving arrived handler premises =>
    exact .resolving (List.mem_append_left _ arrived) (k.handler.trans handler) (k.premises.trans premises)
  | resolved arrived past premises =>
    have context : y.context = x.context := congrArg Premises.context k.premises
    refine .resolved (List.mem_append_left _ arrived) ?_ (k.premises.trans premises)
    rwa [k.handler, context]

theorem goesOn (h : Known start es x) (g : GoesOn x y) (begun : x.handler ≠ .idle) (e : Event) :
    Known start (es ++ [e]) y := by
  obtain ⟨⟨head, premises⟩, past⟩ := g
  have context : y.context = x.context := congrArg Premises.context premises
  rw [← context] at past
  cases h with
  | unbegun idle => exact absurd idle begun
  | resolving arrived _ known | resolved arrived _ known =>
    rw [known] at premises
    exact .resolved (List.mem_append_left _ arrived) past premises

theorem step {e : Event} (h : Known start es x) (hs : Step x e y) : Known start (es ++ [e]) y := by
  cases hs.passage with
  | arrived ids idle =>
    cases h with
    | unbegun _ premises =>
      exact .resolving (List.mem_append_right _ (List.mem_singleton_self _)) rfl (premises_arrive premises ids)
    | resolving _ handler => simp [handler] at idle
    | resolved _ past => simp [idle, HandlerPhase.isPast] at past
  | kept keeps => exact h.keeps keeps e
  | wentOn goesOn begun => exact h.goesOn goesOn begun e

end Known

theorem Run.known {es : List Event} (run : Run start es x) (fresh : start.Fresh) : Known start es x := by
  refine run.invariant (I := fun es x => Known start es x) ?_ fun h hs => h.step hs
  obtain ⟨profile, resolver, head, tls, client, inbound, ready, answer, socket, takeover, rfl⟩ := fresh
  exact .unbegun rfl rfl

/-- What was observed along a run was observed at one of its events. -/
theorem Run.observed {es : List Event} (run : Run start es x) {o : Observation} (hs : o ∉ start.log) (hx : o ∈ x.log) :
    ∃ fs y e z, Run start fs y ∧ Step y e z ∧ fs <+: es ∧ o ∉ y.log ∧ o ∈ z.log := by
  induction run with
  | refl => exact absurd hx hs
  | @snoc es x e z run step ih =>
    by_cases before : o ∈ x.log
    · obtain ⟨fs, w, f, v, earlier, next, part, news⟩ := ih before
      exact ⟨fs, w, f, v, earlier, next, part.trans (List.prefix_append es [e]), news⟩
    · exact ⟨es, x, e, z, run, step, List.prefix_append es [e], before, hx⟩

/-! ## The request of a client -/

/-- An exchange that begins with this request of this client. -/
structure Begins (start : Exchange) (request : RequestHead) (tls : Bool) (client : SocketAddress) : Prop where
  fresh : start.Fresh
  head : start.head = request
  context : start.context = { requestId := "", version := request.version, tls, clientHost := client.clientHost }

theorem begins_towards (hop : NextHop) (headers : Headers) (inbound : InboundBody) :
    (towards hop headers inbound).Begins (towards hop headers inbound).head false ⟨.v4 127 0 0 1, 40000⟩ :=
  ⟨fresh_towards hop headers inbound, rfl, rfl⟩

theorem Fresh.log (h : start.Fresh) : start.log = [] := by
  obtain ⟨profile, resolver, head, tls, client, inbound, ready, answer, socket, takeover, rfl⟩ := h
  rfl

namespace Begins

variable {request : RequestHead} {tls : Bool} {client : SocketAddress} {es : List Event}

/-- The context of a request once it has arrived: its id is fixed then. -/
theorem context_arrive (h : start.Begins request tls client) (ids : RequestIds) :
    (start.arrive ids).1.context
      = { requestId := (ids.assign request.headers).1, version := request.version, tls, clientHost := client.clientHost } := by
  simp only [arrive, trace, observe, h.head, h.context]

/-- While the resolver is waited for, the request is what the client sent, with its id. -/
theorem resolving (h : start.Begins request tls client) (run : Run start es x) (phase : x.handler = .resolving) :
    ∃ ids, .arrived ids ∈ es ∧ x.resolver = start.resolver ∧ x.context = (start.arrive ids).1.context
      ∧ x.head = { request with headers := (ids.assign request.headers).2.1 } := by
  cases run.known h.fresh with
  | unbegun handler => simp [phase] at handler
  | resolved _ past => simp [phase, HandlerPhase.isPast] at past
  | @resolving ids arrived _ premises =>
    injection premises with _ resolver context head
    refine ⟨ids, arrived, resolver, context, head.trans ?_⟩
    simp only [arrive, trace, observe, h.head]

/-- From the begin of the handler to its end, the request is the one that arrived. -/
theorem handling (h : start.Begins request tls client) (run : Run start es x) (handling : x.isHandling) :
    ∃ ids, .arrived ids ∈ es ∧ x.profile = start.profile
      ∧ x.context = { requestId := (ids.assign request.headers).1, version := request.version, tls,
                      clientHost := client.clientHost }
      ∧ x.expectsContinue = request.headers.expectsContinue
      ∧ ∀ key, x.handler = .connecting key → x.context.isHttp2 = false := by
  have expects (ids : RequestIds) : (start.arrive ids).1.expectsContinue = request.headers.expectsContinue := by
    simp only [arrive, trace, observe, h.head]
    exact Headers.announces_congr (ids.values_assign_of_ne _ (by decide)) _
  cases run.known h.fresh with
  | unbegun handler => simp [isHandling, handler] at handling
  | @resolving ids arrived handler premises =>
    injection premises with profile _ context _ expecting
    refine ⟨ids, arrived, profile, context.trans (h.context_arrive ids), expecting.trans (expects ids), fun key hk => ?_⟩
    simp [handler] at hk
  | @resolved ids _ arrived past premises =>
    injection premises with profile _ context _ expecting
    refine ⟨ids, arrived, profile, context.trans (h.context_arrive ids), expecting.trans (expects ids), fun key hk => ?_⟩
    simpa [hk, HandlerPhase.isPast] using past

end Begins

end Exchange

end Gateway
