import Gateway.Proofs.Gate.Verdict

/-!
# When it is decided about a request

It is decided once: when the handler takes the resolver's answer, or when the client leaves before that. Until then no
backend is called and nobody is answered; afterwards nothing that happens changes what the request came to.

The main theorem is `Run.gate`.
-/

namespace Gateway

namespace Exchange

variable {x y start : Exchange} {es : List Event} {e : Event} {v w : Verdict} {request : RequestHead} {tls : Bool}
  {client : SocketAddress}

/-! ## Decisions -/

/-- Whether an event decides about a request that is undecided: the handler goes on, or the client leaves. -/
def Event.decides : Event → Bool
  | .handlerStepped _ | .clientLeft => true
  | _ => false

/-- What was decided along these events about a request of a client. -/
inductive Decides (start : Exchange) (request : RequestHead) (tls : Bool) (es : List Event) : Verdict → Prop where
  | left (first : es.find? Event.decides = some .clientLeft) : Decides start request tls es .left
  | resolved {ids : RequestIds} {now : Nat} (first : es.find? Event.decides = some (.handlerStepped now))
      (arrived : .arrived ids ∈ es) :
      Decides start request tls es
        ((start.resolver { request with headers := (ids.assign request.headers).2.1 } tls).verdict request.version)

/-- What was decided stays so. -/
theorem Decides.snoc (h : Decides start request tls es v) (e : Event) : Decides start request tls (es ++ [e]) v := by
  cases h with
  | left first => exact .left (by rw [List.find?_append, first]; rfl)
  | resolved first arrived =>
    exact .resolved (by rw [List.find?_append, first]; rfl) (List.mem_append_left _ arrived)

/-- A request that has arrived has, and arrives no more. -/
theorem Run.begun_of_arrived {ids : RequestIds} (run : Run start es x) (arrived : .arrived ids ∈ es) :
    x.handler ≠ .idle := by
  induction run with
  | refl => exact absurd arrived List.not_mem_nil
  | snoc run step ih =>
    rcases List.mem_append.1 arrived with before | last
    · exact (step.begun (ih before)).1
    · obtain rfl := List.mem_singleton.1 last
      cases step with
      | arrive => exact nofun

theorem Run.arrived_unique {ids others : RequestIds} (run : Run start es x) (one : .arrived ids ∈ es)
    (other : .arrived others ∈ es) : ids = others := by
  have idle {x y : Exchange} {ids : RequestIds} (step : Step x (.arrived ids) y) : x.handler = .idle := by
    cases step with
    | arrive _ h => exact h
  induction run with
  | refl => exact absurd one List.not_mem_nil
  | snoc run step ih =>
    rcases List.mem_append.1 one with before | last <;> rcases List.mem_append.1 other with before' | last'
    · exact ih before before'
    · obtain rfl := List.mem_singleton.1 last'
      exact absurd (idle step) (run.begun_of_arrived before)
    · obtain rfl := List.mem_singleton.1 last
      exact absurd (idle step) (run.begun_of_arrived before')
    · exact Event.arrived.inj ((List.mem_singleton.1 last).trans (List.mem_singleton.1 last').symm)

/-- Along a run one thing is decided at most. -/
theorem Decides.unique (run : Run start es x) (h : Decides start request tls es v) (k : Decides start request tls es w) :
    v = w := by
  cases h with
  | left first =>
    cases k with
    | left => rfl
    | resolved first' =>
      rw [first] at first'
      cases first'
  | resolved first arrived =>
    cases k with
    | left first' =>
      rw [first] at first'
      cases first'
    | resolved _ arrived' => rw [run.arrived_unique arrived arrived']

/-! ## Before the decision -/

/-- The URI of a request is legal, whatever the resolver has made of it. -/
def ResolvesLegally (start : Exchange) (request : RequestHead) (tls : Bool) : Prop :=
  ∀ ids : RequestIds, (start.resolver { request with headers := (ids.assign request.headers).2.1 } tls).head.uri.AuthorityLegal

/-- It is not decided yet. -/
structure Undecided (es : List Event) (x : Exchange) : Prop where
  undecided : es.find? Event.decides = none
  handler : x.handler = .idle ∨ x.handler = .resolving
  client : x.clientBody = none
  calls : x.calls = []

namespace Undecided

theorem step (h : Undecided es x) (step : Step x e y) (aside : e.decides = false) : Undecided (es ++ [e]) y := by
  have calls : y.calls = x.calls := by
    rcases step.calls_eq with same | ⟨now, rfl, -⟩
    · exact same
    · cases aside
  have undecided : (es ++ [e]).find? Event.decides = none := by
    rw [List.find?_append, h.undecided, List.find?_singleton, aside]
    rfl
  -- what is left of an event that decides nothing: neither the handler nor the client's end moves on
  suffices kept : (y.handler = .idle ∨ y.handler = .resolving) ∧ y.clientBody = none from
    ⟨undecided, kept.1, kept.2, calls.trans h.calls⟩
  cases step with
  | leave | handler => cases aside
  | arrive ids => exact ⟨.inr rfl, h.client⟩
  | pushRequest item =>
    obtain ⟨_, _, same⟩ := touches_pushRequest x item
    rw [same]
    exact ⟨h.handler, h.client⟩
  | clientRead hy =>
    rcases clientRead_cases hy with ⟨_, _, held, -⟩ | ⟨_, _, held, -⟩ <;>
    · rw [h.client] at held
      cases held
  | allow hy =>
    obtain rfl := touches_allowResolve hy
    exact ⟨h.handler, h.client⟩
  | backendRead hy =>
    obtain ⟨_, _, rfl⟩ := touches_backendRead hy
    exact ⟨h.handler, h.client⟩
  | backendDrop hy =>
    obtain ⟨_, _, rfl⟩ := touches_backendDropBody hy
    exact ⟨h.handler, h.client⟩
  | answer hy =>
    obtain rfl := touches_answerBackend hy
    exact ⟨h.handler, h.client⟩
  | pushResponse item =>
    unfold pushResponse
    split
    · exact ⟨h.handler, h.client⟩
    split
    · exact ⟨h.handler, h.client⟩
    split
    · -- a client without a body has nothing pushed to it
      next held =>
      rw [h.client] at held
      cases held
    · exact ⟨h.handler, h.client⟩
  | answerSocket | giveConnection => exact ⟨h.handler, h.client⟩
  | endTunnel result =>
    obtain ⟨_, _, same⟩ := touches_endTunnel x result
    rw [same]
    exact ⟨h.handler, h.client⟩
  | upload hy =>
    obtain ⟨_, _, _, _, _, rfl⟩ := (uploadMoves_of_stepUpload hy).touches
    exact ⟨h.handler, h.client⟩
  | relay hy =>
    obtain ⟨_, _, _, rfl⟩ := (relayMoves_of_stepRelay hy).touches
    exact ⟨h.handler, h.client⟩
  | moveUpload hy =>
    obtain ⟨_, _, _, _, _, rfl⟩ := (uploadMoves_of_moveUpload hy).touches
    exact ⟨h.handler, h.client⟩
  | moveRelay hy =>
    obtain ⟨_, _, _, rfl⟩ := (relayMoves_of_moveRelay hy).touches
    exact ⟨h.handler, h.client⟩
  | tunnel hy =>
    obtain ⟨_, _, rfl⟩ := touches_stepTunnel hy
    exact ⟨h.handler, h.client⟩

theorem uncalled (h : Undecided es x) (sound : x.Sound) : x.Uncalled := by
  obtain ⟨unanswered, guard, upload, -⟩ := sound.waiting (h.handler.imp_right .inl)
  exact ⟨unanswered, upload, h.calls, by rw [guard]; rfl⟩

/-- A client can leave once its request has arrived. -/
theorem leave (h : Undecided es x) (sound : x.Sound) (step : Step x .clientLeft y) : y.CameTo .left := by
  cases step with
  | leave hy =>
    unfold dropClient at hy
    split at hy
    · cases hy
      exact (h.uncalled sound).dropHandler
    · rcases dropResponse_cases hy with ⟨_, held, -⟩ | ⟨held, -⟩ <;>
      · rw [h.client] at held
        cases held

/-- The handler goes on with the resolver's answer. -/
theorem resolve (h : Undecided es x) (begins : start.Begins request tls client)
    (legal : start.ResolvesLegally request tls) (run : Run start es x) {now : Nat}
    (step : Step x (.handlerStepped now) y) : ∃ ids, .arrived ids ∈ es
      ∧ y.CameTo
        ((start.resolver { request with headers := (ids.assign request.headers).2.1 } tls).verdict request.version) := by
  cases step with
  | handler hy =>
    cases stepHandler_cases hy with
    | @resolved resolved hop _ phase _ answer next =>
      obtain ⟨ids, arrived, resolver, context, head⟩ := begins.resolving run phase
      have uncalled := h.uncalled (run.sound begins.fresh)
      -- the resolver was asked about the request as it arrived, by the tables it started with
      rw [begins.context_arrive] at context
      rw [resolver, context, head] at answer
      refine ⟨ids, arrived, ?_⟩
      rw [answer]
      have uncalled' : Uncalled { x with head := resolved } :=
        { uncalled with toUnanswered := uncalled.congr rfl rfl rfl rfl }
      have address : x.context.clientHost = client.clientHost := by rw [context]
      have lawful : resolved.uri.AuthorityLegal := by
        have lawful := legal ids
        rwa [answer] at lawful
      have cameTo := cameTo_of_resolves uncalled' lawful address next
      rw [context] at cameTo
      exact cameTo
    | forwarded phase | failed phase | connected phase =>
      rcases h.handler with idle | resolving
      · rw [idle] at phase
        cases phase
      · rw [resolving] at phase
        cases phase
    | responded next =>
      cases next with
      | failed phase | composed phase | ended phase | relayed phase | headed phase =>
        rcases h.handler with idle | resolving
        · rw [idle] at phase
          cases phase
        · rw [resolving] at phase
          cases phase

end Undecided

/-! ## After the decision -/

/-- The handler has left the resolver behind. -/
def IsPast (x : Exchange) : Prop := x.handler ≠ .idle ∧ x.handler ≠ .resolving

theorem isPast_of_goesOn (h : GoesOn x y) : y.IsPast := by
  have past := h.past
  constructor <;>
  · intro phase
    rw [phase] at past
    cases past

theorem IsPast.step (h : x.IsPast) (step : Step x e y) : y.IsPast := by
  cases step.passage with
  | arrived _ idle => exact absurd idle h.1
  | kept keeps =>
    unfold IsPast
    rw [keeps.handler]
    exact h
  | wentOn goesOn => exact isPast_of_goesOn goesOn

/-- With the handler gone and neither an upload nor a relay there, nothing happens that matters. -/
theorem Turned.frame {phase : HandlerPhase} {outcome : Outcome} {milestones : List Observation}
    (h : x.Turned phase outcome milestones) (gone : phase = .returned ∨ phase = .dropped) (step : Step x e y) :
    Frame x y ∧ y.Turned phase outcome milestones := by
  have idle : x.isHandling = false := by
    unfold isHandling
    rw [h.handler]
    rcases gone with rfl | rfl <;> rfl
  have frame : Frame x y := by
    cases step.turn with
    | aside frame => exact frame
    | arrived _ unbegun =>
      rw [h.handler] at unbegun
      rcases gone with rfl | rfl <;> cases unbegun
    | deserted waiting =>
      rw [isHandling_of_isWaiting waiting] at idle
      cases idle
    | handler moved =>
      rw [isHandling_of_stepHandler moved] at idle
      cases idle
    | upload moves =>
      cases moves with
      | records => exact frame_recordUpload h.outcome _
      | cancels upload | goesOn upload | ends upload =>
        rw [h.upload] at upload
        cases upload
    | relay moves =>
      cases moves with
      | cancels relay | goesOn relay | ends relay =>
        have none := h.relaying
        rw [Exchange.relaying, relay] at none
        cases none
  have calls : y.calls = x.calls := by
    rcases step.calls_eq with same | ⟨_, -, resolving⟩
    · exact same
    · simp [isHandling, resolving] at idle
  exact ⟨frame, frame.handler.trans h.handler, frame.upload h.upload, frame.relaying.trans h.relaying,
    calls.trans h.calls, by rw [frame.guard, h.outcome], frame.milestones.trans h.milestones⟩

theorem CameTo.step (h : x.CameTo v) (past : x.IsPast) (step : Step x e y) : y.CameTo v := by
  have calls : y.calls = x.calls := by
    rcases step.calls_eq with same | ⟨_, -, resolving⟩
    · exact same
    · exact absurd resolving past.2
  cases v with
  | left => exact (Turned.frame h (.inr rfl) step).2
  | answered response =>
    obtain ⟨frame, turned⟩ := Turned.frame h (.inl rfl) step
    unfold CameTo
    rw [frame.profile, frame.context]
    exact turned
  | rejected failure =>
    obtain ⟨frame, turned⟩ := Turned.frame h (.inl rfl) step
    unfold CameTo pageAnswer
    rw [frame.profile, frame.context]
    exact turned
  | socketless cause =>
    obtain ⟨head, status, length, turned⟩ := h
    exact ⟨head, status, length, (turned.frame (.inl rfl) step).2⟩
  | socket target | plain target =>
    unfold CameTo
    rw [calls]
    exact h

/-! ## Runs -/

theorem Run.undecided_or_decided (begins : start.Begins request tls client) (legal : start.ResolvesLegally request tls)
    (run : Run start es x) :
    Undecided es x ∨ x.IsPast ∧ ∃ v, Decides start request tls es v ∧ x.CameTo v := by
  -- over the run: `Undecided` holds up to the event that decides, and that event is the first of its kind
  induction run with
  | refl =>
    obtain ⟨profile, resolver, head, tls, client, inbound, ready, answer, socket, takeover, rfl⟩ := begins.fresh
    exact .inl ⟨rfl, .inl rfl, rfl, rfl⟩
  | @snoc es x e y run step ih =>
    rcases ih with undecided | ⟨past, v, decides, cameTo⟩
    · have first (decisive : e.decides = true) : (es ++ [e]).find? Event.decides = some e := by
        rw [List.find?_append, undecided.undecided, List.find?_singleton, if_pos decisive]
        rfl
      cases e with
      | clientLeft =>
        have left := undecided.leave (run.sound begins.fresh) step
        have dropped : y.IsPast := by
          unfold IsPast
          rw [Turned.handler left]
          exact ⟨nofun, nofun⟩
        exact .inr ⟨dropped, .left, .left (first rfl), left⟩
      | handlerStepped now =>
        obtain ⟨ids, arrived, cameTo⟩ := undecided.resolve begins legal run step
        cases step with
        | handler moved =>
          exact .inr ⟨isPast_of_goesOn (goesOn_stepHandler moved), _,
            .resolved (first rfl) (List.mem_append_left _ arrived), cameTo⟩
      | _ => exact .inl (undecided.step step rfl)
    · exact .inr ⟨past.step step, v, decides.snoc e, cameTo.step past step⟩

/-- One backend is called at most. None is called before it is decided about the request; then one is called exactly if
nothing bars the request, a websocket being asked for exactly if the request asks for one, and otherwise the client
gets the answer that is for what bars it. -/
theorem Run.gate (begins : start.Begins request tls client) (legal : start.ResolvesLegally request tls)
    (run : Run start es x) :
    x.calls.length ≤ 1
      ∧ (x.handler = .idle ∨ x.handler = .resolving → x.calls = [] ∧ x.milestones = [])
      ∧ (x.handler ≠ .idle ∧ x.handler ≠ .resolving → ∃ v, Decides start request tls es v)
      ∧ ∀ v, Decides start request tls es v → (x.calls = [] ↔ v.bars = true) ∧ x.CameTo v := by
  rcases run.undecided_or_decided begins legal with undecided | ⟨past, v, decides, cameTo⟩
  · refine ⟨by simp [undecided.calls], ?_, ?_, ?_⟩
    · intro _
      exact ⟨undecided.calls, (undecided.uncalled (run.sound begins.fresh)).milestones⟩
    · rintro ⟨begun, resolved⟩
      exact absurd undecided.handler (not_or.2 ⟨begun, resolved⟩)
    · intro v decides
      cases decides with
      | left first | resolved first =>
        rw [undecided.undecided] at first
        cases first
  · refine ⟨cameTo.calls_le_one, ?_, fun _ => ⟨v, decides⟩, ?_⟩
    · intro before
      exact absurd before (not_or.2 past)
    · intro w decides'
      obtain rfl := decides.unique run decides'
      exact ⟨cameTo.calls_eq_nil_iff, cameTo⟩

/-- A websocket handshake, with its key. -/
def handshake : RequestHead where
  method := .get
  uri := ⟨none, none, "/chat", none⟩
  version := .http11
  headers := ⟨[(.host, ⟨charBytes "chat.example".toList, by decide⟩), (.connection, .upgrade), (.upgrade, .websocket),
    (.secWebSocketKey, ⟨charBytes "dGhlIHNhbXBsZSBub25jZQ==".toList, by decide⟩)]⟩

/-- A target whose `host` has a line break is asked for no websocket. -/
theorem gate_lineBreak : ∃ (start x : Exchange) (head : ResponseHead),
    start.Begins handshake false ⟨.v4 127 0 0 1, 40000⟩ ∧ start.ResolvesLegally handshake false
      ∧ Run start [.arrived ⟨0⟩, .resolverAllowed, .handlerStepped 0] x ∧ x.calls = []
      ∧ x.milestones = [.answered head true (some 0)] ∧ head.status = .badGateway
      ∧ head.headers.values .contentLength = [.zero] := by
  let target : Target := ⟨"backend", 80, "/", "two\nlines"⟩
  let start := new { idle := .ofSeconds 60, receive := .ofSeconds 60, page := Rejection.page }
    (fun head _ => ⟨head, .ok (.forward target)⟩) handshake false ⟨.v4 127 0 0 1, 40000⟩ (.buffered [])
  have reached : ([.arrived ⟨0⟩, .resolverAllowed, .handlerStepped 0].foldlM perform start).isSome = true := by
    decide +kernel
  obtain ⟨x, hx⟩ := Option.isSome_iff_exists.1 reached
  have begins : start.Begins handshake false ⟨.v4 127 0 0 1, 40000⟩ :=
    ⟨⟨_, _, _, _, _, _, false, none, none, none, rfl⟩, rfl, rfl⟩
  have read : Uri.ofString "/chat" = .ok handshake.uri := rfl
  have legal : start.ResolvesLegally handshake false := fun _ => Uri.authorityLegal_of_ofString read
  have run : Run start [.arrived ⟨0⟩, .resolverAllowed, .handlerStepped 0] x := run_of_perform hx
  have first : [Event.arrived ⟨0⟩, .resolverAllowed, .handlerStepped 0].find? Event.decides = some (.handlerStepped 0) := rfl
  obtain ⟨-, -, -, decided⟩ := Run.gate begins legal run
  have verdict := decided _ (.resolved first List.mem_cons_self)
  rw [show Resolution.verdict _ _ = .socketless .invalidHeaderValue by decide +kernel] at verdict
  obtain ⟨head, status, length, turned⟩ := verdict.2
  exact ⟨start, x, head, begins, legal, run, turned.calls, turned.milestones, status, length⟩

end Exchange

end Gateway
