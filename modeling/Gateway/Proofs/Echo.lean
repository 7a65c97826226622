import Gateway.Proofs.Fields.EndToEnd
import Gateway.Proofs.Persistence
import Gateway.Proofs.RequestId

/-!
# The request id on its way to the client

Every head that goes out names its request. Heads are composed in four ways, from an answer of the resolver, a page, what
a backend sent or nothing but a status, and each of them puts the request id on what it starts from. An id that is there
already stays, also where it is not the id of this request; what a backend says of its own connection may take it away
before. `Draft` lists what a head can start from.

The main theorem is `Run.echoes_id`.
-/

namespace Gateway

/-- The id of a request is a field value again. -/
theorem RequestIds.ofString?_assign (ids : RequestIds) (h : Headers) :
    HeaderValue.ofString? (ids.assign h).1 = some (ids.idFor h) :=
  HeaderValue.ofString?_eq_some_iff.2 (ids.assign_spec h).1.symm

namespace Headers

variable {g h source : Headers} {id : HeaderValue}

/-- The values of `x-request-id` in fields that are told an id. -/
def idsWith (h : Headers) (id : HeaderValue) : List HeaderValue :=
  if h.values .xRequestId = [] then [id] else h.values .xRequestId

theorem idsWith_congr (same : g.values .xRequestId = h.values .xRequestId) (id : HeaderValue) :
    g.idsWith id = h.idsWith id := by
  unfold idsWith
  rw [same]

theorem idsWith_ne_nil (h : Headers) (id : HeaderValue) : h.idsWith id ≠ [] := by
  unfold idsWith
  split
  · exact List.cons_ne_nil _ _
  · assumption

theorem values_stampId {text : String} (encodes : HeaderValue.ofString? text = some id) (h : Headers) :
    (h.stampId text).values .xRequestId = h.idsWith id := by
  unfold stampId idsWith
  rw [contains_eq]
  by_cases unnamed : h.values .xRequestId = []
  · rw [unnamed, encodes]
    show (h.insert .xRequestId id).values .xRequestId = _
    rw [values_insert, if_pos rfl, if_pos rfl]
  · have named : (!(h.values .xRequestId).isEmpty) = true := by simpa using unnamed
    rw [if_pos named, if_neg unnamed]

/-- A length of the gateway's own makes no difference to other names. -/
theorem values_mergeEndToEnd_contentLength (source : Headers) {n : HeaderName} (hn : n ≠ .contentLength) :
    ((empty.insert .contentLength .zero).mergeEndToEnd source).values n = source.endToEnd.values n := by
  have unset : (empty.insert .contentLength .zero).values n = [] := by
    rw [values_insert, if_neg hn, values_empty]
  rw [values_mergeEndToEnd, values_endToEnd, unset, List.nil_append]

/-! ## The heads of the gateway -/

section Heads

variable {idle : Duration} {c : Context} (encodes : HeaderValue.ofString? c.requestId = some id)
include encodes

theorem ids_finishHeaders (h : Headers) : (finishHeaders idle c h).values .xRequestId = h.idsWith id := by
  unfold finishHeaders
  dsimp only
  split
  · rw [values_keepOpen_of_ne _ _ (by decide) (by decide), values_stampId encodes]
  · rw [values_stampId encodes]

theorem ids_relayedHeaders (mustClose : Bool) (source : Headers) :
    (relayedHeaders idle c mustClose source).values .xRequestId = source.endToEnd.idsWith id := by
  unfold relayedHeaders
  dsimp only
  rw [values_stampId encodes]
  refine idsWith_congr ?_ id
  rw [← empty_mergeEndToEnd]
  split <;> split <;>
    simp only [values_closeAfter_of_ne _ (show HeaderName.xRequestId ≠ .connection by decide) (by decide),
      values_keepOpen_of_ne _ _ (show HeaderName.xRequestId ≠ .connection by decide) (by decide)]

theorem ids_refusedHeaders (source : Headers) :
    (refusedHeaders idle c source).values .xRequestId = source.endToEnd.idsWith id := by
  unfold refusedHeaders
  dsimp only
  rw [values_stampId encodes]
  refine idsWith_congr ?_ id
  rw [values_keepOpen_of_ne _ _ (by decide) (by decide), values_insert, if_neg (by decide),
    values_mergeEndToEnd_contentLength source (by decide)]

theorem ids_failedSocketHeaders : (failedSocketHeaders idle c).values .xRequestId = [id] := by
  unfold failedSocketHeaders
  rw [values_stampId encodes, idsWith, if_pos]
  rw [values_keepOpen_of_ne _ _ (by decide) (by decide), values_insert, if_neg (by decide), values_empty]

end Heads

end Headers

namespace Exchange

variable {x y start : Exchange} {request : RequestHead} {tls : Bool} {client : SocketAddress} {es : List Event}
  {head : ResponseHead}

/-- While the handler is at work, the id of the request is the one that was fixed when it arrived. -/
theorem Begins.encodes (begins : start.Begins request tls client) (run : Run start es x) (handling : x.isHandling) :
    ∃ ids, .arrived ids ∈ es ∧ x.profile = start.profile
      ∧ HeaderValue.ofString? x.context.requestId = some (ids.idFor request.headers) := by
  obtain ⟨ids, arrived, profile, context, -⟩ := begins.handling run handling
  refine ⟨ids, arrived, profile, ?_⟩
  rw [context]
  exact ids.ofString?_assign request.headers

/-- What a head that goes out from `x` to `y` is composed from; if it is that of a relayed response, at an earlier step of
the run. -/
inductive Draft (start : Exchange) (es : List Event) (x y : Exchange) : ResponseHead → Prop where
  /-- the resolver's own answer -/
  | supplied {resolved : RequestHead} {response : Response} (phase : x.handler = .resolving)
      (answer : x.resolver x.head x.context.tls = ⟨resolved, .ok (.answered response)⟩) : Draft start es x y response.head
  | page {failure : Rejection} (asked : .pageAsked failure ∈ y.log) : Draft start es x y (x.profile.page failure).head
  /-- the response of a backend, without what concerns its connection -/
  | relayed {head : ResponseHead} {body : ClientBody} {response : Response} {before : List Event} {w : Exchange} {d : Event}
      {v : Exchange} {after : List Event} (phase : x.handler = .heading head body)
      (cut : Run.Cut start es x before w d v after) (composes : Composes w response head v) :
      Draft start es x y { response.head with headers := response.head.headers.endToEnd }
  /-- the refusal of a backend, likewise -/
  | refused {key : HeaderValue} {status : Status} {headers : Headers} (phase : x.handler = .connecting key)
      (answer : x.socketAnswer = some (.refused status headers)) :
      Draft start es x y { status, phrase := none, headers := headers.endToEnd }
  /-- no websocket could be had -/
  | socketless {cause : Cause} (failed : .traced (.socketFailed cause) ∈ y.log) :
      Draft start es x y (Response.bodiless .badGateway).head
  | switched {key : HeaderValue} {protocol : Option HeaderValue} (phase : x.handler = .connecting key)
      (answer : x.socketAnswer = some (.accepted protocol)) :
      Draft start es x y (Response.switching (WebSocket.accept? key.bytes) protocol).head

/-- Every head that goes out is composed from a draft, and has an id: the ids of the draft, if it has any, and otherwise
the one the request was given when it arrived. -/
theorem Answered.draft {id : HeaderValue} (answered : Answered x y head) (fresh : start.Fresh) (run : Run start es x)
    (encodes : HeaderValue.ofString? x.context.requestId = some id) :
    ∃ draft, Draft start es x y draft ∧ head.status = draft.status ∧ head.phrase = draft.phrase
      ∧ head.headers.values .xRequestId = draft.headers.idsWith id := by
  cases answered with
  | resolved phase answer => exact ⟨_, .supplied phase answer, rfl, rfl, Headers.ids_finishHeaders encodes _⟩
  | failed asked => exact ⟨_, .page asked, rfl, rfl, Headers.ids_finishHeaders encodes _⟩
  | relayed phase =>
    have held : x.handler.head? = some head := by rw [phase]; rfl
    obtain ⟨before, w, d, v, after, response, cut, composes⟩ := run.composed fresh held
    -- the id is the one that was there then
    obtain ⟨begun, same⟩ := cut.step.begun (by simp [composes.phase])
    rw [(cut.rest.begun begun).2, same] at encodes
    refine ⟨_, .relayed phase cut composes, by rw [composes.relayed]; rfl, by rw [composes.relayed]; rfl, ?_⟩
    rw [composes.relayed]
    exact Headers.ids_relayedHeaders encodes _ _
  | accepted phase answer => exact ⟨_, .switched phase answer, rfl, rfl, Headers.values_stampId encodes _⟩
  | refused phase answer => exact ⟨_, .refused phase answer, rfl, rfl, Headers.ids_refusedHeaders encodes _⟩
  | socketless _ failed =>
    refine ⟨_, .socketless failed, rfl, rfl, ?_⟩
    show (failedSocketHeaders _ _).values .xRequestId = _
    rw [Headers.ids_failedSocketHeaders encodes, Headers.idsWith, if_pos]
    rfl

/-- Every head that goes out has an id. Where what it is composed from had some, it has exactly these, and otherwise the
one that was fixed when the request arrived: the first the client sent, if that says something, and else a number. -/
theorem Run.echoes_id (begins : start.Begins request tls client) (run : Run start es x) {e : Event} (step : Step x e y)
    {ended : Bool} {length : Option Nat} (unsent : .answered head ended length ∉ x.log)
    (sent : .answered head ended length ∈ y.log) :
    ∃ ids draft, .arrived ids ∈ es ∧ utf8 x.context.requestId = (ids.idFor request.headers).bytes
      ∧ Draft start es x y draft ∧ head.status = draft.status ∧ head.phrase = draft.phrase
      ∧ head.headers.values .xRequestId ≠ []
      ∧ (draft.headers.values .xRequestId ≠ [] →
          head.headers.values .xRequestId = draft.headers.values .xRequestId)
      ∧ (draft.headers.values .xRequestId = [] → head.headers.values .xRequestId = [ids.idFor request.headers]) := by
  obtain ⟨handling, answered⟩ := step.answers unsent sent
  obtain ⟨ids, arrived, -, encodes⟩ := begins.encodes run handling
  obtain ⟨draft, drafted, status, phrase, values⟩ := answered.draft begins.fresh run encodes
  refine ⟨ids, draft, arrived, (HeaderValue.ofString?_eq_some_iff.1 encodes).symm, drafted, status, phrase, ?_,
    fun named => ?_, fun unnamed => ?_⟩
  · rw [values]
    exact Headers.idsWith_ne_nil _ _
  · rw [values, Headers.idsWith, if_neg named]
  · rw [values, Headers.idsWith, if_pos unnamed]

/-- A response that names another request, and calls that a matter of its connection. -/
def misnamed : Response where
  head := { status := .ok, phrase := none,
            headers := ⟨[(.connection, ⟨charBytes "X-Request-Id".toList, by decide⟩), (.xRequestId, .zero)]⟩ }
  body := .empty

/-- The client reads its own id on it. -/
theorem echoes_id_misnamed : ∃ x y head ended length,
    (asking [(.xRequestId, .ofNat 5)]).Begins (asking [(.xRequestId, .ofNat 5)]).head false ⟨.v4 127 0 0 1, 40000⟩
    ∧ Run (asking [(.xRequestId, .ofNat 5)]) (asked ++ [.backendAnswered (.ok misnamed), .handlerStepped 0,
        .handlerStepped 0, .handlerStepped 0]) x
    ∧ Step x (.handlerStepped 0) y ∧ .answered head ended length ∉ x.log ∧ .answered head ended length ∈ y.log
    ∧ head.headers.values .xRequestId = [.ofNat 5] := by
  let start := asking [(.xRequestId, .ofNat 5)]
  let events : List Event := asked ++ [.backendAnswered (.ok misnamed), .handlerStepped 0, .handlerStepped 0,
    .handlerStepped 0]
  have reached : (events.foldlM perform start).any (fun x => (x.perform (.handlerStepped 0)).any fun y =>
      x.handler.head?.isSome ∧ x.milestones = [] ∧ wentWell y = true ∧ y.milestones ≠ []) = true := by decide +kernel
  have answers : (List.range events.length).all (fun n => ((events.take n).foldlM perform start).all fun w =>
      w.handler ≠ .responding || w.backendAnswer = some (.ok misnamed)) = true := by decide +kernel
  obtain ⟨x, hx, h⟩ := (Option.any_eq_true _ _).1 reached
  obtain ⟨y, hy, h⟩ := (Option.any_eq_true _ _).1 h
  obtain ⟨holds, before, well, after⟩ := of_decide_eq_true h
  have begins : start.Begins start.head false ⟨.v4 127 0 0 1, 40000⟩ := begins_towards _ _ _
  have run := run_of_perform hx
  have step : Step x (.handlerStepped 0) y := step_of_perform hy
  obtain ⟨o, mem⟩ := List.exists_mem_of_ne_nil _ after
  obtain ⟨logged, milestone⟩ := List.mem_filter.1 mem
  have allowed := List.all_eq_true.1 well
  cases o with
  | traced | forwarded | socketAsked => cases milestone
  | pageAsked | abandoned => exact absurd (allowed _ logged) Bool.false_ne_true
  | answered head ended length =>
    have unsent : .answered head ended length ∉ x.log := by
      rw [← mem_milestones rfl, before]
      exact List.not_mem_nil
    refine ⟨x, y, head, ended, length, begins, run, step, unsent, logged, ?_⟩
    obtain ⟨ids, draft, arrived, -, drafted, -, -, -, -, assigned⟩ := Run.echoes_id begins run step unsent logged
    obtain rfl : ids = ⟨7⟩ := by simpa [events, asked] using arrived
    cases drafted with
    | supplied other | refused other | switched other => simp [HandlerPhase.head?, other] at holds
    | page asked => exact absurd (allowed _ asked) Bool.false_ne_true
    | socketless failed => exact absurd (allowed _ failed) Bool.false_ne_true
    | relayed _ cut composes =>
      have given := cut.of_prefixes (P := fun w => w.handler ≠ .responding || w.backendAnswer = some (.ok misnamed)) answers
      simp only [composes.phase, composes.answer, ne_eq, not_true_eq_false, decide_false, Bool.false_or,
        decide_eq_true_eq, Option.some.injEq, Except.ok.injEq] at given
      subst given
      -- the backend's id is dropped with its connection
      rw [assigned (by decide +kernel)]
      decide +kernel

end Exchange

end Gateway
