import Gateway.Proofs.Echo
import Gateway.Proofs.Outcome.Once
import Gateway.Proofs.Tunnel.Opening

/-!
# A refusal of a backend

A backend that refuses a websocket says so in a head of its own. The client gets this head without what concerns the
connection of the backend, and no body, whatever the head announces. The request has ended well then: a refusal is an
answer.

The fields are composed in one order: the gateway's `content-length`, what the backend sent, what concerns its connection
taken out again, and last what the gateway says itself. `Headers.RefusedFrom` is what is left of it, and the main theorem
is `Run.passes_refusal`.
-/

namespace Gateway

namespace Headers

variable {sent source : Headers} {idle : Duration} {c : Context} {id : HeaderValue} {n : HeaderName}

/-- The names the gateway speaks for in a refusal. -/
def refusalNames : List HeaderName := [.contentLength, .connection, .keepAlive, .xRequestId]

/-- The fields a client gets of a refusal. -/
structure RefusedFrom (sent source : Headers) (idle : Duration) (id : HeaderValue) : Prop where
  contentLength : sent.values .contentLength = [.zero]
  connection : sent.values .connection = [.keepAlive]
  keepAlive : sent.values .keepAlive = [.keepAliveFor idle]
  /-- the ids of the backend, if any is left -/
  named : ¬ source.Hop .xRequestId → source.values .xRequestId ≠ [] →
    sent.values .xRequestId = source.values .xRequestId
  /-- otherwise that of the request -/
  unnamed : source.Hop .xRequestId ∨ source.values .xRequestId = [] → sent.values .xRequestId = [id]
  passed : ∀ n, n ∉ refusalNames → ¬ source.Hop n → sent.values n = source.values n
  dropped : ∀ n, n ∉ refusalNames → source.Hop n → sent.values n = []

/-- What may be passed on is as it was, and nothing else is left. -/
theorem values_endToEnd_of_hop (hop : source.Hop n) : source.endToEnd.values n = [] := by
  rw [values_endToEnd, if_neg fun passes => isEndToEnd_iff_not_hop.1 passes hop]

theorem values_endToEnd_of_not_hop (passes : ¬ source.Hop n) : source.endToEnd.values n = source.values n := by
  rw [values_endToEnd, if_pos (isEndToEnd_iff_not_hop.2 passes)]

/-- However many lengths the backend announces, and also if it lists the name for its connection. -/
theorem contentLength_refusedHeaders (source : Headers) :
    (refusedHeaders idle c source).values .contentLength = [.zero] := by
  unfold refusedHeaders
  dsimp only
  rw [values_stampId_of_ne _ _ (by decide), values_keepOpen_of_ne _ _ (by decide) (by decide), values_insert, if_pos rfl]

theorem values_refusedHeaders_of_not_mem (source : Headers) (hn : n ∉ refusalNames) :
    (refusedHeaders idle c source).values n = source.endToEnd.values n := by
  simp only [refusalNames, List.mem_cons, List.not_mem_nil, or_false, not_or] at hn
  obtain ⟨hl, hc, hk, hi⟩ := hn
  unfold refusedHeaders
  dsimp only
  rw [values_stampId_of_ne _ _ hi, values_keepOpen_of_ne _ _ hc hk, values_insert, if_neg hl,
    values_mergeEndToEnd_contentLength source hl]

theorem refusedFrom_refusedHeaders (encodes : HeaderValue.ofString? c.requestId = some id) (source : Headers) :
    (refusedHeaders idle c source).RefusedFrom source idle id := by
  have ids : (refusedHeaders idle c source).values .xRequestId = source.endToEnd.idsWith id :=
    ids_refusedHeaders encodes source
  obtain ⟨connection, keepAlive⟩ : (refusedHeaders idle c source).Declares (.stays (.keepAliveFor idle)) :=
    declares_refusedHeaders source
  refine ⟨contentLength_refusedHeaders source, connection, keepAlive, fun passes some => ?_, fun none => ?_,
    fun n hn passes => ?_, fun n hn hop => ?_⟩
  · rw [ids, idsWith, values_endToEnd_of_not_hop passes, if_neg some]
  · have left : source.endToEnd.values .xRequestId = [] := by
      by_cases hop : source.Hop .xRequestId
      · exact values_endToEnd_of_hop hop
      · rw [values_endToEnd_of_not_hop hop]
        exact none.resolve_left hop
    rw [ids, idsWith, if_pos left]
  · rw [values_refusedHeaders_of_not_mem source hn, values_endToEnd_of_not_hop passes]
  · rw [values_refusedHeaders_of_not_mem source hn, values_endToEnd_of_hop hop]

end Headers

namespace Exchange

variable {x start : Exchange} {request : RequestHead} {tls : Bool} {client : SocketAddress} {es : List Event}
  {key : HeaderValue} {status : Status} {headers : Headers}

/-- Once the backend has refused, the handler passes the refusal on, and the request has ended well. -/
theorem Sound.refuses (sound : x.Sound) (phase : x.handler = .connecting key)
    (refused : x.socketAnswer = some (.refused status headers)) (now : Nat) :
    ∃ y, x.stepHandler now = some y
      ∧ y.milestones = [.answered ⟨status, none, refusedHeaders x.profile.idle x.context headers⟩ true (some 0)]
      ∧ y.clientBody = some (.direct .empty) ∧ y.guard.outcome = some .completed ∧ y.Sound := by
  obtain ⟨unanswered, unset, -⟩ := sound.waiting (.inr (.inr ⟨key, phase⟩))
  have none : x.guard.outcome = none := by
    rw [unset]
    rfl
  have stepped : x.stepHandler now = some (x.answerSocket key (.refused status headers)) := by
    simp only [Exchange.stepHandler, phase, refused, Option.map_some]
  refine ⟨_, stepped, ?_, rfl, outcome_complete_of_unset none, (settled_answerSocket unanswered unset key _).toSound⟩
  unfold answerSocket
  rw [milestones_finishTraced]
  show x.milestones ++ _ = _
  rw [unanswered.milestones]
  rfl

/-- A request that ended well stays so, and no failure is ever handed over. -/
theorem Sound.stays_completed (sound : x.Sound) (completed : x.guard.outcome = some .completed) {z : Exchange}
    (run : Run x es z) : z.guard.outcome = some .completed ∧ z.handovers = [] := by
  obtain ⟨after, outcome⟩ := sound.outcome_run run completed
  exact ⟨outcome, after.endsOnce.completed outcome⟩

/-- Whatever a backend refuses a websocket with, the client is answered with the status and the fields that may be passed
on, and with no body. The request has ended well, and neither was a failure handed over nor will one ever be. -/
theorem Run.passes_refusal (begins : start.Begins request tls client) (run : Run start es x)
    (phase : x.handler = .connecting key) (refused : x.socketAnswer = some (.refused status headers)) (now : Nat) :
    ∃ ids y head, .arrived ids ∈ es ∧ x.stepHandler now = some y ∧ y.milestones = [.answered head true (some 0)]
      ∧ y.clientBody = some (.direct .empty) ∧ head.status = status ∧ head.phrase = none
      ∧ head.headers.RefusedFrom headers start.profile.idle (ids.idFor request.headers)
      ∧ ∀ fs z, Run y fs z → z.guard.outcome = some .completed ∧ z.handovers = [] := by
  obtain ⟨ids, arrived, profile, encodes⟩ := begins.encodes run (by simp [isHandling, phase])
  obtain ⟨y, step, milestones, body, completed, sound⟩ := (run.sound begins.fresh).refuses phase refused now
  refine ⟨ids, y, _, arrived, step, milestones, body, rfl, rfl, ?_, fun fs z later => ?_⟩
  · rw [profile]
    exact Headers.refusedFrom_refusedHeaders encodes headers
  · exact sound.stays_completed completed later

/-- The fields of a refusal with two lengths, and with an id that is to stay with the connection. -/
def reserve : Headers :=
  ⟨[(.connection, ⟨charBytes "close, X-Request-Id".toList, by decide⟩), (.contentLength, .ofNat 5),
    (.contentLength, .ofNat 6), (.xRequestId, .ofNat 9), (.secWebSocketVersion, .thirteen)]⟩

/-- The client reads one length, its own id, and what else the backend wants it to know. -/
theorem passes_refusal_reserve : ∃ x y key head, chatting.Begins chatting.head false ⟨.v4 127 0 0 1, 40000⟩
    ∧ Run chatting (answeredBy (.refused .notFound reserve)) x ∧ x.handler = .connecting key
    ∧ x.socketAnswer = some (.refused .notFound reserve) ∧ x.stepHandler 0 = some y
    ∧ y.milestones = [.answered head true (some 0)] ∧ y.handovers = [] ∧ head.status = .notFound
    ∧ head.headers.values .connection = [.keepAlive] ∧ head.headers.values .contentLength = [.zero]
    ∧ head.headers.values .xRequestId = [.ofNat 7] ∧ head.headers.values .secWebSocketVersion = [.thirteen] := by
  have begins : chatting.Begins chatting.head false ⟨.v4 127 0 0 1, 40000⟩ := begins_towards _ _ _
  obtain ⟨x, key, run, phase, refused, -⟩ := run_answeredBy (.refused .notFound reserve)
  obtain ⟨ids, y, head, arrived, step, milestones, -, status, -, fields, stays⟩ :=
    Run.passes_refusal begins run phase refused 0
  obtain rfl : ids = ⟨7⟩ := by simpa [answeredBy] using arrived
  have listed : reserve.Hop .xRequestId := Classical.not_not.1 fun passes =>
    absurd (Headers.isEndToEnd_iff_not_hop.2 passes) (by decide +kernel)
  have passes : ¬ reserve.Hop .secWebSocketVersion := Headers.isEndToEnd_iff_not_hop.1 (by decide +kernel)
  have id : RequestIds.idFor ⟨7⟩ chatting.head.headers = .ofNat 7 := by decide +kernel
  have version : reserve.values .secWebSocketVersion = [.thirteen] := by decide +kernel
  refine ⟨x, y, key, head, begins, run, phase, refused, step, milestones, (stays [] y .refl).2, status, fields.connection,
    fields.contentLength, ?_, ?_⟩
  · rw [fields.unnamed (.inl listed), id]
  · rw [fields.passed .secWebSocketVersion (by decide) passes, version]

end Exchange

end Gateway
