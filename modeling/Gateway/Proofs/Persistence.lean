import Gateway.Proofs.Arrival

/-!
# What a client is told of its connection

Two fields of a response say whether its connection stays open: `connection` and `keep-alive`. Four kinds of heads get
them in four ways, and what a backend says of its own connection must not reach the client of the gateway.
`Exchange.Persists` lists, for every head the gateway returns, what these fields say.

The main theorem is `Run.persists`.
-/

namespace Gateway

/-- What a head says of its connection. -/
inductive Persistence where
  | unsaid
  | stays (parameters : HeaderValue)
  | closes
  | switches

namespace Headers

variable {h source : Headers} {idle : Duration} {c : Context}

/-- The fields say this of their connection, and nothing else. -/
def Declares (h : Headers) : Persistence → Prop
  | .unsaid => h.values .connection = [] ∧ h.values .keepAlive = []
  | .stays parameters => h.values .connection = [.keepAlive] ∧ h.values .keepAlive = [parameters]
  | .closes => h.values .connection = [.close] ∧ h.values .keepAlive = []
  | .switches => h.values .connection = [.upgrade] ∧ h.values .keepAlive = []

/-- Only one thing is said. -/
theorem Declares.unique {p q : Persistence} (hp : h.Declares p) (hq : h.Declares q) : p = q := by
  cases p <;> cases q <;> simp only [Declares] at hp hq
  case unsaid.unsaid | closes.closes | switches.switches => rfl
  case stays.stays =>
    have same := hp.2.symm.trans hq.2
    injection same with same
    rw [same]
  all_goals exact absurd (hp.1.symm.trans hq.1) (by decide)

theorem Declares.congr {g : Headers} {p : Persistence} (hp : h.Declares p)
    (connection : g.values .connection = h.values .connection) (keepAlive : g.values .keepAlive = h.values .keepAlive) :
    g.Declares p := by
  cases p <;> simpa only [Declares, connection, keepAlive] using hp

theorem Declares.stampId {p : Persistence} (hp : h.Declares p) (id : String) : (h.stampId id).Declares p :=
  hp.congr (values_stampId_of_ne h id (by decide)) (values_stampId_of_ne h id (by decide))

theorem declares_keepOpen (h : Headers) (parameters : HeaderValue) : (h.keepOpen parameters).Declares (.stays parameters) := by
  unfold keepOpen
  constructor
  · rw [values_insert, if_neg (by decide), values_insert, if_pos rfl]
  · rw [values_insert, if_pos rfl]

theorem declares_closeAfter (h : Headers) : h.closeAfter.Declares .closes := by
  unfold closeAfter
  constructor
  · rw [values_insert, if_pos rfl]
  · rw [values_insert, if_neg (by decide), values_remove, if_pos rfl]

/-- Fields that concern a connection are not merged. -/
theorem values_mergeEndToEnd_of_mem (h source : Headers) {n : HeaderName} (hn : n ∈ hopByHopNames) :
    (h.mergeEndToEnd source).values n = [] := by
  have hop : source.isEndToEnd n = false := by simp [isEndToEnd, hn]
  rw [values_mergeEndToEnd, hop]
  rfl

theorem declares_mergeEndToEnd (h source : Headers) : (h.mergeEndToEnd source).Declares .unsaid :=
  ⟨values_mergeEndToEnd_of_mem h source (by decide), values_mergeEndToEnd_of_mem h source (by decide)⟩

theorem asksToClose_iff : source.asksToClose = true ↔ source.Lists "close".toList := by
  rw [asksToClose, List.contains_iff_mem, mem_connectionOptions (by decide)]

/-! ## The heads of the gateway -/

/-- Fields that say nothing of the connection are completed, over HTTP/1. -/
theorem declares_finishHeaders (unsaid : h.Declares .unsaid) :
    (finishHeaders idle c h).Declares (if c.isHttp2 then .unsaid else .stays (.keepAliveFor idle)) := by
  have stamped := unsaid.stampId c.requestId
  have silent : (h.stampId c.requestId).contains .connection = false := by simp [contains_eq, stamped.1]
  unfold finishHeaders
  dsimp only
  rw [silent]
  cases c.isHttp2 with
  | true => exact stamped
  | false => exact declares_keepOpen _ _

/-- A relayed head says what becomes of the client's connection: nothing over HTTP/2, otherwise that it closes if it
must, and else that it stays unless the backend closes its own. -/
theorem declares_relayedHeaders (mustClose : Bool) (source : Headers) :
    (relayedHeaders idle c mustClose source).Declares
      (if c.isHttp2 then .unsaid
      else if mustClose then .closes
      else if source.asksToClose then .unsaid
      else .stays (.keepAliveFor idle)) := by
  unfold relayedHeaders
  refine Declares.stampId ?_ _
  -- nothing of the backend's is left after the merge, so what is written last is all that is said
  cases c.isHttp2 with
  | true => simpa using declares_mergeEndToEnd empty source
  | false =>
    cases mustClose with
    | true => exact declares_closeAfter _
    | false =>
      cases source.asksToClose with
      | true => exact declares_mergeEndToEnd empty source
      | false => exact declares_keepOpen _ _

theorem declares_refusedHeaders (source : Headers) :
    (refusedHeaders idle c source).Declares (.stays (.keepAliveFor idle)) :=
  (declares_keepOpen _ _).stampId _

theorem declares_failedSocketHeaders : (failedSocketHeaders idle c).Declares (.stays (.keepAliveFor idle)) :=
  (declares_keepOpen _ _).stampId _

theorem declares_switching (accept protocol : Option HeaderValue) :
    (Response.switching accept protocol).head.headers.Declares .switches := by
  unfold Response.switching
  cases accept <;> cases protocol <;> constructor <;> simp only [values_insert] <;> rfl

/-- What a backend says of its connection, its transfer or an upgrade stays between it and the gateway. -/
theorem values_relayedHeaders_of_mem (mustClose : Bool) (source : Headers) {n : HeaderName} (hn : n ∈ hopByHopNames)
    (hc : n ≠ .connection) (hk : n ≠ .keepAlive) : (relayedHeaders idle c mustClose source).values n = [] := by
  have hi : n ≠ .xRequestId := by
    rintro rfl
    exact absurd hn (by decide)
  have hop : source.isEndToEnd n = false := by simp [isEndToEnd, hn]
  rw [values_relayedHeaders_of_ne idle c mustClose source hi hc hk, hop]
  rfl

theorem values_refusedHeaders_of_mem (source : Headers) {n : HeaderName} (hn : n ∈ hopByHopNames)
    (hc : n ≠ .connection) (hk : n ≠ .keepAlive) : (refusedHeaders idle c source).values n = [] := by
  have hi : n ≠ .xRequestId := by
    rintro rfl
    exact absurd hn (by decide)
  have hl : n ≠ .contentLength := by
    rintro rfl
    exact absurd hn (by decide)
  unfold refusedHeaders
  dsimp only
  rw [values_stampId_of_ne _ _ hi, values_keepOpen_of_ne _ _ hc hk, values_insert, if_neg hl,
    values_mergeEndToEnd_of_mem _ _ hn]

/-- The client waits for an interim answer before it sends the body: its first `expect` value says so. -/
def WaitsForInterim (h : Headers) : Prop :=
  ∃ v t, h.get? .expect = some v ∧ v.text? = some t ∧ lower (trim t) = "100-continue".toList

theorem expectsContinue_iff : h.expectsContinue = true ↔ h.WaitsForInterim := by
  have word : lower "100-continue".toList = "100-continue".toList := by decide
  unfold expectsContinue announces WaitsForInterim Headers.text?
  cases h.get? .expect with
  | none => simp
  | some v =>
    cases ht : v.text? with
    | none => simp [ht]
    | some t =>
      simp only [Option.bind_eq_bind, Option.bind_some, ht, sameText, word, beq_iff_eq]
      constructor
      · intro same
        exact ⟨v, t, rfl, ht, same⟩
      · rintro ⟨_, _, ⟨⟩, hu, same⟩
        rw [ht] at hu
        cases hu
        exact same

end Headers

namespace Exchange

variable {x y start : Exchange} {request : RequestHead} {tls : Bool} {client : SocketAddress} {es : List Event}
  {head : ResponseHead}

/-- A head that goes out from `x` to `y` in answer to a request, and what it says of the client's connection. What the
head of a relayed response says was settled when it was composed, at an earlier step of the run. -/
inductive Persists (start : Exchange) (es : List Event) (x y : Exchange) (request : RequestHead) (idle : Duration)
    (head : ResponseHead) : Prop where
  /-- the resolver's own answer -/
  | supplied {resolved : RequestHead} {response : Response} (phase : x.handler = .resolving)
      (answer : x.resolver x.head x.context.tls = ⟨resolved, .ok (.answered response)⟩)
      (same : head = headWith response (finishHeaders idle x.context response.head.headers))
  | relayed {body : ClientBody} {response : Response} {before : List Event} {w : Exchange} {d : Event} {v : Exchange}
      {after : List Event} (phase : x.handler = .heading head body) (cut : Run.Cut start es x before w d v after)
      (composes : Composes w response head v)
      (unsaid : request.version = .http2 → head.headers.Declares .unsaid)
      (closes : request.version ≠ .http2 →
        (head.headers.Declares .closes ↔ request.headers.WaitsForInterim ∧ w.bodyComplete = false))
      (follows : request.version ≠ .http2 → ¬ (request.headers.WaitsForInterim ∧ w.bodyComplete = false) →
        (head.headers.Declares .unsaid ↔ response.head.headers.Lists "close".toList)
        ∧ (head.headers.Declares (.stays (.keepAliveFor idle)) ↔ ¬ response.head.headers.Lists "close".toList))
      (dropped : ∀ n ∈ Headers.hopByHopNames, n ≠ .connection → n ≠ .keepAlive → head.headers.values n = [])
  | failed {failure : Rejection} (asked : .pageAsked failure ∈ y.log)
      (declares : head.headers.Declares (if request.version = .http2 then .unsaid else .stays (.keepAliveFor idle)))
  /-- the backend refused a websocket -/
  | refused {key : HeaderValue} {status : Status} {headers : Headers} (phase : x.handler = .connecting key)
      (answer : x.socketAnswer = some (.refused status headers)) (version : request.version ≠ .http2)
      (stays : head.headers.Declares (.stays (.keepAliveFor idle)))
      (dropped : ∀ n ∈ Headers.hopByHopNames, n ≠ .connection → n ≠ .keepAlive → head.headers.values n = [])
  /-- no websocket could be had -/
  | socketless {cause : Cause} (failed : .traced (.socketFailed cause) ∈ y.log) (version : request.version ≠ .http2)
      (stays : head.headers.Declares (.stays (.keepAliveFor idle)))
  | switched {key : HeaderValue} {protocol : Option HeaderValue} (phase : x.handler = .connecting key)
      (answer : x.socketAnswer = some (.accepted protocol)) (version : request.version ≠ .http2)
      (switches : head.headers.Declares .switches)

/-- What a relayed head says, read off what it must say. -/
theorem persists_relayed {idle : Duration} {body : ClientBody} {response : Response} {before after : List Event}
    {w v : Exchange} {d : Event} (phase : x.handler = .heading head body) (cut : Run.Cut start es x before w d v after)
    (composes : Composes w response head v) (profile : w.profile.idle = idle)
    (version : w.context.isHttp2 = true ↔ request.version = .http2)
    (expects : w.expectsContinue = request.headers.expectsContinue) : Persists start es x y request idle head := by
  have early : (w.expectsContinue && !w.bodyComplete) = true
      ↔ request.headers.WaitsForInterim ∧ w.bodyComplete = false := by
    rw [expects, Bool.and_eq_true, Headers.expectsContinue_iff, Bool.not_eq_true']
  have fields : head.headers
      = relayedHeaders idle w.context (w.expectsContinue && !w.bodyComplete) response.head.headers := by
    rw [composes.relayed, ← profile]
    rfl
  have declares := @Headers.declares_relayedHeaders idle w.context (w.expectsContinue && !w.bodyComplete)
    response.head.headers
  rw [← fields] at declares
  refine .relayed phase cut composes (fun http2 => ?_) (fun http1 => ?_) (fun http1 late => ?_) fun n hn hc hk => ?_
  · rwa [if_pos (version.2 http2)] at declares
  · rw [if_neg (mt version.1 http1)] at declares
    rw [← early]
    by_cases must : (w.expectsContinue && !w.bodyComplete) = true
    · rw [if_pos must] at declares
      exact iff_of_true declares must
    · rw [if_neg must] at declares
      refine iff_of_false (fun closes => ?_) must
      split at declares <;> cases declares.unique closes
  · rw [← early] at late
    rw [if_neg (mt version.1 http1), if_neg late] at declares
    rw [← Headers.asksToClose_iff]
    by_cases asks : response.head.headers.asksToClose = true
    · rw [if_pos asks] at declares
      refine ⟨iff_of_true declares asks, iff_of_false (fun stays => ?_) (not_not_intro asks)⟩
      cases declares.unique stays
    · rw [if_neg asks] at declares
      refine ⟨iff_of_false (fun unsaid => ?_) asks, iff_of_true declares asks⟩
      cases declares.unique unsaid
  · rw [fields]
    exact Headers.values_relayedHeaders_of_mem _ _ hn hc hk

/-- Every head that goes out, other than the resolver's own, says of the client's connection what the version of the
request, its expectations and the outcome call for, and nothing that a backend says of its own. -/
theorem Run.persists (begins : start.Begins request tls client) (run : Run start es x) {e : Event} (step : Step x e y)
    (pages : ∀ failure, (start.profile.page failure).head.headers.Declares .unsaid) {ended : Bool} {length : Option Nat}
    (unsent : .answered head ended length ∉ x.log) (sent : .answered head ended length ∈ y.log) :
    Persists start es x y request start.profile.idle head := by
  obtain ⟨handling, answered⟩ := step.answers unsent sent
  obtain ⟨ids, -, profile, context, -, socket⟩ := begins.handling run handling
  have version : x.context.isHttp2 = true ↔ request.version = .http2 := by
    rw [context, Context.isHttp2, beq_iff_eq]
  have http1 {key : HeaderValue} (phase : x.handler = .connecting key) : request.version ≠ .http2 := by
    rw [ne_eq, ← version, socket key phase]
    exact Bool.false_ne_true
  cases answered with
  -- the resolver may say what it likes
  | resolved phase answer => exact .supplied phase answer (by rw [profile])
  | @failed failure asked =>
    have unsaid := pages failure
    rw [← profile] at unsaid
    have declares := @Headers.declares_finishHeaders _ x.profile.idle x.context unsaid
    rw [← headers_headWith (x.profile.page failure) (finishHeaders _ _ _)] at declares
    simp only [version, profile] at declares
    refine .failed asked ?_
    rw [pageHead, profile]
    exact declares
  | relayed phase =>
    have held : x.handler.head? = some head := by rw [phase]; rfl
    obtain ⟨before, w, d, v, after, response, cut, composes⟩ := run.composed begins.fresh held
    obtain ⟨ids, -, profile, context, expects, -⟩ := begins.handling cut.first (by simp [isHandling, composes.phase])
    refine persists_relayed phase cut composes (by rw [profile]) ?_ expects
    rw [context, Context.isHttp2, beq_iff_eq]
  | accepted phase answer =>
    refine .switched phase answer (http1 phase) ?_
    rw [headers_headWith]
    exact (Headers.declares_switching _ _).stampId _
  | @refused key status headers phase answer =>
    rw [profile]
    refine .refused phase answer (http1 phase) ?_ fun n hn hc hk => ?_
    · rw [headers_headWith]
      exact Headers.declares_refusedHeaders headers
    · rw [headers_headWith]
      exact Headers.values_refusedHeaders_of_mem headers hn hc hk
  | socketless asked failed =>
    have older : request.version ≠ .http2 := by
      rcases asked with plain | ⟨key, phase⟩
      · rw [ne_eq, ← version, plain]
        exact Bool.false_ne_true
      · exact http1 phase
    rw [profile]
    refine .socketless failed older ?_
    rw [headers_headWith]
    exact Headers.declares_failedSocketHeaders

/-- The gateway's own pages say nothing of the connection. -/
theorem declares_page (failure : Rejection) : failure.page.head.headers.Declares .unsaid := by
  unfold Rejection.page Response.plainText
  constructor <;> rw [Headers.values_insert, if_neg (by decide)] <;> rfl

/-- A request whose client waits before it sends the body. -/
def reserved : Exchange :=
  towards (.forward ⟨"backend", 80, "/", ""⟩)
    ⟨[(.host, .zero), (.expect, ⟨charBytes " 100-Continue".toList, by decide⟩)]⟩ (.streamed (.arriving (.ofItems [] false)))

/-- A response at once, by which the backend keeps its own connection open. -/
def atOnce : Response where
  head := { status := .ok, phrase := none, headers := ⟨[(.connection, .keepAlive)]⟩ }
  body := .empty

/-- Whether nothing failed. -/
def wentWell (y : Exchange) : Bool := y.log.all fun
  | .pageAsked _ | .abandoned _ | .traced (.socketFailed _) => false
  | _ => true

/-- A backend that answers before the body arrived has the client's connection closed. -/
theorem persists_reserved : ∃ es x y head ended length, reserved.Begins reserved.head false ⟨.v4 127 0 0 1, 40000⟩
    ∧ Run reserved es x ∧ Step x (.handlerStepped 0) y ∧ .answered head ended length ∉ x.log
    ∧ .answered head ended length ∈ y.log ∧ head.headers.Declares .closes := by
  let es : List Event := [.arrived ⟨0⟩, .resolverAllowed, .handlerStepped 0, .backendAnswered (.ok atOnce),
    .handlerStepped 0, .handlerStepped 0, .handlerStepped 0]
  have reached : (es.foldlM perform reserved).any (fun x => (x.perform (.handlerStepped 0)).any fun y =>
      x.handler.head?.isSome ∧ x.milestones = [] ∧ wentWell y = true ∧ y.milestones ≠ []) = true := by decide +kernel
  have incomplete : (List.range es.length).all (fun n =>
      ((es.take n).foldlM perform reserved).all fun w => !w.bodyComplete) = true := by decide +kernel
  obtain ⟨x, hx, h⟩ := (Option.any_eq_true _ _).1 reached
  obtain ⟨y, hy, h⟩ := (Option.any_eq_true _ _).1 h
  obtain ⟨holds, before, relays, after⟩ := of_decide_eq_true h
  have expects : reserved.head.headers.WaitsForInterim := Headers.expectsContinue_iff.1 (by decide +kernel)
  have begins : reserved.Begins reserved.head false ⟨.v4 127 0 0 1, 40000⟩ := ⟨fresh_towards _ _ _, rfl, rfl⟩
  have run := run_of_perform hx
  have step : Step x (.handlerStepped 0) y := step_of_perform hy
  obtain ⟨o, mem⟩ := List.exists_mem_of_ne_nil _ after
  obtain ⟨logged, milestone⟩ := List.mem_filter.1 mem
  have allowed := List.all_eq_true.1 relays
  cases o with
  | traced | forwarded | socketAsked => cases milestone
  | pageAsked | abandoned => exact absurd (allowed _ logged) Bool.false_ne_true
  | answered head ended length =>
    have unsent : .answered head ended length ∉ x.log := by
      rw [← mem_milestones rfl, before]
      exact List.not_mem_nil
    refine ⟨es, x, y, head, ended, length, begins, run, step, unsent, logged, ?_⟩
    cases Run.persists begins run step declares_page unsent logged with
    | relayed _ cut _ _ closes =>
      have early := cut.of_prefixes (P := fun w => !w.bodyComplete) incomplete
      exact (closes (by decide)).2 ⟨expects, by simpa using early⟩
    | failed asked => exact absurd (allowed _ asked) Bool.false_ne_true
    | socketless failed => exact absurd (allowed _ failed) Bool.false_ne_true
    | supplied other | refused other | switched other => simp [HandlerPhase.head?, other] at holds

end Exchange

end Gateway
