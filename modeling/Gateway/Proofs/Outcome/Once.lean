import Gateway.Proofs.Outcome.Sound

/-!
# A request ends once

Handler, upload, relay and the departure of the client race for the outcome of a request, and three of them may hand a
failure over: by asking for an answer, or by reporting it when there is nothing left to answer.

The main theorem is `Run.ends_once`. Its parts:
* an outcome never changes (`Step.outcome`);
* at most one failure is handed over, and it is the recorded one;
* an answer to a failure is asked for before anything was answered, and it is the answer (`Sound.page`);
* a failure is reported when the client has left before the head of the response, or after that head; or by a relay that
  came to its end while the handler still held the head (`Early`);
* where no part can move, a recorded failure was handed over, unless it was that of a websocket, which the gateway
  answers itself, or was recorded too late to be seen by the handler and there is no relay to report it (`Overtaken`);
* the latter is what becomes of every failure that is recorded between the head of a response whose body is over and
  the end of the request (`Sound.overtaken`).

`handed_over_late_and_early` shows a run of each of the two kinds.
-/

namespace Gateway

/-- The second head is the first one with the fields every response gets: the request id where it has none, and what
concerns persistence where it says nothing of the connection. -/
structure ResponseHead.FinishedFrom (page head : ResponseHead) : Prop where
  status : head.status = page.status
  phrase : head.phrase = page.phrase
  others : ∀ n, n ≠ .xRequestId → n ≠ .connection → n ≠ .keepAlive → head.headers.values n = page.headers.values n
  id : page.headers.contains .xRequestId → head.headers.values .xRequestId = page.headers.values .xRequestId
  persistence : page.headers.contains .connection →
    head.headers.values .connection = page.headers.values .connection
      ∧ head.headers.values .keepAlive = page.headers.values .keepAlive

theorem finishedFrom_headWith (idle : Duration) (c : Context) (r : Response) :
    r.head.FinishedFrom (Exchange.headWith r (finishHeaders idle c r.head.headers)) where
  status := rfl
  phrase := rfl
  others := fun _ hi hc hk => values_finishHeaders_of_ne idle c _ hi hc hk
  id := fun h => values_finishHeaders_xRequestId idle c h
  persistence := fun h =>
    ⟨values_finishHeaders_of_connection idle c h (by decide), values_finishHeaders_of_connection idle c h (by decide)⟩

/-- The cause where it tells of a websocket that failed. -/
def Observation.socketFailure? : Observation → Option Cause
  | .traced (.socketFailed cause) => some cause
  | _ => none

/-- The head that goes out next, where its body is relayed. -/
def HandlerPhase.relayedHead? : HandlerPhase → Option ResponseHead
  | .heading head .relayed => some head
  | _ => none

theorem HandlerPhase.relayedHead?_eq_some_iff {p : HandlerPhase} {head : ResponseHead} :
    p.relayedHead? = some head ↔ p = .heading head .relayed := by
  unfold relayedHead?
  split <;> simp_all

namespace Exchange

variable {x y z : Exchange}

/-- A relay reported the failure while the handler still held the head of the response. -/
def Early (x : Exchange) (failure : Rejection) : Prop :=
  x.relaying = some false
    ∧ ((∃ head, x.handler = .heading head .relayed ∧ x.milestones = [.abandoned failure])
      ∨ ∃ head ended length, x.handler = .returned ∧ x.milestones = [.abandoned failure, .answered head ended length])

/-- What is known of the end of a request at any time. -/
structure EndsOnce (x : Exchange) : Prop where
  /-- failures are handed over at most once in all -/
  once : x.handovers.length ≤ 1
  /-- what is handed over is the recorded failure -/
  recorded : ∀ failure ∈ x.handovers, x.guard.outcome = some (.failed failure)
  /-- a request that ended well hands nothing over -/
  completed : x.guard.outcome = some .completed → x.handovers = []
  /-- the answer to a failure is the first and only one -/
  paged : ∀ failure, .pageAsked failure ∈ x.log → ∃ head,
    (x.profile.page failure).head.FinishedFrom head
      ∧ x.milestones = [.pageAsked failure, .answered head (x.profile.page failure).body.isEnded
          (x.profile.page failure).body.exactLength]
  /-- a failure is reported after the head of the response, or with nobody left to send one to, or by a relay that
  was quicker than the head -/
  abandoned : ∀ failure, .abandoned failure ∈ x.log →
    (∃ head ended length, x.milestones = [.answered head ended length, .abandoned failure])
      ∨ (x.handler = .dropped ∧ x.milestones = [.abandoned failure])
      ∨ x.Early failure

/-- The failure is that of a websocket which could not be had, and the gateway has answered it itself. -/
def SocketRefused (x : Exchange) (failure : Rejection) : Prop :=
  ∃ cause, failure = .backend cause ∧ .traced (.socketFailed cause) ∈ x.log
    ∧ x.milestones = [.answered (headWith (.bodiless .badGateway) (failedSocketHeaders x.profile.idle x.context))
        true (some 0)]

/-- The body of the response was over, and only its head went out: the request did not end well, and nobody was told. -/
def Overtaken (x : Exchange) : Prop :=
  x.relaying = none ∧ .traced (.responseEnded 0) ∈ x.log ∧ .traced .answerEnded ∉ x.log
    ∧ ∃ head, x.milestones = [.answered head true (some 0)]

/-! ## What the standings say -/

/-- Only reports are handed over beside the head of a response. -/
theorem HeadStands.handovers {body : ClientBody} {reports : List Observation} (h : x.HeadStands body reports) :
    x.milestones.filterMap Observation.handedOver? = reports.filterMap Observation.handedOver? := by
  cases h with
  | held _ milestones => rw [milestones]
  | first _ milestones =>
    rw [milestones]
    rfl
  | last _ milestones =>
    rw [milestones, List.filterMap_append]
    exact List.append_nil _

/-- In each standing, what was handed over is nothing, or the recorded failure once. -/
theorem Standing.handovers (h : x.Standing) :
    x.handovers = [] ∨ ∃ failure, x.guard.outcome = some (.failed failure) ∧ x.handovers = [failure] := by
  rw [handovers_eq_milestones]
  cases h with
  | waiting _ _ _ _ _ milestones | asking _ _ _ milestones | socketless _ _ _ _ milestones =>
    left
    rw [milestones]
    rfl
  | streaming head | finished head | overtaken head => exact .inl head.handovers
  | paged _ guard _ milestones | deserted _ guard _ milestones =>
    right
    exact ⟨_, guard, by rw [milestones]; rfl⟩
  | brokenOff head guard => exact .inr ⟨_, guard, head.handovers⟩

/-- Beside the head of a response, only what was reported is a milestone. -/
theorem HeadStands.mem_reports {body : ClientBody} {reports : List Observation} {o : Observation}
    (h : x.HeadStands body reports) (mem : o ∈ x.milestones) :
    o ∈ reports ∨ ∃ head ended length, o = .answered head ended length := by
  cases h with
  | held _ milestones => exact .inl (milestones ▸ mem)
  | first _ milestones =>
    rw [milestones, List.mem_cons] at mem
    rcases mem with rfl | reported
    · exact .inr ⟨_, _, _, rfl⟩
    · exact .inl reported
  | last _ milestones =>
    rw [milestones, List.mem_append, List.mem_singleton] at mem
    rcases mem with reported | rfl
    · exact .inl reported
    · exact .inr ⟨_, _, _, rfl⟩

theorem Standing.paged_of_mem (h : x.Standing) {failure : Rejection} (hf : .pageAsked failure ∈ x.log) :
    x.handler = .returned ∧ x.milestones = [.pageAsked failure, x.pageAnswer failure] := by
  rw [← mem_milestones rfl] at hf
  cases h with
  | paged handler _ _ milestones =>
    have hf' := hf
    simp only [milestones, List.mem_cons, pageAnswer, reduceCtorEq, List.not_mem_nil, or_false,
      Observation.pageAsked.injEq] at hf'
    exact ⟨handler, by rw [milestones, hf']⟩
  | waiting _ _ _ _ _ milestones | asking _ _ _ milestones | deserted _ _ _ milestones
  | socketless _ _ _ _ milestones => simp [milestones] at hf
  | streaming head | finished head | brokenOff head | overtaken head => simpa using head.mem_reports hf

theorem Standing.abandoned_of_mem (h : x.Standing) {failure : Rejection} (hf : .abandoned failure ∈ x.log) :
    (∃ head ended length, x.milestones = [.answered head ended length, .abandoned failure])
      ∨ (x.handler = .dropped ∧ x.milestones = [.abandoned failure])
      ∨ x.Early failure := by
  rw [← mem_milestones rfl] at hf
  cases h with
  | brokenOff head guard relay =>
    obtain rfl : failure = _ := by simpa using head.mem_reports hf
    cases head with
    | held handler milestones => exact .inr (.inr ⟨relay, .inl ⟨_, handler, milestones⟩⟩)
    | first _ milestones => exact .inl ⟨_, _, _, milestones⟩
    | last handler milestones => exact .inr (.inr ⟨relay, .inr ⟨_, _, _, handler, milestones⟩⟩)
  | deserted handler _ _ milestones =>
    obtain rfl : failure = _ := by simpa [milestones] using hf
    exact .inr (.inl ⟨handler, milestones⟩)
  | waiting _ _ _ _ _ milestones | asking _ _ _ milestones | paged _ _ _ milestones
  | socketless _ _ _ _ milestones => simp [milestones, pageAnswer] at hf
  | streaming head | finished head | overtaken head => simpa using head.mem_reports hf

theorem Sound.endsOnce (h : x.Sound) : x.EndsOnce where
  once := by
    rcases h.standing.handovers with hh | ⟨f, -, hh⟩ <;> simp [hh]
  recorded := by
    intro failure hf
    rcases h.standing.handovers with hh | ⟨f, hg, hh⟩
    · simp [hh] at hf
    · obtain rfl : failure = f := by simpa [hh] using hf
      exact hg
  completed := by
    intro hc
    rcases h.standing.handovers with hh | ⟨f, hg, -⟩
    · exact hh
    · rw [hc] at hg
      cases hg
  paged := fun failure hf => ⟨_, finishedFrom_headWith x.profile.idle x.context _, (h.standing.paged_of_mem hf).2⟩
  abandoned := fun failure hf => h.standing.abandoned_of_mem hf

/-! ## Outcomes stay -/

variable {o : Outcome}

theorem outcome_fail (ho : x.guard.outcome = some o) (failure : Rejection) :
    (x.fail failure).guard.outcome = some o := by
  rw [fail_of_terminated ho, ho]

theorem outcome_complete (ho : x.guard.outcome = some o) : x.complete.guard.outcome = some o := by
  show x.guard.complete.2.outcome = _
  rw [Guard.complete_of_set ho, ho]

theorem guard_abandon (x : Exchange) : x.abandon.guard = x.guard := by
  obtain ⟨_, same⟩ := touches_abandon x
  rw [same]

theorem outcome_failRelay_of_unset (unset : x.guard.outcome = none) (u : Transfer) (failure : Rejection) :
    (x.failRelay u failure).guard.outcome = some (.failed failure) := by
  unfold failRelay
  rw [guard_abandon]
  exact outcome_fail_of_unset unset failure

theorem outcome_failRelay (ho : x.guard.outcome = some o) (u : Transfer) (failure : Rejection) :
    (x.failRelay u failure).guard.outcome = some o := by
  unfold failRelay
  rw [guard_abandon]
  exact outcome_fail (x := x) ho failure

theorem outcome_endRelay (ho : x.guard.outcome = some o) (u : Transfer) (result : PumpResult) :
    (x.endRelay u result).guard.outcome = some o := by
  cases result with
  | moved bytes =>
    unfold endRelay
    dsimp only
    split
    · rw [guard_abandon]
      exact ho
    · exact outcome_complete (x := x.trace (.responseEnded bytes)) ho
  | sinkClosed | sourceFailed cause | timedOut limit => exact outcome_failRelay (x := x.trace _) ho u _

theorem outcome_reject (ho : x.guard.outcome = some o) (failure : Rejection) :
    (x.reject failure).guard.outcome = some o := outcome_fail ho failure

theorem outcome_passEnded (ho : x.guard.outcome = some o) (head : ResponseHead) (response : Response) :
    (x.passEnded head response).guard.outcome = some o := by
  unfold passEnded
  dsimp only
  split
  · exact ho
  · exact outcome_complete (x := x.trace (.responseEnded 0)) ho

theorem Responds.outcome (next : Responds x y) (ho : x.guard.outcome = some o) : y.guard.outcome = some o := by
  cases next with
  | failed | relayed | headed => exact ho
  | @composed response =>
    obtain ⟨_, same⟩ := touches_traceResponse x response
    rw [same]
    exact ho
  | ended => exact outcome_passEnded ho _ _

/-- A handler that has not asked the backend finds no outcome, and one that has keeps what it finds. -/
theorem Sound.outcome_stepHandler (h : x.Sound) {now : Nat} (hy : x.stepHandler now = some y)
    (ho : x.guard.outcome = some o) : y.guard.outcome = some o := by
  have unset_of_waiting (hw : x.handler = .resolving ∨ ∃ key, x.handler = .connecting key) : x.guard.outcome = none := by
    obtain ⟨-, hg, -⟩ := h.waiting (.inr hw)
    rw [hg]
    rfl
  cases stepHandler_cases hy with
  | resolved phase =>
    rw [unset_of_waiting (.inl phase)] at ho
    cases ho
  | connected phase =>
    rw [unset_of_waiting (.inr ⟨_, phase⟩)] at ho
    cases ho
  | forwarded _ next => cases next <;> exact ho
  | failed => exact outcome_reject (x := x.trace _) ho _
  | responded next => exact next.outcome ho

theorem UploadMoves.outcome_of_set {now : Nat} (moves : UploadMoves x now y) (ho : x.guard.outcome = some o) :
    y.guard.outcome = some o := by
  cases moves with
  | records => exact outcome_fail (x := { x with uploadError := none }) ho _
  | cancels | goesOn => exact ho
  | @ends t pump result =>
    obtain ⟨_, _, _, _, same⟩ := touches_endUpload x { t with pump } result
    rw [same]
    exact ho

theorem RelayMoves.outcome_of_set {now : Nat} (moves : RelayMoves x now y) (ho : x.guard.outcome = some o) :
    y.guard.outcome = some o := by
  cases moves with
  | cancels =>
    rw [guard_abandon]
    exact ho
  | goesOn => exact ho
  | ends => exact outcome_endRelay ho _ _

/-- An outcome never changes. -/
theorem Sound.outcome_step {e : Event} (h : x.Sound) (hs : Step x e y) (ho : x.guard.outcome = some o) :
    y.guard.outcome = some o := by
  cases hs.turn with
  | aside frame => rw [frame.guard, ho]
  | arrived ids idle => exact ho
  | deserted waiting =>
    unfold Exchange.dropHandler
    dsimp only
    rw [guard_abandon]
    exact outcome_fail (x := _) ho _
  | handler hy => exact h.outcome_stepHandler hy ho
  | upload moves => exact moves.outcome_of_set ho
  | relay moves => exact moves.outcome_of_set ho

theorem Sound.outcome_run {es : List Event} (h : x.Sound) (run : Run x es y) (ho : x.guard.outcome = some o) :
    y.Sound ∧ y.guard.outcome = some o :=
  run.invariant (I := fun _ z => z.Sound ∧ z.guard.outcome = some o) ⟨h, ho⟩
    fun hz hs => ⟨hz.1.step hs, hz.1.outcome_step hs hz.2⟩

/-! ## Answers to failures -/

/-- When the answer to a failure is asked for, the handler is at work and nothing was answered; the body the client is
handed is that of the answer. -/
theorem Sound.page {e : Event} (h : x.Sound) (hs : Step x e y) {failure : Rejection} (hx : .pageAsked failure ∉ x.log)
    (hy : .pageAsked failure ∈ y.log) :
    x.isHandling ∧ x.milestones = [] ∧ y.handler = .returned
      ∧ y.clientBody = some (.direct (y.profile.page failure).body) := by
  obtain ⟨now, hstep⟩ := hs.observed rfl hx hy
  have settled : y.Settled := h.stepHandler hstep
  have handling : x.isHandling := isHandling_of_stepHandler hstep
  have isOpen : x.handler.isOpen = true := by
    cases stepHandler_cases hstep with
    | resolved phase | forwarded phase | failed phase | connected phase => simp [phase, HandlerPhase.isOpen]
    | responded next =>
      cases next with
      | failed phase | composed phase | ended phase | relayed phase => simp [phase, HandlerPhase.isOpen]
      | headed =>
        -- a head that is held goes out alone
        exact absurd (by simpa [finishTraced, finish, observe, trace] using hy) hx
  exact ⟨handling, (h.unanswered isOpen).milestones, (settled.standing.paged_of_mem hy).1, settled.page failure hy⟩

/-! ## Failures that are recorded too late -/

theorem UploadMoves.milestones {now : Nat} (moves : UploadMoves x now y) : y.milestones = x.milestones := by
  cases moves with
  | records => rfl
  | cancels upload | goesOn upload => exact (frame_upload x upload _).milestones
  | ends upload => exact (frame_endUpload upload _ _).milestones

/-- The body was over, and its head goes out without anything else. -/
structure Silent (x : Exchange) : Prop where
  relay : x.relaying = none
  handler : (∃ head, x.handler = .heading head (.direct .empty)) ∨ x.handler = .returned
  handovers : x.handovers = []

theorem Silent.step {e : Event} (h : x.Silent) (step : Step x e y) : y.Silent := by
  have told {z : Exchange} (same : z.milestones = x.milestones) : z.handovers = [] := by
    rw [handovers_eq_milestones, same, ← handovers_eq_milestones, h.handovers]
  cases step.turn with
  | aside frame => exact ⟨frame.relaying.trans h.relay, by rw [frame.handler]; exact h.handler, told frame.milestones⟩
  | arrived _ idle => rcases h.handler with ⟨head, phase⟩ | phase <;> simp [phase] at idle
  | deserted waiting => rcases h.handler with ⟨head, phase⟩ | phase <;> simp [isWaiting, phase] at waiting
  | handler moved =>
    rcases h.handler with ⟨head, phase⟩ | phase
    · simp only [stepHandler, phase, Option.some.injEq] at moved
      rw [← moved]
      obtain ⟨ended, length, more⟩ := milestones_finish (x.trace (.answerHeaded head.status head.headers)) head
        (.direct .empty)
      refine ⟨h.relay, .inr rfl, ?_⟩
      rw [handovers_eq_milestones, finishTraced, more, milestones_trace, List.filterMap_append,
        ← handovers_eq_milestones, h.handovers]
      rfl
    · simp [stepHandler, phase] at moved
  | upload moves =>
    have same := moves.milestones
    obtain ⟨_, _, _, _, _, rfl⟩ := moves.touches
    exact ⟨h.relay, h.handler, told same⟩
  | relay moves =>
    have none : x.relay = none := Option.map_eq_none_iff.1 h.relay
    cases moves with
    | cancels relay | goesOn relay | ends relay => simp [none] at relay

/-- Where the body was over and a failure was recorded after the handler's last look, nobody is told. -/
theorem Sound.overtaken (h : x.Sound) {head : ResponseHead} {response : Response} {failure : Rejection} {now : Nat}
    (phase : x.handler = .composed head) (answer : x.backendAnswer = some (.ok response))
    (ended : response.body.isEnded = true) (failed : x.guard.outcome = some (.failed failure))
    (moved : x.stepHandler now = some y) {es : List Event} (run : Run y es z) :
    z.guard.outcome = some (.failed failure) ∧ z.handovers = [] := by
  have before : x.Unanswered := h.unanswered (by rw [phase]; rfl)
  have passed : y = x.passEnded head response := by
    simp only [Exchange.stepHandler, phase, response?_eq_some_iff.2 answer, Option.map_some, passBody, ended, if_true,
      Option.some.injEq] at moved
    exact moved.symm
  have silent : y.Silent := by
    have terminated : (x.trace (.responseEnded 0)).guard.isTerminated = true := by
      show x.guard.isTerminated = true
      rw [Guard.isTerminated, failed]
      rfl
    have traced : (x.trace (.responseEnded 0)).milestones = [] := (milestones_trace x _).trans before.milestones
    rw [passed, passEnded]
    simp only [terminated, if_true]
    refine ⟨before.relaying, .inl ⟨head, rfl⟩, ?_⟩
    rw [handovers_eq_milestones]
    show (x.trace (.responseEnded 0)).milestones.filterMap _ = []
    rw [traced]
    rfl
  refine ⟨((h.stepHandler moved).toSound.outcome_run run (h.outcome_stepHandler moved failed)).2, ?_⟩
  exact (run.invariant (I := fun _ z => z.Silent) silent fun h step => h.step step).handovers

/-! ## Nothing else is left over -/

/-- A handler that has asked the backend goes on where a failure is recorded. -/
theorem Sound.moves_of_isAsking (h : x.Sound) {failure : Rejection} (recorded : x.guard.awaitFailure = some failure)
    (asking : x.handler.isAsking = true) (now : Nat) : x.stepHandler now ≠ none := by
  have answered (needs : x.handler.needsResponse = true) : ∃ response, x.response? = some response := by
    obtain ⟨-, -, response, answer, -⟩ := h.holds needs
    exact ⟨response, response?_eq_some_iff.2 answer⟩
  cases phase : x.handler with
  | forwarding since => simp [Exchange.stepHandler, phase, stepForwarding, recorded]
  | failing cause => simp [Exchange.stepHandler, phase]
  | responding | composed =>
    obtain ⟨response, answer⟩ := answered (by rw [phase]; rfl)
    simp [Exchange.stepHandler, phase, answer]
  | idle | resolving | heading | connecting | returned | dropped =>
    rw [phase] at asking
    cases asking

/-- Where no part can move, a recorded failure was handed over, but for two cases. -/
theorem Sound.handed_over (h : x.Sound) {now : Nat} (blocked : x.Blocked now) {failure : Rejection}
    (hg : x.guard.outcome = some (.failed failure)) :
    (x.handovers = [failure] ∨ x.handovers = []) ∧ (x.handovers = [] ↔ x.SocketRefused failure ∨ x.Overtaken) := by
  have recorded : x.guard.awaitFailure = some failure := h.signalled.awaitFailure_eq_some_iff.2 hg
  obtain ⟨handler_blocked, -, relay_blocked, -⟩ := blocked_iff.1 blocked
  have silent (except : x.SocketRefused failure ∨ x.Overtaken) : x.handovers = [] := by
    rw [handovers_eq_milestones]
    rcases except with ⟨_, -, -, milestones⟩ | ⟨-, -, -, _, milestones⟩ <;> rw [milestones] <;> rfl
  have told (handovers : x.handovers = [failure]) :
      (x.handovers = [failure] ∨ x.handovers = []) ∧ (x.handovers = [] ↔ x.SocketRefused failure ∨ x.Overtaken) :=
    ⟨.inl handovers, fun none => (by simp [handovers] at none), silent⟩
  have untold (except : x.SocketRefused failure ∨ x.Overtaken) :
      (x.handovers = [failure] ∨ x.handovers = []) ∧ (x.handovers = [] ↔ x.SocketRefused failure ∨ x.Overtaken) :=
    ⟨.inr (silent except), fun _ => except, silent⟩
  cases h.standing with
  | waiting _ guard =>
    rw [guard] at hg
    cases hg
  | asking handler => exact absurd handler_blocked (h.moves_of_isAsking recorded handler now)
  | streaming _ _ relay =>
    -- the relay would report it
    obtain ⟨t, ht, running⟩ := Option.map_eq_some_iff.1 relay
    rw [(not_running_of_blocked recorded).2 relay_blocked ht] at running
    cases running
  | finished _ guard =>
    rw [hg] at guard
    cases guard
  | paged _ guard _ milestones | deserted _ guard _ milestones =>
    rw [hg] at guard
    cases guard
    exact told (by rw [handovers_eq_milestones, milestones]; rfl)
  | brokenOff head guard =>
    rw [hg] at guard
    cases guard
    exact told (by rw [handovers_eq_milestones, head.handovers]; rfl)
  | overtaken head bodiless _ relay ended =>
    have unended : .traced .answerEnded ∉ x.log := fun ha => by
      rw [h.answerEnded ha] at hg
      cases hg
    have overtaken {head : ResponseHead} {ended' : Bool} {length : Option Nat}
        (milestones : x.milestones = [.answered head ended' length]) : x.Overtaken := by
      have mem : .answered head ended' length ∈ x.log := (mem_milestones rfl).1 (by rw [milestones]; exact List.mem_cons_self)
      obtain ⟨rfl, rfl⟩ := bodiless head ended' length mem
      exact ⟨relay, ended, unended, head, milestones⟩
    cases head with
    | held handler => simp [Exchange.stepHandler, handler] at handler_blocked
    | first _ milestones | last _ milestones => exact untold (.inr (overtaken milestones))
  | socketless _ guard _ failed milestones =>
    rw [hg] at guard
    cases guard
    exact untold (.inl ⟨_, rfl, failed, milestones⟩)

/-! ## Every run -/

/-- Whatever happens to a request and in whichever order: it takes one outcome and keeps it, it hands its failure over
at most once, as the answer or beside it, and hands it over before it comes to rest. There is one exception beside the
websockets: where the body of the response is over and a failure is recorded between the handler's last look and the end
of the request, nobody is told, and nobody will be. -/
theorem Run.ends_once {start : Exchange} {es : List Event} (fresh : start.Fresh) (run : Run start es x) :
    x.EndsOnce
      ∧ (∀ o fs y, x.guard.outcome = some o → Run x fs y → y.guard.outcome = some o)
      ∧ (∀ e y failure, Step x e y → .pageAsked failure ∉ x.log → .pageAsked failure ∈ y.log →
          x.isHandling ∧ x.milestones = [] ∧ y.handler = .returned
            ∧ y.clientBody = some (.direct (y.profile.page failure).body))
      ∧ (∀ now failure, x.Blocked now → x.guard.outcome = some (.failed failure) →
          (x.handovers = [failure] ∨ x.handovers = []) ∧ (x.handovers = [] ↔ x.SocketRefused failure ∨ x.Overtaken))
      ∧ (∀ now y head response failure, x.handler = .composed head → x.backendAnswer = some (.ok response) →
          response.body.isEnded = true → x.guard.outcome = some (.failed failure) → x.stepHandler now = some y →
          ∀ fs z, Run y fs z → z.guard.outcome = some (.failed failure) ∧ z.handovers = []) := by
  have h : x.Sound := run.sound fresh
  refine ⟨h.endsOnce, ?_, ?_, ?_, ?_⟩
  · intro o fs y ho later
    exact (h.outcome_run later ho).2
  · intro e y failure hs hx hy
    exact h.page hs hx hy
  · intro now failure blocked hg
    exact h.handed_over blocked hg
  · intro now y head response failure phase answer ended failed moved fs z later
    exact h.overtaken phase answer ended failed moved later

/-- A request whose body breaks off while the backend is silent. -/
def brokenUpload : Exchange :=
  towards (.forward ⟨"backend", 80, "/", ""⟩) (Headers.empty.insert .host .zero)
    (.streamed (.arriving (.ofItems [.data [1], .failure .pipeAborted] false)))

/-- The events up to where its body has broken off, and is about to be found so. -/
def brokenUploadRead : List Event :=
  [.arrived ⟨0⟩, .resolverAllowed, .handlerStepped 0, .uploadStepped 0, .uploadStepped 0, .backendRead none,
    .uploadStepped 0, .backendRead (some (.data [1]))]

/-- Its upload fails once the backend has begun to read; the client is answered, and nothing moves any more. -/
theorem ends_once_brokenUpload : ∃ es x, brokenUpload.Fresh ∧ Run brokenUpload es x
    ∧ x.guard.outcome = some (.failed (.requestBody .pipeAborted)) ∧ x.Blocked 0 ∧ x.EndsOnce
    ∧ x.handovers = [.requestBody .pipeAborted] := by
  let es : List Event := brokenUploadRead ++ [.uploadStepped 0, .uploadStepped 0, .handlerStepped 0]
  have reached : (es.foldlM perform brokenUpload).any (fun x =>
      x.guard.outcome = some (.failed (.requestBody .pipeAborted)) ∧ (x.step 0).isNone ∧ x.relay.isSome = false
        ∧ .pageAsked (.requestBody .pipeAborted) ∈ x.log) = true := by decide +kernel
  obtain ⟨x, hx, h⟩ := (Option.any_eq_true _ _).1 reached
  obtain ⟨failed, blocked, -, asked⟩ := of_decide_eq_true h
  have fresh : brokenUpload.Fresh := fresh_towards _ _ _
  have run : Run brokenUpload es x := run_of_perform hx
  obtain ⟨ends, -, -, handed, -⟩ := Run.ends_once fresh run
  refine ⟨es, x, fresh, run, failed, Option.isNone_iff_eq_none.1 blocked, ends, ?_⟩
  rcases (handed 0 _ (Option.isNone_iff_eq_none.1 blocked) failed).1 with told | none
  · exact told
  · have mem : .requestBody .pipeAborted ∈ x.handovers := List.mem_filterMap.2 ⟨_, asked, rfl⟩
    rw [none] at mem
    cases mem

/-- A response whose body breaks off at once. -/
def brokenAtOnce : Response where
  head := { status := .ok, phrase := none, headers := .empty }
  body := .arriving (.ofItems [.failure .pipeAborted] false)

/-- The events of a run in which such a body breaks off after the head of a response without a body was composed. -/
def brokenLate : List Event :=
  brokenUploadRead ++ [.backendAnswered (.ok (.bodiless .ok)), .handlerStepped 0, .handlerStepped 0, .uploadStepped 0,
    .uploadStepped 0, .handlerStepped 0, .handlerStepped 0]

/-- The events of a run in which the body of a response breaks off, and this is reported, before the head goes out. -/
def brokenEarly : List Event :=
  brokenUploadRead ++ [.backendAnswered (.ok brokenAtOnce), .handlerStepped 0, .handlerStepped 0, .handlerStepped 0,
    .relayStepped 0, .relayStepped 0]

/-- Where the body of such a request breaks off after the head of a response without a body was composed, that failure is
recorded and nobody is told of it. Where the body of a response breaks off before its head goes out, the relay reports
that before. -/
theorem handed_over_late_and_early :
    (∃ es x, Run brokenUpload es x ∧ x.Blocked 0 ∧ x.guard.outcome = some (.failed (.requestBody .pipeAborted))
      ∧ x.handovers = [] ∧ ∀ cause, .traced (.socketFailed cause) ∉ x.log)
    ∧ ∃ es x y, Run brokenUpload es x ∧ (∃ head, x.handler = .heading head .relayed)
      ∧ x.milestones = [.abandoned (.responseBody .pipeAborted)] ∧ Step x (.handlerStepped 0) y
      ∧ ∃ head ended length, y.milestones = [.abandoned (.responseBody .pipeAborted), .answered head ended length] := by
  constructor
  · have reached : (brokenLate.foldlM perform brokenUpload).any (fun x => (x.step 0).isNone
        ∧ x.guard.outcome = some (.failed (.requestBody .pipeAborted)) ∧ x.handovers = []
        ∧ x.log.filterMap Observation.socketFailure? = []) = true := by decide +kernel
    obtain ⟨x, hx, h⟩ := (Option.any_eq_true _ _).1 reached
    obtain ⟨blocked, failed, untold, plain⟩ := of_decide_eq_true h
    refine ⟨brokenLate, x, run_of_perform hx, Option.isNone_iff_eq_none.1 blocked, failed, untold, fun cause told => ?_⟩
    have none := List.filterMap_eq_nil_iff.1 plain _ told
    cases none
  · have reached : (brokenEarly.foldlM perform brokenUpload).any (fun x => x.handler.relayedHead?.isSome
        ∧ x.milestones = [.abandoned (.responseBody .pipeAborted)]) = true := by decide +kernel
    obtain ⟨x, hx, h⟩ := (Option.any_eq_true _ _).1 reached
    obtain ⟨held, reported⟩ := of_decide_eq_true h
    obtain ⟨head, named⟩ := Option.isSome_iff_exists.1 held
    have phase := HandlerPhase.relayedHead?_eq_some_iff.1 named
    obtain ⟨ended, length, told⟩ := milestones_finish (x.trace (.answerHeaded head.status head.headers)) head .relayed
    rw [milestones_trace, reported] at told
    exact ⟨brokenEarly, x, x.finishTraced head .relayed, run_of_perform hx, ⟨head, phase⟩, reported,
      .handler (by simp [stepHandler, phase]), head, ended, length, told⟩

end Exchange

end Gateway
