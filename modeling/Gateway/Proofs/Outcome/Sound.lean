import Gateway.Proofs.Handling
import Gateway.Proofs.Outcome.Frame

/-!
# Every event leads from a standing to a standing

The arrival, the departure of a client that waits, and the steps of handler, upload and relay: each turn has a lemma
here, and `Sound.step` puts them together.
-/

namespace Gateway

namespace Exchange

variable {x y : Exchange}

/-! ## Outcomes that are recorded -/

theorem outcome_fail_of_unset (unset : x.guard.outcome = none) (failure : Rejection) :
    (x.fail failure).guard.outcome = some (.failed failure) := by
  show (x.guard.fail failure).2.outcome = _
  rw [Guard.fail_of_unset unset]

theorem outcome_complete_of_unset (unset : x.guard.outcome = none) : x.complete.guard.outcome = some .completed := by
  show x.guard.complete.2.outcome = _
  rw [Guard.complete_of_unset unset]

/-! ## Exchanges that were not answered -/

/-- Before the head went out: nothing to be seen of the end, and no relay. -/
structure Unanswered (x : Exchange) : Prop where
  milestones : x.milestones = []
  relaying : x.relaying = none
  signalled : x.guard.WellSignalled
  answerEnded : .traced .answerEnded ∉ x.log
  unclaimed : x.clientBody = none

theorem isOpen_of_isWaiting (waiting : x.isWaiting) : x.handler.isOpen = true := by
  unfold isWaiting at waiting
  split at waiting <;> simp_all [HandlerPhase.isOpen]

theorem Standing.of_isOpen (h : x.Standing) (isOpen : x.handler.isOpen = true) :
    x.milestones = [] ∧ x.relaying = none ∧ x.guard.outcome ≠ some .completed := by
  cases h with
  | waiting _ guard _ _ relay milestones => exact ⟨milestones, relay, by simp [guard, Guard.unset]⟩
  | asking _ guard relay milestones => exact ⟨milestones, relay, guard⟩
  | paged handler | deserted handler | socketless handler => simp [HandlerPhase.isOpen, handler] at isOpen
  | streaming head | finished head | brokenOff head | overtaken head => simp [head.isOpen_eq_false] at isOpen

theorem Sound.unanswered (h : x.Sound) (isOpen : x.handler.isOpen = true) : x.Unanswered where
  milestones := (h.standing.of_isOpen isOpen).1
  relaying := (h.standing.of_isOpen isOpen).2.1
  signalled := h.signalled
  answerEnded := fun ha => (h.standing.of_isOpen isOpen).2.2 (h.answerEnded ha)
  unclaimed := by
    refine h.unclaimed.resolve_left fun returned => ?_
    simp [returned, HandlerPhase.isOpen] at isOpen

/-- Right after a step of the handler: an answer to a failure that was asked for is what the client holds. -/
structure Settled (x : Exchange) : Prop extends Sound x where
  page : ∀ failure, .pageAsked failure ∈ x.log → x.clientBody = some (.direct (x.profile.page failure).body)

theorem mem_milestones {o : Observation} (h : o.isMilestone = true) : o ∈ x.milestones ↔ o ∈ x.log := by
  simp [milestones, List.mem_filter, h]

/-- Where no answer to a failure was asked for, there is nothing to be held. -/
theorem Sound.settled (h : x.Sound) (hm : ∀ failure, .pageAsked failure ∉ x.milestones) : x.Settled where
  toSound := h
  page := fun failure hf => absurd ((mem_milestones rfl).2 hf) (hm failure)

namespace Unanswered

/-- Only the log, the relay, the guard and the client's body count. -/
theorem congr (h : x.Unanswered) (hl : y.log = x.log) (hr : y.relay = x.relay) (hg : y.guard = x.guard)
    (hc : y.clientBody = x.clientBody) : y.Unanswered where
  milestones := by rw [Exchange.milestones, hl]; exact h.milestones
  relaying := by rw [Exchange.relaying, hr]; exact h.relaying
  signalled := by rw [hg]; exact h.signalled
  answerEnded := by rw [hl]; exact h.answerEnded
  unclaimed := hc.trans h.unclaimed

theorem trace (h : x.Unanswered) {e : TraceEvent} (he : e ≠ .answerEnded) : (x.trace e).Unanswered where
  milestones := by rw [milestones_trace]; exact h.milestones
  relaying := h.relaying
  signalled := h.signalled
  answerEnded := fun ha => h.answerEnded ((frame_trace x he).answerEnded ha)
  unclaimed := h.unclaimed

theorem fail (h : x.Unanswered) (failure : Rejection) : (x.fail failure).Unanswered where
  milestones := h.milestones
  relaying := h.relaying
  signalled := h.signalled.fail failure
  answerEnded := h.answerEnded
  unclaimed := h.unclaimed

/-- Other observations than the three milestones may be added. -/
theorem observe (h : x.Unanswered) {o : Observation} (hm : o.isMilestone = false) (ho : o ≠ .traced .answerEnded) :
    (x.observe o).Unanswered where
  milestones := by
    have hx := h.milestones
    simp only [Exchange.milestones, Exchange.observe, List.filter_append, List.append_eq_nil_iff] at hx ⊢
    exact ⟨hx, by simp [hm]⟩
  relaying := h.relaying
  signalled := h.signalled
  answerEnded := by
    have hx := h.answerEnded
    simp only [Exchange.observe, List.mem_append, List.mem_singleton, not_or]
    exact ⟨hx, ho.symm⟩
  unclaimed := h.unclaimed

/-- A recorded failure is answered with its page. -/
theorem respondFailure (h : x.Unanswered) {failure : Rejection} (hg : x.guard.outcome = some (.failed failure)) :
    (x.respondFailure failure).Settled where
  standing := by
    refine .paged rfl hg h.relaying ?_
    have hx := h.milestones
    simp only [Exchange.respondFailure, finishTraced, finish, milestones_observe_answered]
    show ((x.observe (.pageAsked failure)).trace _).milestones ++ _ = _
    simp only [milestones_trace, milestones_observe_pageAsked, hx]
    rfl
  signalled := h.signalled
  answerEnded := by
    intro ha
    have hx := h.answerEnded
    simp [Exchange.respondFailure, finishTraced, finish, Exchange.observe, Exchange.trace, hx] at ha
  page := by
    intro f hf
    have hx : .pageAsked f ∉ x.log := by
      rw [← mem_milestones rfl, h.milestones]
      simp
    have same : f = failure := by
      simpa [Exchange.respondFailure, finishTraced, finish, Exchange.observe, Exchange.trace, hx] using hf
    rw [same]
    rfl
  holds := nofun
  unclaimed := .inl rfl

/-- A failure is recorded unless there is one, and the recorded one answered. -/
theorem reject (h : x.Unanswered) (hg : x.guard.outcome ≠ some .completed) (failure : Rejection) :
    (x.reject failure).Settled := by
  obtain ⟨recorded, ho⟩ : ∃ recorded, (x.fail failure).guard.outcome = some (.failed recorded) :=
    Guard.exists_failure_fail hg failure
  have hf : (x.fail failure).guard.failure = some recorded := Guard.failure_eq_some_iff.2 ho
  unfold Exchange.reject
  simp only [hf, Option.getD_some]
  exact (h.fail failure).respondFailure ho

/-- The backend cannot be asked. -/
theorem failForward (h : x.Unanswered) (hg : x.guard.outcome ≠ some .completed) (cause : Cause) :
    (x.failForward cause).Settled :=
  (h.trace (e := .forwardFailed cause) (by simp)).reject hg _

end Unanswered

/-! ## The head goes out -/

theorem milestones_finish (x : Exchange) (head : ResponseHead) (body : ClientBody) :
    ∃ ended length, (x.finish head body).milestones = x.milestones ++ [.answered head ended length] :=
  ⟨_, _, by rw [finish, milestones_observe_answered]; rfl⟩

theorem milestones_finish_direct (x : Exchange) (head : ResponseHead) (body : Body) :
    (x.finish head (.direct body)).milestones
      = x.milestones ++ [.answered head body.isEnded body.exactLength] := by
  rw [finish, milestones_observe_answered]
  rfl

theorem answerEnded_mem_finish (x : Exchange) (head : ResponseHead) (body : ClientBody) :
    .traced .answerEnded ∈ (x.finish head body).log → .traced .answerEnded ∈ x.log := by
  intro h
  simpa [finish, observe] using h

/-- No answer to a failure was asked for where only a response head went out. -/
theorem no_page_of_answered {head : ResponseHead} {ended : Bool} {length : Option Nat}
    (hm : x.milestones = [.answered head ended length]) (failure : Rejection) : .pageAsked failure ∉ x.milestones := by
  simp [hm]

/-- A response of which nothing is left to do. -/
theorem settled_finish (head : ResponseHead) (body : ClientBody) (hm : x.milestones = []) (hr : x.relaying = none)
    (hs : x.guard.WellSignalled) (hg : x.guard.outcome = some .completed) : (x.finish head body).Settled := by
  obtain ⟨ended, length, h⟩ := milestones_finish x head body
  rw [hm] at h
  have idle : (x.finish head body).relaying ≠ some true := by
    show x.relaying ≠ some true
    simp [hr]
  have stands : (x.finish head body).HeadStands body [] := .first rfl h
  exact Sound.settled ⟨.finished stands hg idle, hs, fun _ => hg, nofun, .inl rfl⟩ (no_page_of_answered h)

theorem settled_finishTraced (head : ResponseHead) (body : ClientBody) (hm : x.milestones = []) (hr : x.relaying = none)
    (hs : x.guard.WellSignalled) (hg : x.guard.outcome = some .completed) : (x.finishTraced head body).Settled :=
  settled_finish head body (by rw [milestones_trace, hm]) hr hs hg

namespace Unanswered

/-- The answer of the resolver, and that to a websocket handshake, end the request well. -/
theorem finish (h : x.Unanswered) (hg : x.guard.outcome = none) (head : ResponseHead) (body : ClientBody) :
    (x.complete.finish head body).Settled :=
  settled_finish head body h.milestones h.relaying h.signalled.complete (outcome_complete_of_unset hg)

/-- A websocket that cannot be had is answered by the gateway itself. -/
theorem failSocket (h : x.Unanswered) (hg : x.guard.outcome = none) (cause : Cause) : (x.failSocket cause).Settled := by
  have hf := (h.trace (e := .socketFailed cause) (by simp)).fail (.backend cause)
  have ho := outcome_fail_of_unset (x := x.trace (.socketFailed cause)) hg (.backend cause)
  have hlog : .traced (.socketFailed cause) ∈ (x.trace (.socketFailed cause)).log := by
    simp [Exchange.trace, Exchange.observe]
  unfold Exchange.failSocket finishTraced
  generalize hx : (x.trace (.socketFailed cause)).fail (.backend cause) = z at hf ho
  have hz : .traced (.socketFailed cause) ∈ z.log := by rw [← hx]; exact hlog
  dsimp only
  generalize hh : headWith (.bodiless .badGateway) (failedSocketHeaders z.profile.idle z.context) = head
  have headed := hf.trace (e := .answerHeaded head.status head.headers) (by simp)
  have hm := milestones_finish_direct (z.trace (.answerHeaded head.status head.headers)) head .empty
  rw [headed.milestones] at hm
  have unended := mt (answerEnded_mem_finish _ head (.direct .empty)) headed.answerEnded
  refine Sound.settled ⟨.socketless rfl ho hf.relaying ?_ ?_, hf.signalled, fun h => absurd h unended,
      fun needs => absurd needs Bool.false_ne_true, .inl rfl⟩
    (no_page_of_answered hm)
  · exact List.mem_append_left _ (List.mem_append_left _ hz)
  · rw [← hh] at hm ⊢
    exact hm

theorem traceResponse (h : x.Unanswered) (response : Response) : (x.traceResponse response).Unanswered := by
  have hs := (h.trace (e := .responseStarted response.head.status response.head.headers) (by simp)).trace
    (e := .answerStarted) (by simp)
  unfold Exchange.traceResponse
  dsimp only
  split
  · exact hs.trace (by simp)
  · exact hs

/-- The head is composed, and the response kept until its body is passed on. -/
theorem compose (h : x.Unanswered) (hg : x.guard.outcome ≠ some .completed) (holds : ∃ head, x.HoldsResponse head)
    (response : Response) (head : ResponseHead) : Settled { x.traceResponse response with handler := .composed head } := by
  have traced := h.traceResponse response
  obtain ⟨log, same⟩ := touches_traceResponse x response
  have composed : Sound { x.traceResponse response with handler := .composed head } := by
    refine ⟨.asking rfl ?_ traced.relaying traced.milestones, traced.signalled, fun ha => absurd ha traced.answerEnded,
      fun _ => ?_, .inr traced.unclaimed⟩
    · rw [same]
      exact hg
    · rw [same]
      exact holds
  have unpaged : Exchange.milestones { x.traceResponse response with handler := .composed head } = [] := traced.milestones
  exact composed.settled fun _ asked => absurd (unpaged ▸ asked) List.not_mem_nil

/-- A response whose body is over. -/
theorem passEnded (h : x.Unanswered) (hg : x.guard.outcome ≠ some .completed) (head : ResponseHead)
    (response : Response) : (x.passEnded head response).Settled := by
  have traced := h.trace (e := .responseEnded 0) (by simp)
  have ended : .traced (.responseEnded 0) ∈ (x.trace (.responseEnded 0)).log := by simp [Exchange.trace, Exchange.observe]
  unfold Exchange.passEnded
  dsimp only
  generalize hz : x.trace (.responseEnded 0) = z at traced ended
  have zg : z.guard = x.guard := by rw [← hz]; rfl
  split
  · rename_i terminated
    obtain ⟨f, hf⟩ := Guard.exists_failure (zg ▸ hg) terminated
    have unanswered : ∀ head ended length, .answered head ended length ∉ z.log := by
      intro head ended length hm
      rw [← mem_milestones rfl, traced.milestones] at hm
      cases hm
    exact Sound.settled
      ⟨.overtaken (.held rfl traced.milestones) (fun _ _ _ hm => absurd hm (unanswered _ _ _)) hf traced.relaying ended,
        traced.signalled, fun ha => absurd ha traced.answerEnded,
        fun needs => absurd needs Bool.false_ne_true, .inr traced.unclaimed⟩
      fun _ asked => absurd (traced.milestones ▸ asked) List.not_mem_nil
  · rename_i unended
    have hc : z.complete.guard.outcome = some .completed :=
      outcome_complete_of_unset (by simpa [Guard.isTerminated] using unended)
    have told : (z.complete.trace .answerEnded).milestones = [] := by
      rw [milestones_trace]
      exact traced.milestones
    have idle : z.relaying ≠ some true := by simp [traced.relaying]
    exact Sound.settled
      ⟨.finished (.held rfl told) hc idle, traced.signalled.complete, fun _ => hc,
        fun needs => absurd needs Bool.false_ne_true, .inr traced.unclaimed⟩
      fun _ asked => absurd (told ▸ asked) List.not_mem_nil

/-- A response whose body goes through a relay. -/
theorem passRelayed (h : x.Unanswered) (hg : x.guard.outcome ≠ some .completed) (head : ResponseHead)
    (response : Response) : (x.passRelayed head response).Settled :=
  Sound.settled
    ⟨.streaming (.held rfl h.milestones) hg rfl, h.signalled, fun ha => absurd ha h.answerEnded, nofun,
      .inr h.unclaimed⟩
    fun _ asked => absurd (h.milestones ▸ asked) List.not_mem_nil

end Unanswered

/-! ## Handler -/

theorem Sound.waiting (h : x.Sound) (hw : x.handler = .idle ∨ x.handler = .resolving ∨ ∃ key, x.handler = .connecting key) :
    x.Unanswered ∧ x.guard = .unset ∧ x.upload = none ∧ x.uploadError = none := by
  have isOpen : x.handler.isOpen = true := by
    rcases hw with hw | hw | ⟨key, hw⟩ <;> simp [hw, HandlerPhase.isOpen]
  have unasked : x.handler.isAsking = false := by
    rcases hw with hw | hw | ⟨key, hw⟩ <;> simp [hw, HandlerPhase.isAsking]
  cases h.standing with
  | waiting _ guard upload error => exact ⟨h.unanswered isOpen, guard, upload, error⟩
  | asking handler => simp [unasked] at handler
  | paged handler | deserted handler | socketless handler => simp [HandlerPhase.isOpen, handler] at isOpen
  | streaming head | finished head | brokenOff head | overtaken head => simp [head.isOpen_eq_false] at isOpen

/-- The body is handed over before the backend is asked, which shows nowhere at the end of the request. -/
theorem Unanswered.handOver (h : x.Unanswered) (headers : Headers) : (x.handOver headers).1.Unanswered := by
  unfold Exchange.handOver
  split
  · rename_i bytes _
    have moved : Unanswered { x with
        bodyComplete := true
        inbound := x.inbound.release
        backendBody := some (.complete (.full bytes)) } := h.congr rfl rfl rfl rfl
    exact moved.trace (e := .requestEnded bytes.length) (by simp)
  · split
    · exact h
    · exact h.congr rfl rfl rfl rfl

theorem guard_handOver (x : Exchange) (headers : Headers) : (x.handOver headers).1.guard = x.guard := by
  obtain ⟨_, _, _, _, _, same⟩ := touches_handOver x headers
  rw [same]

/-- From now on the handler waits for the backend. -/
theorem Unanswered.send (h : x.Unanswered) (hg : x.guard.outcome ≠ some .completed) (now : Nat) (head : RequestHead) :
    (x.send now head).Settled := by
  have asked := (h.trace (e := .forwardStarted head.method head.uri head.headers) (by simp)).observe
    (o := .forwarded head x.backendView.1 x.backendView.2) rfl (by simp)
  refine Sound.settled ⟨.asking rfl hg asked.relaying asked.milestones, asked.signalled, ?_, nofun, .inr h.unclaimed⟩ ?_
  · intro ha
    exact absurd ha asked.answerEnded
  · intro failure hf
    have none : (x.send now head).milestones = [] := asked.milestones
    rw [none] at hf
    cases hf

/-- From now on the handler waits for the websocket. -/
theorem Unanswered.awaitSocket (h : x.Unanswered) (hg : x.guard = .unset) (hu : x.upload = none)
    (he : x.uploadError = none) (key : HeaderValue) : Settled { x with handler := .connecting key } :=
  Sound.settled ⟨.waiting (.inr (.inr ⟨key, rfl⟩)) hg hu he h.relaying h.milestones, h.signalled,
    fun ha => absurd ha h.answerEnded, nofun, .inr h.unclaimed⟩ fun failure hf => absurd (h.milestones ▸ hf) (by simp)

theorem settled_of_resolves (h : x.Unanswered) (hg : x.guard = .unset) (hu : x.upload = none) (he : x.uploadError = none)
    {now : Nat} {hop : Except Rejection NextHop} (next : Resolves x now hop y) : y.Settled := by
  have none : x.guard.outcome = none := by rw [hg]; rfl
  have unended : x.guard.outcome ≠ some .completed := by simp [none]
  have resolved (target : Target) : (x.trace (.hopResolved target)).Unanswered := h.trace (by simp)
  cases next with
  | refused failure => exact h.reject unended failure
  | answered response => exact h.finish none _ _
  | hostless target | keyless target => exact (resolved target).reject unended _
  | socketFailed target => exact (resolved target).failSocket none _
  | @socketAsked target _ _ uri headers =>
    have asked := ((resolved target).trace (e := .socketStarted uri headers) (by simp)).observe
      (o := .socketAsked target headers) rfl (by simp)
    exact asked.awaitSocket hg hu he _
  | unsendable target => exact (resolved target).failForward unended _
  | @sent target _ uri headers =>
    have same := guard_handOver (x.trace (.hopResolved target)) headers
    exact ((resolved target).handOver headers).send (by rw [same]; exact unended) now _

theorem settled_answerSocket (h : x.Unanswered) (hg : x.guard = .unset) (key : HeaderValue) (answer : SocketAnswer) :
    (x.answerSocket key answer).Settled := by
  have none : x.guard.outcome = none := by rw [hg]; rfl
  cases answer with
  | accepted protocol =>
    exact settled_finishTraced _ _ h.milestones h.relaying h.signalled.complete (outcome_complete_of_unset none)
  | refused status headers =>
    exact settled_finishTraced _ _ h.milestones h.relaying h.signalled.complete (outcome_complete_of_unset none)
  | failed cause => exact h.failSocket none cause

/-- A recorded failure comes first; without one, the handler goes on with what the backend did. -/
theorem Sound.settled_of_forwards (h : x.Sound) {now since : Nat} (hw : x.handler = .forwarding since)
    (next : Forwards x now since y) : y.Settled := by
  have isOpen : x.handler.isOpen = true := by simp [hw, HandlerPhase.isOpen]
  have hu : x.Unanswered := h.unanswered isOpen
  have unended := (h.standing.of_isOpen isOpen).2.2
  -- the handler goes from one open phase to another
  have goesOn (call : BackendCall) {phase : HandlerPhase} (asking : phase.isAsking = true)
      (holds : phase.needsResponse = true → ∃ head, HoldsResponse { x with backendCall := call, handler := phase } head) :
      Settled { x with backendCall := call, handler := phase } :=
    Sound.settled ⟨.asking asking unended hu.relaying hu.milestones, h.signalled, fun ha => absurd ha hu.answerEnded, holds,
        .inr hu.unclaimed⟩
      fun _ asked => absurd (hu.milestones ▸ asked) List.not_mem_nil
  cases next with
  | failed recorded =>
    have dropped : Unanswered { x with backendCall := .dropped } := hu.congr rfl rfl rfl rfl
    exact dropped.respondFailure (h.signalled.awaitFailure_eq_some_iff.1 recorded)
  | @answered response _ answer => exact goesOn .answered rfl fun _ => ⟨_, rfl, response, answer, rfl⟩
  | unanswered => exact goesOn .failed rfl fun needs => absurd needs Bool.false_ne_true
  | overdue => exact goesOn .dropped rfl fun needs => absurd needs Bool.false_ne_true

/-- The head goes out, whether the relay has come to its end by then or not. -/
theorem Sound.settled_headed (h : x.Sound) {head : ResponseHead} {body : ClientBody}
    (phase : x.handler = .heading head body) : (x.finishTraced head body).Settled := by
  obtain ⟨ended, length, told⟩ := milestones_finish (x.trace (.answerHeaded head.status head.headers)) head body
  rw [milestones_trace] at told
  have answerEnded (ha : .traced .answerEnded ∈ (x.finishTraced head body).log) : x.guard.outcome = some .completed :=
    h.answerEnded ((frame_trace x (by simp)).answerEnded (answerEnded_mem_finish _ _ _ ha))
  have settled {reports : List Observation} (milestones : x.milestones = reports)
      (unpaged : ∀ failure, .pageAsked failure ∉ reports) (stands : (x.finishTraced head body).Standing) :
      (x.finishTraced head body).Settled := by
    refine Sound.settled ⟨stands, h.signalled, answerEnded, nofun, .inl rfl⟩ fun failure asked => ?_
    have before : .pageAsked failure ∈ x.milestones ++ [.answered head ended length] := told ▸ asked
    exact unpaged failure (by simpa [milestones] using before)
  cases h.standing with
  | waiting handler => simp [phase] at handler
  | asking handler => simp [phase, HandlerPhase.isAsking] at handler
  | paged handler | deserted handler | socketless handler => simp [phase] at handler
  | streaming stands guard relay =>
    obtain ⟨rfl, reports⟩ := stands.of_heading phase
    rw [reports] at told
    exact settled reports (by simp) (.streaming (.last rfl told) guard relay)
  | finished stands guard relay =>
    obtain ⟨rfl, reports⟩ := stands.of_heading phase
    rw [reports] at told
    have out : (x.finishTraced head body).HeadStands body [] := .last rfl told
    exact settled reports (by simp) (.finished out guard relay)
  | brokenOff stands guard relay =>
    obtain ⟨rfl, reports⟩ := stands.of_heading phase
    rw [reports] at told
    exact settled reports (by simp) (.brokenOff (.last rfl told) guard relay)
  | overtaken stands _ guard relay found =>
    obtain ⟨rfl, reports⟩ := stands.of_heading phase
    rw [reports] at told
    refine settled reports (by simp) (.overtaken (.last rfl told) ?_ guard relay ?_)
    · intro head' ended' length' answered
      have only := milestones_finish_direct (x.trace (.answerHeaded head.status head.headers)) head .empty
      rw [milestones_trace, reports, List.nil_append] at only
      have mem : .answered head' ended' length' ∈ (x.finishTraced head (.direct .empty)).milestones :=
        (mem_milestones rfl).2 answered
      unfold finishTraced at mem
      rw [only, List.mem_singleton] at mem
      cases mem
      exact ⟨rfl, rfl⟩
    · exact List.mem_append_left _ (List.mem_append_left _ found)

theorem Sound.settled_of_responds (h : x.Sound) (next : Responds x y) : y.Settled := by
  have unanswered {p : HandlerPhase} (phase : x.handler = p) (isOpen : p.isOpen = true) :
      x.Unanswered ∧ x.guard.outcome ≠ some .completed :=
    ⟨h.unanswered (by rw [phase, isOpen]), (h.standing.of_isOpen (by rw [phase, isOpen])).2.2⟩
  cases next with
  | @failed response failure phase _ recorded =>
    have released : (x.releaseResponse response).Unanswered := (unanswered phase rfl).1.congr rfl rfl rfl rfl
    exact released.respondFailure (Guard.failure_eq_some_iff.1 recorded)
  | composed phase =>
    exact (unanswered phase rfl).1.compose (unanswered phase rfl).2 (h.holds (by rw [phase]; rfl)) _ _
  | ended phase => exact (unanswered phase rfl).1.passEnded (unanswered phase rfl).2 _ _
  | relayed phase => exact (unanswered phase rfl).1.passRelayed (unanswered phase rfl).2 _ _
  | headed phase => exact h.settled_headed phase

theorem Sound.stepHandler (h : x.Sound) {now : Nat} (hy : x.stepHandler now = some y) : y.Settled := by
  cases stepHandler_cases hy with
  | @resolved head _ _ phase _ _ next =>
    obtain ⟨hu, hg, hup, he⟩ := h.waiting (.inr (.inl phase))
    have resolved : Unanswered { x with head } := hu.congr rfl rfl rfl rfl
    exact settled_of_resolves resolved hg hup he next
  | forwarded phase next => exact h.settled_of_forwards phase next
  | @failed cause phase =>
    have isOpen : x.handler.isOpen = true := by simp [phase, HandlerPhase.isOpen]
    exact (h.unanswered isOpen).failForward (h.standing.of_isOpen isOpen).2.2 cause
  | responded next => exact h.settled_of_responds next
  | @connected key answer phase =>
    obtain ⟨hu, hg, -⟩ := h.waiting (.inr (.inr ⟨key, phase⟩))
    exact settled_answerSocket hu hg key answer

/-! ## Upload -/

theorem fail_of_terminated {o : Outcome} (hg : x.guard.outcome = some o) (failure : Rejection) : x.fail failure = x := by
  unfold fail
  rw [Guard.fail_of_set hg]

/-- Where the request has ended, what broke the upload off changes nothing. -/
theorem frame_recordUpload {o : Outcome} (ended : x.guard.outcome = some o) (cause : Cause) :
    Frame x (x.recordUpload cause) := by
  unfold recordUpload
  rw [fail_of_terminated (x := { x with uploadError := none }) ended]
  exact .unlogged rfl rfl rfl rfl id (fun _ _ => rfl) (fun _ => id) id rfl rfl

/-- What broke the upload off counts unless the request has ended. -/
theorem Sound.recordUpload (h : x.Sound) {cause : Cause} (he : x.uploadError = some cause) :
    (x.recordUpload cause).Sound := by
  cases ho : x.guard.outcome with
  | some o => exact (frame_recordUpload ho cause).sound h
  | none =>
    unfold Exchange.recordUpload
    generalize Rejection.requestBody cause = failure
    have hf := outcome_fail_of_unset (x := { x with uploadError := none }) ho failure
    have hn : (fail { x with uploadError := none } failure).guard.outcome ≠ some .completed := by simp [hf]
    refine ⟨?_, h.signalled.fail failure, fun ha => ?_, h.holds, h.unclaimed⟩
    · cases h.standing with
      -- before the backend is asked there is no upload
      | waiting _ _ _ error =>
        rw [he] at error
        cases error
      | asking handler _ relay milestones => exact .asking handler hn relay milestones
      | streaming head _ relay => exact .streaming (head.congr rfl rfl) hn relay
      | paged _ guard | finished _ guard | brokenOff _ guard | overtaken _ _ guard | deserted _ guard
      | socketless _ guard =>
        rw [ho] at guard
        cases guard
    · have hc : x.guard.outcome = some .completed := h.answerEnded ha
      rw [ho] at hc
      cases hc

/-- An upload that breaks off records nothing yet. -/
theorem frame_endUpload {t : Transfer} (ht : x.upload = some t) (u : Transfer) (result : PumpResult) :
    Frame x (x.endUpload u result) := by
  have uploading {v : Option Transfer} {error : Option Cause} {complete : Bool} :
      Frame x { x with upload := v, uploadError := error, bodyComplete := complete } :=
    .unlogged rfl rfl rfl rfl (fun idle => by simp [idle] at ht) (fun idle => by simp [idle] at ht) (fun _ => id) id rfl rfl
  cases result with
  | moved bytes => exact uploading.trans (frame_trace _ (by simp))
  | sinkClosed => exact uploading
  | sourceFailed cause | timedOut limit => exact uploading.trans (frame_trace _ (by simp))

theorem Sound.moveUpload (h : x.Sound) {now : Nat} (moves : UploadMoves x now y) : y.Sound := by
  cases moves with
  | records error => exact h.recordUpload error
  | cancels upload | goesOn upload => exact (frame_upload x upload _).sound h
  | ends upload => exact (frame_endUpload upload _ _).sound h

/-! ## Relay -/

/-- While a relay is at work the head is held or out, and nothing else. -/
theorem Sound.streaming (h : x.Sound) {t : Transfer} (ht : x.relay = some t) (hr : t.running = true) :
    x.HeadStands .relayed [] ∧ x.guard.outcome ≠ some .completed := by
  have running : x.relaying = some true := by simp [relaying, ht, hr]
  cases h.standing with
  | streaming head guard => exact ⟨head, guard⟩
  | finished _ _ relay => exact absurd running relay
  | waiting _ _ _ _ relay | asking _ _ relay | paged _ _ relay | brokenOff _ _ relay | overtaken _ _ _ relay
  | deserted _ _ relay | socketless _ _ relay =>
    rw [running] at relay
    cases relay

/-- The relay reports a recorded failure, as it stops. -/
theorem Sound.abandon (h : x.Sound) {t : Transfer} (ht : x.relay = some t) (hr : t.running = true) {failure : Rejection}
    (hg : x.guard.outcome = some (.failed failure)) : Sound (Exchange.abandon { x with relay := some t.cancel }) := by
  obtain ⟨head, -⟩ := h.streaming ht hr
  have hf : x.guard.failure = some failure := Guard.failure_eq_some_iff.2 hg
  simp only [Exchange.abandon, hf]
  refine ⟨.brokenOff (head.report rfl ?_) hg rfl, h.signalled, fun ha => ?_, h.holds, h.unclaimed⟩
  · rw [milestones_observe_abandoned, milestones_trace]
    rfl
  · have hx : .traced .answerEnded ∈ x.log := by simpa [trace, observe] using ha
    exact h.answerEnded hx

theorem Sound.failRelay (h : x.Sound) {t u : Transfer} (ht : x.relay = some t) (hr : t.running = true)
    (hu : u.running = true) (failure : Rejection) : (x.failRelay u failure).Sound := by
  obtain ⟨head, hn⟩ := h.streaming ht hr
  obtain ⟨f, hf⟩ : ∃ f, (x.fail failure).guard.outcome = some (.failed f) := Guard.exists_failure_fail hn failure
  have hfs : Sound { x.fail failure with relay := some u } :=
    ⟨.streaming (head.congr rfl rfl) (by rw [hf]; simp) (by simp [relaying, hu]), h.signalled.fail failure,
      fun ha => absurd (h.answerEnded ha) hn, h.holds, h.unclaimed⟩
  exact Sound.abandon hfs rfl hu hf

theorem Sound.endRelay (h : x.Sound) {t u : Transfer} (ht : x.relay = some t) (hr : t.running = true)
    (hu : u.running = true) (result : PumpResult) : (x.endRelay u result).Sound := by
  have traced {e : TraceEvent} (he : e ≠ .answerEnded) : (x.trace e).Sound := (frame_trace x he).sound h
  cases result with
  | moved bytes =>
    have hz : (x.trace (.responseEnded bytes)).Sound := traced (by simp)
    obtain ⟨head, hn⟩ := hz.streaming ht hr
    unfold Exchange.endRelay
    dsimp only
    split
    -- a failure was recorded after the relay's last look
    · rename_i terminated
      have hs : Sound { x.trace (.responseEnded bytes) with relay := some u } :=
        (frame_relay (x.trace (.responseEnded bytes)) ht (by rw [hu, hr])).sound hz
      obtain ⟨f, hf⟩ := Guard.exists_failure hn terminated
      exact Sound.abandon hs rfl hu hf
    · rename_i unended
      have hc : (x.trace (.responseEnded bytes)).complete.guard.outcome = some .completed :=
        outcome_complete_of_unset (by simpa [Guard.isTerminated] using unended)
      have closed : some u.close.running ≠ some true := by simp [Transfer.close]
      have told : Exchange.milestones ({ (x.trace (.responseEnded bytes)).complete with
          relay := some u.close }.trace .answerEnded) = (x.trace (.responseEnded bytes)).milestones := by
        rw [milestones_trace]
        rfl
      exact ⟨.finished (head.congr rfl told) hc closed, h.signalled.complete, fun _ => hc, h.holds, h.unclaimed⟩
  | sinkClosed => exact Sound.failRelay (traced (by simp)) ht hr hu _
  | sourceFailed cause => exact Sound.failRelay (traced (by simp)) ht hr hu _
  | timedOut limit => exact Sound.failRelay (traced (by simp)) ht hr hu _

theorem Sound.moveRelay (h : x.Sound) {now : Nat} (moves : RelayMoves x now y) : y.Sound := by
  cases moves with
  | cancels relay running recorded => exact h.abandon relay running (h.signalled.awaitFailure_eq_some_iff.1 recorded)
  | @goesOn t pump relay =>
    have moved : Frame x { x with relay := some { t with pump } } := frame_relay x relay rfl
    exact moved.sound h
  | @ends t pump _ relay running =>
    have goesOn : Transfer.running { t with pump } = true := running
    exact h.endRelay relay running goesOn _

/-! ## Arrival and departure -/

theorem Sound.arrive (h : x.Sound) (hw : x.handler = .idle) (ids : RequestIds) : (x.arrive ids).1.Sound := by
  obtain ⟨hu, hg, hup, he⟩ := h.waiting (.inl hw)
  have resolving : Sound { x with
      context := { x.context with requestId := (ids.assign x.head.headers).1 }
      head := { x.head with headers := (ids.assign x.head.headers).2.1 }
      expectsContinue := (ids.assign x.head.headers).2.1.expectsContinue
      handler := .resolving } :=
    ⟨.waiting (.inr (.inl rfl)) hg hup he hu.relaying hu.milestones, h.signalled, h.answerEnded, nofun,
      .inr hu.unclaimed⟩
  exact (frame_trace _ (by simp)).sound resolving

/-- The client left before the head went out: that is reported, or what was recorded before. -/
theorem Sound.dropHandler (h : x.Sound) (hw : x.isWaiting) : x.dropHandler.Sound := by
  have hu : x.Unanswered := h.unanswered (isOpen_of_isWaiting hw)
  have hn : x.guard.outcome ≠ some .completed := (h.standing.of_isOpen (isOpen_of_isWaiting hw)).2.2
  obtain ⟨f, hf⟩ := Guard.exists_failure_fail hn .clientLeft
  unfold Exchange.dropHandler
  dsimp only
  generalize hz : ({ x with handler := .dropped, inbound := x.inbound.release, backendCall := _ } : Exchange) = z
  have dropped : z.handler = .dropped := by rw [← hz]
  have zu : z.Unanswered := hu.congr (by rw [← hz]) (by rw [← hz]) (by rw [← hz]) (by rw [← hz])
  have left := (zu.trace (e := .clientLeft) (by simp)).fail .clientLeft
  have lf : ((z.trace .clientLeft).fail .clientLeft).guard.outcome = some (.failed f) := by
    show (z.guard.fail .clientLeft).2.outcome = _
    rw [← hz]
    exact hf
  simp only [Exchange.abandon, Guard.failure_eq_some_iff.2 lf]
  refine ⟨.deserted dropped lf left.relaying ?_, left.signalled, fun ha => ?_, fun needs => ?_, .inr left.unclaimed⟩
  · rw [milestones_observe_abandoned, milestones_trace, left.milestones]
    rfl
  · exact absurd (by simpa [trace, observe] using ha) left.answerEnded
  · change z.handler.needsResponse = true at needs
    rw [dropped] at needs
    cases needs

/-! ## Every event -/

/-- Whatever happens next, the exchange stands in one of the standings again. -/
theorem Sound.step {e : Event} (h : x.Sound) (hs : Step x e y) : y.Sound := by
  cases hs.turn with
  | aside frame => exact frame.sound h
  | arrived ids idle => exact h.arrive idle ids
  | deserted waiting => exact h.dropHandler waiting
  | handler hy => exact (h.stepHandler hy).toSound
  | upload moves => exact h.moveUpload moves
  | relay moves => exact h.moveRelay moves

theorem Fresh.sound (h : x.Fresh) : x.Sound := by
  obtain ⟨profile, resolver, head, tls, client, inbound, ready, answer, socket, takeover, rfl⟩ := h
  exact ⟨.waiting (.inl rfl) rfl rfl rfl rfl rfl, rfl, fun ha => absurd ha (by simp [new]), nofun, .inr rfl⟩

theorem Fresh.idle (h : x.Fresh) :
    x.handler = .idle ∧ x.guard = .unset ∧ x.upload = none ∧ x.relay = none := by
  obtain ⟨profile, resolver, head, tls, client, inbound, ready, answer, socket, takeover, rfl⟩ := h
  exact ⟨rfl, rfl, rfl, rfl⟩

/-- Every state of every exchange is sound. -/
theorem Run.sound {start : Exchange} {es : List Event} (run : Run start es x) (fresh : start.Fresh) : x.Sound :=
  run.invariant (I := fun _ x => x.Sound) fresh.sound fun h hs => h.step hs

/-! ## What only the handler observes -/

theorem Frame.observed (f : Frame x y) {o : Observation} (ho : o.isHandlers = true) (hy : o ∈ y.log) : o ∈ x.log := by
  rcases f.news o hy with hx | ⟨e, rfl, -⟩
  · exact hx
  · cases ho

theorem observed_abandon {z : Exchange} {o : Observation} (ho : o.isHandlers = true) (h : o ∈ z.abandon.log)
    (hl : z.log = x.log) : o ∈ x.log := by
  rw [← hl]
  unfold Exchange.abandon at h
  split at h
  · rcases List.mem_append.1 h with h | h
    · rcases List.mem_append.1 h with h | h
      · exact h
      · cases List.mem_singleton.1 h
        cases ho
    · cases List.mem_singleton.1 h
      cases ho
  · exact h

theorem observed_trace {e : TraceEvent} {o : Observation} (ho : o.isHandlers = true) (h : o ∈ (x.trace e).log) :
    o ∈ x.log := by
  rcases List.mem_append.1 h with h | h
  · exact h
  · cases List.mem_singleton.1 h
    cases ho

theorem observed_endUpload (t : Transfer) (result : PumpResult) {o : Observation} (ho : o.isHandlers = true)
    (h : o ∈ (x.endUpload t result).log) : o ∈ x.log := by
  cases result with
  | moved bytes => exact observed_trace (x := { x with upload := some t.close, bodyComplete := true }) ho h
  | sinkClosed => exact h
  | sourceFailed cause | timedOut limit =>
    exact observed_trace (x := { x with upload := some t.cancel, uploadError := some _ }) ho h

theorem observed_failRelay (t : Transfer) (failure : Rejection) {o : Observation} (ho : o.isHandlers = true)
    (h : o ∈ (x.failRelay t failure).log) : o ∈ x.log := by
  unfold Exchange.failRelay at h
  exact observed_abandon ho h rfl

theorem observed_endRelay (t : Transfer) (result : PumpResult) {o : Observation} (ho : o.isHandlers = true)
    (h : o ∈ (x.endRelay t result).log) : o ∈ x.log := by
  cases result with
  | moved bytes =>
    unfold Exchange.endRelay at h
    dsimp only at h
    split at h
    · have ended : o ∈ (x.trace (.responseEnded bytes)).log := observed_abandon ho h rfl
      exact observed_trace ho ended
    · have ended : o ∈ (x.trace (.responseEnded bytes)).log := observed_trace ho h
      exact observed_trace ho ended
  | sinkClosed | sourceFailed cause | timedOut limit => exact observed_trace ho (observed_failRelay _ _ ho h)

theorem UploadMoves.observed {now : Nat} (moves : UploadMoves x now y) {o : Observation} (ho : o.isHandlers = true)
    (h : o ∈ y.log) : o ∈ x.log := by
  cases moves with
  | records | cancels | goesOn => exact h
  | ends => exact observed_endUpload _ _ ho h

theorem RelayMoves.observed {now : Nat} (moves : RelayMoves x now y) {o : Observation} (ho : o.isHandlers = true)
    (h : o ∈ y.log) : o ∈ x.log := by
  cases moves with
  | cancels => exact observed_abandon ho h rfl
  | goesOn => exact h
  | ends => exact observed_endRelay _ _ ho h

/-- All parts but the handler observe trace events and report failures, and nothing else. -/
theorem Step.observed {e : Event} (hs : Step x e y) {o : Observation} (ho : o.isHandlers = true) (hx : o ∉ x.log)
    (hy : o ∈ y.log) : ∃ now, x.stepHandler now = some y := by
  cases hs.turn with
  | aside frame => exact absurd (frame.observed ho hy) hx
  | arrived ids idle =>
    have started : o ∈ x.log := observed_trace ho hy
    exact absurd started hx
  | deserted waiting =>
    have left : o ∈ (x.trace .clientLeft).log := observed_abandon ho hy rfl
    exact absurd (observed_trace ho left) hx
  | handler step => exact ⟨_, step⟩
  | upload moves => exact absurd (moves.observed ho hy) hx
  | relay moves => exact absurd (moves.observed ho hy) hx

end Exchange

end Gateway
