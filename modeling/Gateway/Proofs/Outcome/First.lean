import Gateway.Proofs.Arrival
import Gateway.Proofs.Delivery.Upload

/-!
# The first failure, and the one that counts

The causes of a failure can come at the same time, and one can bring about another: a request body that breaks off makes
the backend fail, and a failure stops the transfers. `Finds` says of a single event which failure a part finds by it.

A relay records what it finds at once. An upload lets the backend see that the body broke off before it records the
failure, and the handler finds that the backend could not be asked before it records that; in between the failure is
`Pending`, and another part may record an outcome.

The main theorem is `Run.fails_first`: the failure of a request was found in its run, and it is the first that was found
unless that one was pending when another outcome was recorded (`Preempted`). `preempted_brokenUpload` is such a run: the
backend fails for the broken body, and that failure is recorded instead of its cause.
-/

namespace Gateway

/-- What a handler in this phase is about to record. -/
def HandlerPhase.cause? : HandlerPhase → Option Cause
  | failing cause => some cause
  | _ => none

namespace Exchange

variable {x y start : Exchange} {es : List Event} {e : Event} {f : Rejection} {now : Nat}

/-! ## What an event finds -/

/-- What the upload finds as it moves. -/
inductive UploadFinds (x : Exchange) (now : Nat) : Rejection → Prop where
  /-- the client's body broke off -/
  | requestBody {t : Transfer} {cause : Cause} (upload : x.upload = some t) (running : t.running = true)
      (breaks : t.pump.Breaks now (.sourceFailed cause)) : UploadFinds x now ⟨500, .incomingRequest, some cause⟩

/-- What the handler finds by a step. -/
inductive HandlerFinds (x : Exchange) (now : Nat) : Rejection → Prop where
  /-- no head for the backend can be made -/
  | unsendable {resolved : RequestHead} {target : Target} {host : String} {cause : Cause}
      (phase : x.handler = .resolving) (answer : x.resolver x.head x.context.tls = ⟨resolved, .ok (.forward target)⟩)
      (hosted : requestedHost? x.context resolved = some host)
      (outbound : outboundHead x.context target host "http" resolved.headers = .error cause) :
      HandlerFinds x now ⟨502, .outgoingRequest, some cause⟩
  /-- the backend could not be asked -/
  | unanswered {since : Nat} {cause : Cause} (phase : x.handler = .forwarding since)
      (answer : x.backendAnswer = some (.error cause)) : HandlerFinds x now ⟨502, .outgoingRequest, some cause⟩
  /-- the backend has not answered in time -/
  | overdue {since : Nat} (phase : x.handler = .forwarding since) (answer : x.backendAnswer = none)
      (late : x.profile.receive.nanos ≤ now - since) :
      HandlerFinds x now ⟨502, .outgoingRequest, some (.receiveTimeout x.profile.receive)⟩

/-- What the relay finds as it moves. -/
inductive RelayFinds (x : Exchange) (now : Nat) : Rejection → Prop where
  /-- the backend's body broke off -/
  | responseBody {t : Transfer} {cause : Cause} (relay : x.relay = some t) (running : t.running = true)
      (breaks : t.pump.Breaks now (.sourceFailed cause)) : RelayFinds x now ⟨502, .incomingResponse, some cause⟩
  /-- the backend's body was silent for too long -/
  | responseSilent {t : Transfer} (relay : x.relay = some t) (running : t.running = true)
      (breaks : t.pump.Breaks now (.timedOut x.profile.receive)) :
      RelayFinds x now ⟨502, .incomingResponse, some (.receiveTimeout x.profile.receive)⟩
  /-- the client left before the body was delivered -/
  | left {t : Transfer} (relay : x.relay = some t) (running : t.running = true)
      (breaks : t.pump.Breaks now .sinkClosed) : RelayFinds x now ⟨0, .outgoingResponse, some .clientGone⟩

/-- The failure of the request that is found by an event; a client that leaves while it waits for the head is one. -/
def Finds (x : Exchange) : Event → Rejection → Prop
  | .uploadStepped now, f | .uploadMoved now, f => x.UploadFinds now f
  | .handlerStepped now, f => x.HandlerFinds now f
  | .relayStepped now, f | .relayMoved now, f => x.RelayFinds now f
  | .clientLeft, f => x.isWaiting ∧ f = ⟨0, .outgoingResponse, some .clientGone⟩
  | _, _ => False

/-- A failure that was found and is still to be recorded. -/
inductive Pending (x : Exchange) : Rejection → Prop where
  | upload {cause : Cause} (error : x.uploadError = some cause) : Pending x (.requestBody cause)
  | handler {cause : Cause} (phase : x.handler.cause? = some cause) : Pending x (.backend cause)

theorem Pending.congr (h : x.Pending f) (error : y.uploadError = x.uploadError)
    (cause : y.handler.cause? = x.handler.cause?) : y.Pending f := by
  cases h with
  | upload broken => exact .upload (error.trans broken)
  | handler phase => exact .handler (cause.trans phase)

/-- The failures that were found by a run while the request had no outcome, in order. -/
inductive Findings (start : Exchange) : List Event → Exchange → List Rejection → Prop where
  | refl : Findings start [] start []
  | found {es x e y fs f} (rest : Findings start es x fs) (step : Step x e y) (finds : x.Finds e f)
      (unset : x.guard.outcome = none) : Findings start (es ++ [e]) y (fs ++ [f])
  | passed {es x e y fs} (rest : Findings start es x fs) (step : Step x e y)
      (passes : x.guard.outcome ≠ none ∨ ∀ f, ¬x.Finds e f) : Findings start (es ++ [e]) y fs

theorem Findings.run {fs : List Rejection} (h : Findings start es x fs) : Run start es x := by
  induction h with
  | refl => exact .refl
  | found rest step finds unset ih | passed rest step passes ih => exact ih.snoc step

/-- A run goes on with what it finds. -/
theorem Findings.extend {fs : List Rejection} {gs : List Event} (h : Findings start es x fs) (run : Run x gs y) :
    ∃ more, Findings start (es ++ gs) y (fs ++ more) := by
  induction run with
  | refl => exact ⟨[], by simpa using h⟩
  | @snoc gs y e z run step ih =>
    obtain ⟨more, found⟩ := ih
    rw [← List.append_assoc]
    by_cases finds : y.guard.outcome = none ∧ ∃ f, y.Finds e f
    · obtain ⟨unset, f, hf⟩ := finds
      exact ⟨more ++ [f], by rw [← List.append_assoc]; exact found.found step hf unset⟩
    · refine ⟨more, found.passed step ?_⟩
      rcases Classical.em (y.guard.outcome = none) with unset | set
      · exact .inr fun f hf => finds ⟨unset, f, hf⟩
      · exact .inl set

theorem Run.exists_findings (run : Run start es x) : ∃ fs, Findings start es x fs := by
  obtain ⟨fs, found⟩ := Findings.extend .refl run
  exact ⟨fs, found⟩

/-! ## Plain requests -/

/-- The resolver passes the request on, the client has named a host and asks for no websocket. -/
def Plain (x : Exchange) : Prop :=
  ∃ resolved target host, x.resolver x.head x.context.tls = ⟨resolved, .ok (.forward target)⟩
    ∧ requestedHost? x.context resolved = some host ∧ wantsSocket { x with head := resolved } = false

theorem Plain.congr (h : x.Plain) (premises : y.premises = x.premises) : y.Plain := by
  obtain ⟨resolved, target, host, answer, hosted, plain⟩ := h
  injection premises with _ resolver context head
  refine ⟨resolved, target, host, ?_, ?_, ?_⟩
  · rw [resolver, context, head, answer]
  · rw [context, hosted]
  · simpa only [wantsSocket, context] using plain

/-- What broke the upload off has stopped it. -/
def BrokenOff (x : Exchange) : Prop := ∀ cause, x.uploadError = some cause → ∃ t, x.upload = some t ∧ t.running = false

/-- What holds of a plain request in every state. -/
structure Ordinary (x : Exchange) : Prop where
  sound : x.Sound
  plain : x.handler = .resolving → x.Plain
  unsocketed : ∀ key, x.handler ≠ .connecting key
  /-- the client may take its time -/
  upload : ∀ t, x.upload = some t → t.pump.limit = none
  relay : ∀ t, x.relay = some t → t.pump.limit = some x.profile.receive
  brokenOff : x.BrokenOff

/-- Without an upload nothing breaks off. -/
theorem Step.unbroken (hs : Step x e y) (hx : x.upload = none) (he : x.uploadError = none) : y.uploadError = none := by
  cases hs.turn with
  | aside frame => exact frame.error hx he
  | arrived => exact he
  | deserted =>
    obtain ⟨_, _, _, _, same⟩ := touches_dropHandler x
    rw [same]
    exact he
  | handler moved => exact (uploadError_stepHandler moved).trans he
  | upload moves =>
    cases moves with
    | records error => rfl
    | cancels upload | goesOn upload | ends upload => simp [hx] at upload
  | relay moves =>
    obtain ⟨_, _, _, rfl⟩ := moves.touches
    exact he

/-- An upload at work has not broken off. -/
theorem BrokenOff.whole (h : x.BrokenOff) {t : Transfer} (ht : x.upload = some t) (running : t.running = true) :
    x.uploadError = none := by
  refine Option.eq_none_iff_forall_ne_some.2 fun cause error => ?_
  obtain ⟨u, hu, stopped⟩ := h cause error
  obtain rfl := Option.some.inj (ht.symm.trans hu)
  simp [running] at stopped

/-- A change of the upload that leaves it at work or not. -/
theorem BrokenOff.congr (h : x.BrokenOff) {t u : Transfer} (hx : x.upload = some t) (error : y.uploadError = x.uploadError)
    (upload : y.upload = some u) (running : u.running = t.running) : y.BrokenOff := by
  intro cause broken
  obtain ⟨v, hv, stopped⟩ := h cause (error ▸ broken)
  obtain rfl := Option.some.inj (hx.symm.trans hv)
  exact ⟨u, upload, running.trans stopped⟩

theorem BrokenOff.step (h : x.BrokenOff) (hs : Step x e y) (sound : x.Sound) : y.BrokenOff := by
  cases hx : x.upload with
  | none =>
    have whole : x.uploadError = none := by
      refine Option.eq_none_iff_forall_ne_some.2 fun cause error => ?_
      obtain ⟨t, ht, -⟩ := h cause error
      simp [hx] at ht
    intro cause error
    rw [hs.unbroken hx whole] at error
    cases error
  | some t =>
    cases hs.uploading sound (by simp [hx]) with
    | push item =>
      refine h.congr (u := { t with pump := { t.pump with source := t.pump.source.push item } }) hx ?_ ?_ rfl <;>
        simp [pushRequest, hx]
    | read read =>
      rcases backendRead_cases read with ⟨_, _, -, rfl⟩ | ⟨u, pipe, -, hu, -, rfl⟩
      · exact h.congr hx rfl hx rfl
      · obtain rfl := Option.some.inj (hx.symm.trans hu)
        exact h.congr hx rfl rfl rfl
    | dropped dropped =>
      rcases backendDropBody_cases dropped with ⟨_, -, rfl⟩ | ⟨-, rfl⟩
      · exact h.congr hx rfl hx rfl
      · exact h.congr (u := { t with pump := { t.pump with pipe := t.pump.pipe.closeReader } }) hx rfl (by simp [hx]) rfl
    | step moves =>
      cases moves with
      | records =>
        intro cause error
        cases error
      | @cancels u => exact fun _ _ => ⟨u.cancel, rfl, rfl⟩
      | goesOn upload running =>
        intro cause error
        simp [h.whole upload running] at error
      | @ends u pump result upload running =>
        cases result with
        | moved | sinkClosed =>
          intro cause error
          have error : x.uploadError = some cause := error
          simp [h.whole upload running] at error
        | sourceFailed | timedOut => exact fun _ _ => ⟨_, rfl, rfl⟩
    | apart upload error => exact h.congr hx error (upload.trans hx) rfl

/-! ## What an event comes to -/

/-- What an event comes to while the request has no outcome. -/
inductive Upshot (x : Exchange) (e : Event) (y : Exchange) : Prop where
  | quiet (finds : ∀ f, ¬x.Finds e f) (unset : y.guard.outcome = none) (pending : ∀ f, y.Pending f ↔ x.Pending f)
  /-- a failure is found, and is to be recorded -/
  | pends {f : Rejection} (finds : ∀ g, x.Finds e g ↔ g = f) (unset : y.guard.outcome = none)
      (pending : ∀ g, y.Pending g ↔ g = f ∨ x.Pending g)
  /-- a failure is found and recorded -/
  | fails {f : Rejection} (finds : ∀ g, x.Finds e g ↔ g = f) (failed : y.guard.outcome = some (.failed f))
  /-- a pending failure is recorded -/
  | records {f : Rejection} (finds : ∀ g, ¬x.Finds e g) (pending : x.Pending f)
      (failed : y.guard.outcome = some (.failed f))
  | completes (finds : ∀ f, ¬x.Finds e f) (completed : y.guard.outcome = some .completed)

/-- What touches neither the outcome nor what is pending. -/
theorem Upshot.aside (unset : x.guard.outcome = none) (finds : ∀ f, ¬x.Finds e f) (guard : y.guard = x.guard)
    (error : y.uploadError = x.uploadError) (cause : y.handler.cause? = x.handler.cause?) : Upshot x e y :=
  .quiet finds (guard ▸ unset) fun _ => ⟨fun h => h.congr error.symm cause.symm, fun h => h.congr error cause⟩

/-- What is pending now and was not before was found. -/
theorem Upshot.finds_of_pending (h : Upshot x e y) (unset : y.guard.outcome = none) (pending : y.Pending f)
    (before : ¬x.Pending f) : x.Finds e f := by
  cases h with
  | quiet _ _ same => exact absurd ((same f).1 pending) before
  | @pends g finds _ only => exact (finds f).2 (((only f).1 pending).resolve_right before)
  | fails _ set | records _ _ set | completes _ set => simp [set] at unset

/-! ### The upload -/

theorem uploadFinds_iff {t : Transfer} {pump : Pump} (ht : x.upload = some t) (running : t.running = true)
    (moves : t.pump.Move now pump) :
    x.UploadFinds now f ↔ ∃ cause, pump.result? = some (.sourceFailed cause) ∧ f = .requestBody cause := by
  constructor
  · rintro ⟨upload, -, breaks⟩
    obtain rfl := Option.some.inj (ht.symm.trans upload)
    exact ⟨_, breaks.result moves, rfl⟩
  · rintro ⟨cause, ended, rfl⟩
    exact .requestBody ht running ((Pump.breaks_iff_of_move moves (by simp) (by simp)).2 ended)

/-- An upload has no limit, so it fails the request only as the body breaks off, and that is to be recorded. -/
theorem Ordinary.upshot_upload (h : x.Ordinary) (unset : x.guard.outcome = none) (moves : UploadMoves x now y)
    (finds : ∀ f, x.Finds e f ↔ x.UploadFinds now f) : Upshot x e y := by
  cases moves with
  | @records cause error =>
    refine .records (f := .requestBody cause) (fun f hf => ?_) (.upload error)
      (outcome_fail_of_unset (x := { x with uploadError := none }) unset _)
    obtain ⟨upload, running, -⟩ := (finds f).1 hf
    simp [h.brokenOff.whole upload running] at error
  | cancels _ _ recorded =>
    rw [Guard.awaitFailure_of_unset unset] at recorded
    cases recorded
  | goesOn upload running step unfinished =>
    refine .aside unset (fun f hf => ?_) rfl rfl rfl
    obtain ⟨cause, ended, -⟩ := (uploadFinds_iff upload running (Pump.move_of_step step)).1 ((finds f).1 hf)
    simp [unfinished] at ended
  | @ends t pump result upload running step ended =>
    have moves := Pump.move_of_step step
    have found {f : Rejection} : x.Finds e f ↔ ∃ cause, result = .sourceFailed cause ∧ f = .requestBody cause := by
      rw [finds, uploadFinds_iff upload running moves, ended]
      simp
    cases result with
    | moved | sinkClosed => exact .aside unset (by simp [found]) rfl rfl rfl
    | sourceFailed cause =>
      refine .pends (f := .requestBody cause) (by simp [found]) unset fun g => ⟨fun pending => ?_, ?_⟩
      · cases pending with
        | upload error =>
          obtain rfl : cause = _ := Option.some.inj error
          exact .inl rfl
        | handler phase => exact .inr (.handler phase)
      · rintro (rfl | pending)
        · exact .upload rfl
        · cases pending with
          | upload error => simp [h.brokenOff.whole upload running] at error
          | handler phase => exact .handler phase
    | timedOut limit =>
      have limited := Pump.limit_of_timedOut moves ended
      rw [h.upload t upload] at limited
      cases limited

/-! ### The relay -/

theorem relayFinds_iff {t : Transfer} {pump : Pump} (ht : x.relay = some t) (running : t.running = true)
    (moves : t.pump.Move now pump) (gone : pump.result? = some .sinkClosed → t.pump.pipe.reader = false) :
    x.RelayFinds now f
      ↔ (∃ cause, pump.result? = some (.sourceFailed cause) ∧ f = .responseBody cause)
        ∨ (pump.result? = some (.timedOut x.profile.receive) ∧ f = .responseBody (.receiveTimeout x.profile.receive))
        ∨ (pump.result? = some .sinkClosed ∧ f = .clientLeft) := by
  constructor
  · intro found
    cases found with
    | responseBody relay _ breaks =>
      obtain rfl := Option.some.inj (ht.symm.trans relay)
      exact .inl ⟨_, breaks.result moves, rfl⟩
    | responseSilent relay _ breaks =>
      obtain rfl := Option.some.inj (ht.symm.trans relay)
      exact .inr (.inl ⟨breaks.result moves, rfl⟩)
    | left relay _ breaks =>
      obtain rfl := Option.some.inj (ht.symm.trans relay)
      exact .inr (.inr ⟨breaks.result moves, rfl⟩)
  · rintro (⟨cause, ended, rfl⟩ | ⟨ended, rfl⟩ | ⟨ended, rfl⟩)
    · exact .responseBody ht running ((Pump.breaks_iff_of_move moves (by simp) (by simp)).2 ended)
    · exact .responseSilent ht running ((Pump.breaks_iff_of_move moves (by simp) (by simp)).2 ended)
    · exact .left ht running ((Pump.breaks_iff_of_move moves (by simp) fun _ => gone ended).2 ended)

/-- A relay fails the request as its pump broke off. `gone` leaves trailers after trailers aside. -/
theorem Ordinary.upshot_relay (h : x.Ordinary) (unset : x.guard.outcome = none)
    (gone : ∀ t pump, x.relay = some t → t.running = true → t.pump.Move now pump → pump.result? = some .sinkClosed →
      t.pump.pipe.reader = false)
    (moves : RelayMoves x now y) (finds : ∀ f, x.Finds e f ↔ x.RelayFinds now f) : Upshot x e y := by
  cases moves with
  | cancels _ _ recorded =>
    rw [Guard.awaitFailure_of_unset unset] at recorded
    cases recorded
  | @goesOn t pump relay running step unfinished =>
    have moves := Pump.move_of_step step
    refine .aside unset (fun f => ?_) rfl rfl rfl
    rw [finds, relayFinds_iff relay running moves (gone t pump relay running moves), unfinished]
    simp
  | @ends t pump result relay running step ended =>
    have moves := Pump.move_of_step step
    have found {f : Rejection} : x.Finds e f ↔ (∃ cause, result = .sourceFailed cause ∧ f = .responseBody cause)
        ∨ (result = .timedOut x.profile.receive ∧ f = .responseBody (.receiveTimeout x.profile.receive))
        ∨ (result = .sinkClosed ∧ f = .clientLeft) := by
      rw [finds, relayFinds_iff relay running moves (gone t pump relay running moves), ended]
      simp
    cases result with
    | moved bytes =>
      refine .completes (by simp [found]) ?_
      have untold : (x.trace (.responseEnded bytes)).guard.isTerminated = false := by
        simp [Guard.isTerminated, trace, observe, unset]
      unfold endRelay
      dsimp only
      rw [untold]
      exact outcome_complete_of_unset (x := x.trace (.responseEnded bytes)) unset
    | sinkClosed | sourceFailed cause =>
      exact .fails (by simp [found]) (outcome_failRelay_of_unset (x := x.trace _) unset _ _)
    | timedOut limit =>
      obtain rfl := Option.some.inj ((h.relay t relay).symm.trans (Pump.limit_of_timedOut moves ended))
      exact .fails (by simp [found]) (outcome_failRelay_of_unset (x := x.trace _) unset _ _)

/-! ### The handler -/

theorem outcome_reject_of_unset (unset : x.guard.outcome = none) (failure : Rejection) :
    (x.reject failure).guard.outcome = some (.failed failure) :=
  outcome_fail_of_unset unset failure

/-- A response whose body is over ends the request well. -/
theorem outcome_passEnded_of_unset (unset : x.guard.outcome = none) (head : ResponseHead) (response : Response) :
    (x.passEnded head response).guard.outcome = some .completed := by
  have untold : (x.trace (.responseEnded 0)).guard.isTerminated = false := by
    simp [Guard.isTerminated, trace, observe, unset]
  unfold passEnded
  dsimp only
  rw [untold]
  exact outcome_complete_of_unset (x := x.trace (.responseEnded 0)) unset

/-- While the resolver is waited for, the only failure is that no head for the backend can be made. -/
theorem handlerFinds_resolving_iff {resolved : RequestHead} {target : Target} {host : String}
    (phase : x.handler = .resolving) (answer : x.resolver x.head x.context.tls = ⟨resolved, .ok (.forward target)⟩)
    (hosted : requestedHost? x.context resolved = some host) :
    x.HandlerFinds now f
      ↔ ∃ cause, outboundHead x.context target host "http" resolved.headers = .error cause ∧ f = .backend cause := by
  constructor
  · intro found
    cases found with
    | unsendable _ answer' hosted' outbound =>
      rw [answer] at answer'
      cases answer'
      rw [hosted] at hosted'
      cases hosted'
      exact ⟨_, outbound, rfl⟩
    | unanswered other | overdue other => simp [phase] at other
  · rintro ⟨cause, outbound, rfl⟩
    exact .unsendable phase answer hosted outbound

/-- While the backend is waited for, it cannot be asked, or does not answer in time. -/
theorem handlerFinds_forwarding_iff {since : Nat} (phase : x.handler = .forwarding since) :
    x.HandlerFinds now f ↔ (∃ cause, x.backendAnswer = some (.error cause) ∧ f = .backend cause)
      ∨ (x.backendAnswer = none ∧ x.isOverdue since now = true ∧ f = .backend (.receiveTimeout x.profile.receive)) := by
  constructor
  · intro found
    cases found with
    | unsendable other => simp [phase] at other
    | unanswered _ answer => exact .inl ⟨_, answer, rfl⟩
    | overdue same answer late =>
      obtain rfl := HandlerPhase.forwarding.inj (phase.symm.trans same)
      exact .inr ⟨answer, decide_eq_true late, rfl⟩
  · rintro (⟨cause, answer, rfl⟩ | ⟨answer, late, rfl⟩)
    · exact .unanswered phase answer
    · exact .overdue phase answer (of_decide_eq_true late)

/-- From then on the handler finds nothing. -/
theorem not_handlerFinds (resolved : x.handler ≠ .resolving) (asked : ∀ since, x.handler ≠ .forwarding since) :
    ¬x.HandlerFinds now f := by
  intro found
  cases found with
  | unsendable phase => exact resolved phase
  | unanswered phase | overdue phase => exact asked _ phase

/-- What the resolver's answer leads to in a plain request: the backend is asked, or no head for it can be made. -/
inductive Dispatches (x : Exchange) (now : Nat) : Exchange → Prop where
  | unsendable {resolved : RequestHead} {target : Target} {host : String} {cause : Cause}
      (answer : x.resolver x.head x.context.tls = ⟨resolved, .ok (.forward target)⟩)
      (hosted : requestedHost? x.context resolved = some host)
      (outbound : outboundHead x.context target host "http" resolved.headers = .error cause) :
      Dispatches x now (((trace { x with head := resolved } (.hopResolved target)).trace (.forwardFailed cause)).reject
        (.backend cause))
  | sent {resolved : RequestHead} {fields : Headers} {target : Target} {host : String} {uri : Uri}
      (answer : x.resolver x.head x.context.tls = ⟨resolved, .ok (.forward target)⟩)
      (hosted : requestedHost? x.context resolved = some host)
      (outbound : outboundHead x.context target host "http" resolved.headers = .ok (uri, fields)) (head : RequestHead) :
      Dispatches x now (((trace { x with head := resolved } (.hopResolved target)).handOver fields).1.send now head)

/-- The handler of a plain request goes from the resolver to the backend, and from there to the head of a response. -/
theorem Ordinary.stepHandler_cases (h : x.Ordinary) (hy : x.stepHandler now = some y) :
    (x.handler = .resolving ∧ Dispatches x now y) ∨ (∃ since, x.handler = .forwarding since ∧ Forwards x now since y)
      ∨ (∃ cause, x.handler = .failing cause ∧ y = x.failForward cause) ∨ Responds x y := by
  cases Exchange.stepHandler_cases hy with
  | @resolved head hop _ phase ready resolution next =>
    obtain ⟨resolved, target, host, answer, hosted, plain⟩ := h.plain phase
    obtain ⟨rfl, rfl⟩ : resolved = head ∧ .ok (.forward target) = hop := by
      rw [answer] at resolution
      exact ⟨congrArg Resolution.head resolution, congrArg Resolution.hop resolution⟩
    refine .inl ⟨phase, ?_⟩
    cases next with
    | hostless _ unhosted =>
      rw [hosted] at unhosted
      cases unhosted
    | keyless _ _ socket | socketFailed _ _ socket | socketAsked _ _ socket =>
      rw [plain] at socket
      cases socket
    | unsendable _ named _ outbound => exact .unsendable answer named outbound
    | sent _ named _ outbound => exact .sent answer named outbound _
  | forwarded phase next => exact .inr (.inl ⟨_, phase, next⟩)
  | failed phase => exact .inr (.inr (.inl ⟨_, phase, rfl⟩))
  | responded next => exact .inr (.inr (.inr next))
  | connected phase => exact absurd phase (h.unsocketed _)

/-- The wait for the backend ends with an answer, or with a failure that is to be recorded. -/
theorem Forwards.upshot {since : Nat} (next : Forwards x now since y) (unset : x.guard.outcome = none)
    (phase : x.handler = .forwarding since) : Upshot x (.handlerStepped now) y := by
  have found {f : Rejection} : x.Finds (.handlerStepped now) f ↔ _ := handlerFinds_forwarding_iff (f := f) phase
  -- the handler is about to record nothing, and then this
  have pends {cause : Cause} {call : BackendCall}
      (finds : ∀ g, x.Finds (.handlerStepped now) g ↔ g = .backend cause) :
      Upshot x (.handlerStepped now) { x with backendCall := call, handler := .failing cause } := by
    refine .pends finds unset fun g => ⟨fun pending => ?_, ?_⟩
    · cases pending with
      | upload error => exact .inr (.upload error)
      | handler same =>
        cases same
        exact .inl rfl
    · rintro (rfl | pending)
      · exact .handler rfl
      · cases pending with
        | upload error => exact .upload error
        | handler same => simp [phase, HandlerPhase.cause?] at same
  cases next with
  | failed recorded =>
    rw [Guard.awaitFailure_of_unset unset] at recorded
    cases recorded
  | answered _ answer => exact .aside unset (by simp [found, answer]) rfl rfl (by rw [phase]; rfl)
  | unanswered _ answer => exact pends (by simp [found, answer])
  | overdue _ answer late => exact pends (by simp [found, answer, late])

/-- What follows the backend's answer fails nothing. -/
theorem Responds.upshot (next : Responds x y) (unset : x.guard.outcome = none) : Upshot x (.handlerStepped now) y := by
  have finds {phase : HandlerPhase} (at' : x.handler = phase) (resolved : phase ≠ .resolving)
      (asked : ∀ since, phase ≠ .forwarding since) : ∀ f, ¬x.Finds (.handlerStepped now) f :=
    fun _ => not_handlerFinds (at' ▸ resolved) (at' ▸ asked)
  cases next with
  | failed _ _ recorded => simp [Guard.failure, unset] at recorded
  | @composed response phase =>
    obtain ⟨_, same⟩ := touches_traceResponse x response
    rw [same]
    exact .aside unset (finds phase (by simp) (by simp)) rfl rfl (by rw [phase]; rfl)
  | @ended head response phase =>
    exact .completes (finds phase (by simp) (by simp)) (outcome_passEnded_of_unset unset head response)
  | relayed phase | headed phase => exact .aside unset (finds phase (by simp) (by simp)) rfl rfl (by rw [phase]; rfl)

theorem Ordinary.upshot_handler (h : x.Ordinary) (unset : x.guard.outcome = none) (hy : x.stepHandler now = some y) :
    Upshot x (.handlerStepped now) y := by
  rcases h.stepHandler_cases hy with ⟨phase, dispatched⟩ | ⟨since, phase, next⟩ | ⟨cause, phase, rfl⟩ | next
  · cases dispatched with
    | unsendable answer hosted outbound =>
      refine .fails (fun g => ?_) (outcome_reject_of_unset (by exact unset) _)
      exact (handlerFinds_resolving_iff phase answer hosted).trans (by simp [outbound])
    | @sent resolved fields target host uri answer hosted outbound head =>
      obtain ⟨_, _, _, _, _, same⟩ := touches_handOver (trace { x with head := resolved } (.hopResolved target)) fields
      refine .aside unset (fun f found => ?_) ?_ ?_ ?_
      · simpa [outbound] using (handlerFinds_resolving_iff phase answer hosted).1 found
      · rw [same]
        rfl
      · rw [same]
        rfl
      · rw [phase]
        rfl
  · exact next.upshot unset phase
  · exact .records (fun g => not_handlerFinds (by simp [phase]) (by simp [phase])) (.handler (by rw [phase]; rfl))
      (outcome_reject_of_unset (x := x.trace (.forwardFailed cause)) unset _)
  · exact next.upshot unset

/-! ### Every event -/

theorem Ordinary.upshot (h : x.Ordinary) (unset : x.guard.outcome = none)
    (gone : ∀ now t pump, x.relay = some t → t.running = true → t.pump.Move now pump → pump.result? = some .sinkClosed →
      t.pump.pipe.reader = false)
    (hs : Step x e y) : Upshot x e y := by
  cases hs with
  | arrive ids idle => exact .aside unset nofun rfl rfl (by rw [idle]; rfl)
  | pushRequest item =>
    obtain ⟨_, _, same⟩ := touches_pushRequest x item
    rw [same]
    exact .aside unset nofun rfl rfl rfl
  | clientRead hy =>
    obtain ⟨_, _, rfl⟩ := touches_clientRead hy
    exact .aside unset nofun rfl rfl rfl
  | leave hy =>
    unfold dropClient at hy
    split at hy
    · rename_i waiting
      cases hy
      refine .fails (f := .clientLeft) (fun g => ⟨fun found => found.2, fun same => ⟨waiting, same⟩⟩) ?_
      unfold dropHandler
      dsimp only
      rw [guard_abandon]
      exact outcome_fail_of_unset (by exact unset) _
    · rename_i unwaiting
      obtain ⟨_, _, rfl⟩ := touches_dropResponse hy
      exact .aside unset (fun f found => unwaiting found.1) rfl rfl rfl
  | allow hy =>
    obtain rfl := touches_allowResolve hy
    exact .aside unset nofun rfl rfl rfl
  | backendRead hy =>
    obtain ⟨_, _, rfl⟩ := touches_backendRead hy
    exact .aside unset nofun rfl rfl rfl
  | backendDrop hy =>
    obtain ⟨_, _, rfl⟩ := touches_backendDropBody hy
    exact .aside unset nofun rfl rfl rfl
  | answer hy =>
    obtain rfl := touches_answerBackend hy
    exact .aside unset nofun rfl rfl rfl
  | pushResponse item =>
    obtain ⟨_, _, _, same⟩ := touches_pushResponse x item
    rw [same]
    exact .aside unset nofun rfl rfl rfl
  | answerSocket answer | giveConnection takeover => exact .aside unset nofun rfl rfl rfl
  | endTunnel result =>
    obtain ⟨_, _, same⟩ := touches_endTunnel x result
    rw [same]
    exact .aside unset nofun rfl rfl rfl
  | handler hy => exact h.upshot_handler unset hy
  | upload hy => exact h.upshot_upload unset (uploadMoves_of_stepUpload hy) fun _ => Iff.rfl
  | moveUpload hy => exact h.upshot_upload unset (uploadMoves_of_moveUpload hy) fun _ => Iff.rfl
  | relay hy => exact h.upshot_relay unset (gone _) (relayMoves_of_stepRelay hy) fun _ => Iff.rfl
  | moveRelay hy => exact h.upshot_relay unset (gone _) (relayMoves_of_moveRelay hy) fun _ => Iff.rfl
  | tunnel hy =>
    obtain ⟨_, _, rfl⟩ := touches_stepTunnel hy
    exact .aside unset nofun rfl rfl rfl

/-! ## Every run -/

theorem Known.profile (h : Known start es x) : x.profile = start.profile := by
  cases h with
  | unbegun _ premises | resolving _ _ premises | resolved _ _ premises => exact congrArg Premises.profile premises

/-- A plain request asks for no websocket. -/
theorem Ordinary.unsocketed_step (h : x.Ordinary) (hs : Step x e y) (key : HeaderValue) : y.handler ≠ .connecting key := by
  have same (handler : y.handler = x.handler) : y.handler ≠ .connecting key := handler ▸ h.unsocketed key
  cases hs.turn with
  | aside frame => exact same frame.handler
  | arrived ids idle => exact nofun
  | deserted waiting =>
    obtain ⟨_, _, _, _, same⟩ := touches_dropHandler x
    rw [same]
    exact nofun
  | handler hy =>
    rcases h.stepHandler_cases hy with ⟨-, dispatched⟩ | ⟨since, -, next⟩ | ⟨cause, -, rfl⟩ | next
    · cases dispatched <;> exact nofun
    · cases next <;> exact nofun
    · exact nofun
    · cases next <;> exact nofun
  | upload moves => exact same moves.keeps.handler
  | relay moves => exact same moves.keeps.handler

/-- A request that arrives as a plain one stays one. -/
theorem Run.ordinary (run : Run start es x) (fresh : start.Fresh)
    (plain : ∀ ids, .arrived ids ∈ es → (start.arrive ids).1.Plain) : x.Ordinary := by
  induction run with
  | refl =>
    obtain ⟨handler, guard, upload, relay⟩ := fresh.idle
    obtain ⟨-, -, -, whole⟩ := fresh.sound.waiting (.inl handler)
    exact ⟨fresh.sound, by simp [handler], by simp [handler], by simp [upload], by simp [relay], by simp [BrokenOff, whole]⟩
  | @snoc es x e y run step ih =>
    have h : x.Ordinary := ih fun ids arrived => plain ids (List.mem_append_left _ arrived)
    have known : Known start (es ++ [e]) y := (run.snoc step).known fresh
    have profile : y.profile = x.profile := known.profile.trans (run.known fresh).profile.symm
    refine ⟨h.sound.step step, fun phase => ?_, h.unsocketed_step step,
      upload_kept (kept_limit none) step h.sound (fun _ _ => rfl) h.upload, ?_, h.brokenOff.step step h.sound⟩
    · cases known with
      | unbegun handler => simp [phase] at handler
      | resolving arrived _ premises => exact (plain _ arrived).congr premises
      | resolved _ past => simp [phase, HandlerPhase.isPast] at past
    · rw [profile]
      exact relay_kept (kept_limit _) step h.sound (fun _ _ => rfl) h.relay

/-- The body of the response that is relayed has at most one trailers item among its frames. -/
def OneTrailers (start : Exchange) (es : List Event) (x : Exchange) : Prop :=
  ∀ response after, RelaySince start es x response after →
    (trailerFields (frames (response.body.items ++ offersOf after))).length ≤ 1

/-- What has at most one trailers item had no more before. -/
theorem OneTrailers.earlier (one : OneTrailers start (es ++ [e]) y) (step : Step x e y) : OneTrailers start es x := by
  rintro response after ⟨before, w, d, z, cut, begins⟩
  have longer : Run.Cut start (es ++ [e]) y before w d z (after ++ [e]) :=
    ⟨by rw [cut.events]; simp, cut.first, cut.step, cut.rest.snoc step⟩
  have below : offersOf after <+: offersOf (after ++ [e]) := ⟨offersOf [e], by simp [offersOf]⟩
  have fewer := trailerFields_mono (frames_mono ((List.prefix_append_right_inj response.body.items).2 below))
  exact Nat.le_trans fewer.length_le (one _ _ ⟨before, w, d, z, longer, begins⟩)

/-- A relay that takes its client for gone is right. -/
theorem Run.gone (run : Run start es x) (fresh : start.Fresh) (one : OneTrailers start es x) {t : Transfer} {pump : Pump}
    (ht : x.relay = some t) (running : t.running = true) (moves : t.pump.Move now pump)
    (closed : pump.result? = some .sinkClosed) : t.pump.pipe.reader = false := by
  obtain ⟨response, after, since⟩ := run.relaySince fresh.idle.2.2.2 (by simp [ht])
  obtain ⟨u, hu⟩ := since.relays fresh
  obtain rfl := Option.some.inj (ht.symm.trans hu.relay)
  exact hu.delivery.gone running moves closed (one _ _ since)

/-! ## What is recorded -/

/-- Another outcome was recorded while this failure was pending. -/
def Preempted (start : Exchange) (es : List Event) (x : Exchange) (f : Rejection) : Prop :=
  ∃ before w e v after, Run.Cut start es x before w e v after ∧ w.guard.outcome = none ∧ w.Pending f
    ∧ ∃ o, v.guard.outcome = some o ∧ o ≠ .failed f

theorem Preempted.snoc (h : Preempted start es x f) (step : Step x e y) : Preempted start (es ++ [e]) y f := by
  obtain ⟨before, w, d, v, after, cut, pending⟩ := h
  exact ⟨before, w, d, v, after ++ [e], ⟨by rw [cut.events]; simp, cut.first, cut.step, cut.rest.snoc step⟩, pending⟩

theorem Preempted.outcome_ne_none (h : Preempted start es x f) (fresh : start.Fresh) : x.guard.outcome ≠ none := by
  obtain ⟨before, w, e, v, after, cut, -, -, o, recorded, -⟩ := h
  have sound : v.Sound := (cut.first.sound fresh).step cut.step
  simp [(sound.outcome_run cut.rest recorded).2]

/-- What becomes of the failures that were found. -/
structure Accounts (start : Exchange) (es : List Event) (x : Exchange) (fs : List Rejection) : Prop where
  /-- what is to be recorded was found -/
  pending : x.guard.outcome = none → ∀ f, x.Pending f → f ∈ fs
  /-- what is recorded was found -/
  recorded : ∀ f, x.guard.failure = some f → f ∈ fs
  /-- the first is recorded, or is to be, or another outcome was quicker -/
  first : ∀ f, fs.head? = some f →
    x.guard.failure = some f ∨ (x.guard.outcome = none ∧ x.Pending f) ∨ Preempted start es x f

namespace Accounts

variable {fs : List Rejection}

/-- While there is no outcome, the first failure is pending. -/
theorem pending_of_unset (h : Accounts start es x fs) (fresh : start.Fresh) (unset : x.guard.outcome = none)
    (head : fs.head? = some f) : x.Pending f := by
  rcases h.first f head with recorded | ⟨-, pending⟩ | preempted
  · simp [Guard.failure, unset] at recorded
  · exact pending
  · exact absurd unset (preempted.outcome_ne_none fresh)

/-- Where nothing is recorded or to be recorded, nothing was found. -/
theorem eq_nil (h : Accounts start es x fs) (fresh : start.Fresh) (unset : x.guard.outcome = none)
    (none : ∀ f, ¬x.Pending f) : fs = [] :=
  List.head?_eq_none_iff.1 (Option.eq_none_iff_forall_ne_some.2 fun f head =>
    none f (h.pending_of_unset fresh unset head))

/-- An outcome that is recorded is the first failure, or preempts it. -/
theorem first_of_recorded (h : Accounts start es x fs) (fresh : start.Fresh) (run : Run start es x) (step : Step x e y)
    (unset : x.guard.outcome = none) {o : Outcome} (recorded : y.guard.outcome = some o) (head : fs.head? = some f) :
    y.guard.failure = some f ∨ (y.guard.outcome = none ∧ y.Pending f) ∨ Preempted start (es ++ [e]) y f := by
  by_cases same : o = .failed f
  · exact .inl (Guard.failure_eq_some_iff.2 (same ▸ recorded))
  · exact .inr (.inr ⟨es, x, e, y, [], ⟨rfl, run, step, .refl⟩, unset, h.pending_of_unset fresh unset head, o, recorded,
      same⟩)

/-- Once there is an outcome, nothing changes. -/
theorem stays (h : Accounts start es x fs) (sound : x.Sound) (step : Step x e y) (set : x.guard.outcome ≠ none) :
    Accounts start (es ++ [e]) y fs := by
  obtain ⟨o, ho⟩ := Option.ne_none_iff_exists'.1 set
  have outcome : y.guard.outcome = some o := sound.outcome_step step ho
  have failure : y.guard.failure = x.guard.failure := Guard.failure_congr (outcome.trans ho.symm)
  refine ⟨fun unset => ?_, fun f recorded => h.recorded f (failure ▸ recorded), fun f head => ?_⟩
  · rw [outcome] at unset
    cases unset
  · rcases h.first f head with recorded | ⟨unset, -⟩ | preempted
    · exact .inl (failure.trans recorded)
    · exact absurd unset set
    · exact .inr (.inr (preempted.snoc step))

/-- An event that finds nothing: what is pending may be recorded, or the request may end well. -/
theorem passes (h : Accounts start es x fs) (fresh : start.Fresh) (run : Run start es x) (step : Step x e y)
    (unset : x.guard.outcome = none) (upshot : Upshot x e y) (none : ∀ f, ¬x.Finds e f) :
    Accounts start (es ++ [e]) y fs := by
  cases upshot with
  | quiet _ still pending =>
    refine ⟨fun _ f hf => h.pending unset f ((pending f).1 hf), fun f recorded => ?_, fun f head => ?_⟩
    · simp [Guard.failure, still] at recorded
    · exact .inr (.inl ⟨still, (pending f).2 (h.pending_of_unset fresh unset head)⟩)
  | @pends f finds | @fails f finds => exact absurd ((finds f).2 rfl) (none f)
  | records _ pending failed =>
    refine ⟨fun still => ?_, fun g recorded => ?_, fun g head => h.first_of_recorded fresh run step unset failed head⟩
    · simp [failed] at still
    · rw [Guard.failure_eq_some_iff, failed] at recorded
      cases recorded
      exact h.pending unset _ pending
  | completes _ completed =>
    refine ⟨fun still => ?_, fun g recorded => ?_, fun g head => h.first_of_recorded fresh run step unset completed head⟩
    · simp [completed] at still
    · simp [Guard.failure, completed] at recorded

/-- An event that finds a failure: it is recorded or pending, and the first one if none was found before. -/
theorem finds (h : Accounts start es x fs) (fresh : start.Fresh) (run : Run start es x) (step : Step x e y)
    (unset : x.guard.outcome = none) (upshot : Upshot x e y) (found : x.Finds e f) :
    Accounts start (es ++ [e]) y (fs ++ [f]) := by
  cases upshot with
  | quiet none | records none | completes none => exact absurd found (none f)
  | @pends g finds still pending =>
    obtain rfl := (finds f).1 found
    refine ⟨fun _ g hg => ?_, fun g recorded => ?_, fun g head => .inr (.inl ⟨still, (pending g).2 ?_⟩)⟩
    · rcases (pending g).1 hg with rfl | before
      · exact List.mem_append_right _ (List.mem_singleton_self _)
      · exact List.mem_append_left _ (h.pending unset g before)
    · simp [Guard.failure, still] at recorded
    · cases fs with
      | nil => exact .inl (Option.some.inj head).symm
      | cons first fs => exact .inr (h.pending_of_unset fresh unset head)
  | @fails g finds failed =>
    obtain rfl := (finds f).1 found
    refine ⟨fun still => ?_, fun g recorded => ?_, fun g head => ?_⟩
    · simp [failed] at still
    · rw [Guard.failure_eq_some_iff, failed] at recorded
      cases recorded
      exact List.mem_append_right _ (List.mem_singleton_self _)
    · cases fs with
      | nil =>
        obtain rfl : f = g := Option.some.inj head
        exact .inl (Guard.failure_eq_some_iff.2 failed)
      | cons first fs => exact h.first_of_recorded fresh run step unset failed head

end Accounts

theorem Findings.accounts {fs : List Rejection} (h : Findings start es x fs) (fresh : start.Fresh)
    (plain : ∀ ids, .arrived ids ∈ es → (start.arrive ids).1.Plain) (one : OneTrailers start es x) :
    Accounts start es x fs := by
  have upshot {es x e y} {fs : List Rejection} (rest : Findings start es x fs) (step : Step x e y)
      (plain : ∀ ids, .arrived ids ∈ es ++ [e] → (start.arrive ids).1.Plain) (one : OneTrailers start (es ++ [e]) y)
      (unset : x.guard.outcome = none) : Upshot x e y := by
    have ordinary := rest.run.ordinary fresh fun ids arrived => plain ids (List.mem_append_left _ arrived)
    exact ordinary.upshot unset (fun _ _ _ ht => rest.run.gone fresh (one.earlier step) ht) step
  induction h with
  | refl =>
    obtain ⟨handler, guard, -⟩ := fresh.idle
    obtain ⟨-, -, -, whole⟩ := fresh.sound.waiting (.inl handler)
    refine ⟨fun _ f pending => ?_, by simp [guard, Guard.failure, Guard.unset], nofun⟩
    cases pending with
    | upload error => simp [whole] at error
    | handler phase => simp [handler, HandlerPhase.cause?] at phase
  | found rest step finds unset ih =>
    have before := ih (fun ids arrived => plain ids (List.mem_append_left _ arrived)) (one.earlier step)
    exact before.finds fresh rest.run step unset (upshot rest step plain one unset) finds
  | @passed es x e y fs rest step passes ih =>
    have before := ih (fun ids arrived => plain ids (List.mem_append_left _ arrived)) (one.earlier step)
    by_cases unset : x.guard.outcome = none
    · exact before.passes fresh rest.run step unset (upshot rest step plain one unset)
        (passes.resolve_left (not_not_intro unset))
    · exact before.stays (rest.run.sound fresh) step unset

/-! ## What is answered -/

theorem mem_respondFailure (x : Exchange) (failure : Rejection) : .pageAsked failure ∈ (x.respondFailure failure).log := by
  simp [respondFailure, finishTraced, finish, observe, trace]

/-- The handler of a plain request that returns without having composed a head asks for the answer to a failure. -/
theorem Ordinary.asksPage (h : x.Ordinary) (hy : x.stepHandler now = some y) (headless : x.handler.head? = none)
    (returned : y.handler = .returned) : ∃ g, .pageAsked g ∈ y.log := by
  rcases h.stepHandler_cases hy with ⟨-, dispatched⟩ | ⟨since, phase, next⟩ | ⟨cause, phase, rfl⟩ | next
  · cases dispatched with
    | unsendable => exact ⟨_, mem_respondFailure _ _⟩
    | sent => cases returned
  · cases next with
    | failed => exact ⟨_, mem_respondFailure _ _⟩
    | answered | unanswered | overdue => cases returned
  · exact ⟨_, mem_respondFailure _ _⟩
  · cases next with
    | failed => exact ⟨_, mem_respondFailure _ _⟩
    | composed => cases returned
    | ended phase | relayed phase | headed phase => simp [phase, HandlerPhase.head?] at headless

/-- A failure that is there as the handler returns, without having composed a head, is the one that is answered. -/
theorem Ordinary.answers (h : x.Ordinary) (hs : Step x e y) (handling : x.isHandling)
    (headless : x.handler.head? = none) (returned : y.handler = .returned)
    (failed : y.guard.outcome = some (.failed f)) : y.milestones = [.pageAsked f, y.pageAnswer f] := by
  have other (handler : y.handler = x.handler) : False := by
    simp [isHandling, handler ▸ returned] at handling
  cases hs.turn with
  | aside frame => exact (other frame.handler).elim
  | arrived ids idle => simp [isHandling, idle] at handling
  | deserted =>
    obtain ⟨_, _, _, _, same⟩ := touches_dropHandler x
    rw [same] at returned
    cases returned
  | handler hy =>
    obtain ⟨g, asked⟩ := h.asksPage hy headless returned
    have sound : y.Sound := (h.sound.stepHandler hy).toSound
    -- what is answered is what was recorded
    have handed : g ∈ y.handovers := List.mem_filterMap.2 ⟨_, asked, rfl⟩
    have recorded := sound.endsOnce.recorded g handed
    rw [failed] at recorded
    cases recorded
    exact (sound.standing.paged_of_mem asked).2
  | upload moves => exact (other moves.keeps.handler).elim
  | relay moves => exact (other moves.keeps.handler).elim

/-- A head that is composed goes out, whatever is recorded by then. -/
theorem Sound.unpaged (h : x.Sound) (hs : Step x e y) {head : ResponseHead} (held : x.handler.head? = some head) :
    .pageAsked f ∉ y.log := by
  intro asked
  have before : .pageAsked f ∉ x.log := fun old => by
    rw [(h.standing.paged_of_mem old).1] at held
    cases held
  obtain ⟨-, -, returned, -⟩ := h.page hs before asked
  obtain ⟨now, moved⟩ := hs.observed rfl before asked
  cases stepHandler_cases moved with
  | resolved phase | forwarded phase | failed phase | connected phase => simp [phase, HandlerPhase.head?] at held
  | responded next =>
    cases next with
    | failed phase | composed phase => simp [phase, HandlerPhase.head?] at held
    | ended | relayed => cases returned
    | headed => exact before (by simpa [finishTraced, finish, observe, trace] using asked)

/-! ## A backend that stops reading -/

/-- An upload that finds its reader gone ends without a failure. -/
theorem UploadMoves.of_closed {t : Transfer} (moves : UploadMoves x now y) (ht : x.upload = some t)
    (reader : t.pump.pipe.reader = false) (whole : x.uploadError = none) :
    y.guard = x.guard ∧ y.uploadError = none := by
  cases moves with
  | records error => simp [whole] at error
  | cancels | goesOn => exact ⟨rfl, whole⟩
  | ends upload _ step ended =>
    obtain rfl := Option.some.inj (ht.symm.trans upload)
    cases Pump.move_of_step step with
    | begin => cases ended
    | left =>
      cases ended
      split <;> exact ⟨rfl, whole⟩
    | refused =>
      cases ended
      exact ⟨rfl, whole⟩
    | chunk _ there | trailers _ there | handed _ there | failure there | done _ there | overdue there
    | sent _ there => simp [reader] at there

/-! ## The first failure -/

/-- Whatever happens to a plain request and in whichever order, its failure was found in its run, by an event that `Finds`
it. It is the first that was found, unless that one was pending when another outcome was recorded. A backend that gives
the request body up is no failure. What has failed as the handler returns is what is answered, unless the head of a
response was composed before. -/
theorem Run.fails_first (fresh : start.Fresh) (run : Run start es x)
    (plain : ∀ ids, .arrived ids ∈ es → (start.arrive ids).1.Plain) (one : OneTrailers start es x) :
    (∃ fs, Findings start es x fs)
      ∧ (∀ fs, Findings start es x fs →
          (∀ f, x.guard.failure = some f → f ∈ fs)
            ∧ ∀ f, fs.head? = some f →
                x.guard.failure = some f ∨ (x.guard.outcome = none ∧ x.Pending f) ∨ Preempted start es x f)
      ∧ (∀ y, Step x .backendDroppedBody y → y.guard = x.guard ∧ ∀ f, y.Pending f ↔ x.Pending f)
      ∧ (∀ now t y, x.upload = some t → t.pump.pipe.reader = false → x.uploadError = none →
          Step x (.uploadStepped now) y ∨ Step x (.uploadMoved now) y → y.guard = x.guard ∧ y.uploadError = none)
      ∧ (∀ e y f, x.isHandling → x.handler.head? = none → Step x e y → y.handler = .returned →
          y.guard.failure = some f → y.milestones = [.pageAsked f, y.pageAnswer f])
      ∧ (∀ e y head f, x.handler.head? = some head → Step x e y → .pageAsked f ∉ y.log) := by
  refine ⟨run.exists_findings, fun fs found => ?_, ?_, ?_, ?_, ?_⟩
  · have accounts := found.accounts fresh plain one
    exact ⟨accounts.recorded, accounts.first⟩
  · rintro y ⟨⟩
    rename_i dropped
    obtain ⟨_, _, rfl⟩ := touches_backendDropBody dropped
    exact ⟨rfl, fun f => ⟨fun h => h.congr rfl rfl, fun h => h.congr rfl rfl⟩⟩
  · rintro now t y ht reader whole (⟨⟨⟩⟩ | ⟨⟨⟩⟩)
    · rename_i step
      exact (uploadMoves_of_stepUpload step).of_closed ht reader whole
    · rename_i step
      exact (uploadMoves_of_moveUpload step).of_closed ht reader whole
  · intro e y f handling headless step returned failed
    exact (run.ordinary fresh plain).answers step handling headless returned (Guard.failure_eq_some_iff.1 failed)
  · intro e y head f held step
    exact (run.sound fresh).unpaged step held

/-- Without a relay there is nothing to be limited. -/
theorem oneTrailers_of_no_relay (fresh : start.Fresh) (none : x.relay = none) : OneTrailers start es x := by
  intro response after since
  obtain ⟨t, ht⟩ := since.relays fresh
  have some := ht.relay
  rw [none] at some
  cases some

/-- Such a request is a plain one. -/
theorem plain_brokenUpload (ids : RequestIds) (first : ids = ⟨0⟩) : (brokenUpload.arrive ids).1.Plain := by
  subst first
  have named : (requestedHost? (brokenUpload.arrive ⟨0⟩).1.context (brokenUpload.arrive ⟨0⟩).1.head).isSome = true := by
    decide +kernel
  obtain ⟨host, hosted⟩ := Option.isSome_iff_exists.1 named
  exact ⟨_, _, host, rfl, hosted, by decide +kernel⟩

/-- The body of such a request breaks off, that is recorded, and only then the backend cannot be asked any more: the
request has failed for its body. -/
theorem fails_first_brokenUpload : ∃ es x fs, brokenUpload.Fresh ∧ Run brokenUpload es x
    ∧ (∀ ids, .arrived ids ∈ es → (brokenUpload.arrive ids).1.Plain) ∧ OneTrailers brokenUpload es x
    ∧ Findings brokenUpload es x fs ∧ x.guard.failure = some (.requestBody .pipeAborted)
    ∧ .requestBody .pipeAborted ∈ fs := by
  let es : List Event := brokenUploadRead ++ [.uploadStepped 0, .uploadStepped 0,
    .backendAnswered (.error (.fetch "request body")), .handlerStepped 0]
  have reached : (es.foldlM perform brokenUpload).any (fun x =>
      x.guard.failure = some (.requestBody .pipeAborted) ∧ x.relay.isNone) = true := by decide +kernel
  obtain ⟨x, hx, h⟩ := (Option.any_eq_true _ _).1 reached
  obtain ⟨failed, unrelayed⟩ := of_decide_eq_true h
  have fresh : brokenUpload.Fresh := fresh_towards _ _ _
  have run : Run brokenUpload es x := run_of_perform hx
  have one : OneTrailers brokenUpload es x := oneTrailers_of_no_relay fresh (Option.isNone_iff_eq_none.1 unrelayed)
  have plain : ∀ ids, .arrived ids ∈ es → (brokenUpload.arrive ids).1.Plain := fun ids arrived =>
    plain_brokenUpload ids (by simpa [es, brokenUploadRead] using arrived)
  obtain ⟨⟨fs, found⟩, accounts, -⟩ := Run.fails_first fresh run plain one
  exact ⟨es, x, fs, fresh, run, plain, one, found, failed, (accounts fs found).1 _ failed⟩

/-- The body of such a request breaks off. Before that is recorded the backend fails for it, and the handler records what
became of the backend: the failure that was found first does not count. -/
theorem preempted_brokenUpload : ∃ es x fs, brokenUpload.Fresh ∧ Run brokenUpload es x
    ∧ (∀ ids, .arrived ids ∈ es → (brokenUpload.arrive ids).1.Plain) ∧ OneTrailers brokenUpload es x
    ∧ Findings brokenUpload es x fs ∧ fs.head? = some (.requestBody .pipeAborted)
    ∧ x.guard.failure = some (.backend (.fetch "request body")) ∧ x.Blocked 0 := by
  let after : List Event := [.backendAnswered (.error (.fetch "request body")), .handlerStepped 0, .handlerStepped 0,
    .uploadStepped 0]
  have reached : (brokenUploadRead.foldlM perform brokenUpload).any (fun w => w.guard.outcome = none ∧ w.relay.isNone
      ∧ w.uploadError = none ∧ w.handler.cause? = none ∧ (w.perform (.uploadStepped 0)).any fun v =>
        v.guard.outcome = none ∧ v.relay.isNone ∧ v.uploadError = some .pipeAborted ∧ (after.foldlM perform v).any fun x =>
          x.guard.failure = some (.backend (.fetch "request body")) ∧ x.relay.isNone ∧ (x.step 0).isNone) = true := by
    decide +kernel
  obtain ⟨w, hw, h⟩ := (Option.any_eq_true _ _).1 reached
  obtain ⟨unset, unrelayed, whole, idle, h⟩ := of_decide_eq_true h
  obtain ⟨v, hv, h⟩ := (Option.any_eq_true _ _).1 h
  obtain ⟨unset', unrelayed', broken, h⟩ := of_decide_eq_true h
  obtain ⟨x, hx, h⟩ := (Option.any_eq_true _ _).1 h
  obtain ⟨failed, unrelayed'', blocked⟩ := of_decide_eq_true h
  have fresh : brokenUpload.Fresh := fresh_towards _ _ _
  have one {es : List Event} {z : Exchange} (none : z.relay.isNone) : OneTrailers brokenUpload es z :=
    oneTrailers_of_no_relay fresh (Option.isNone_iff_eq_none.1 none)
  have plain {es : List Event} (only : ∀ ids, .arrived ids ∈ es → ids = ⟨0⟩) :
      ∀ ids, .arrived ids ∈ es → (brokenUpload.arrive ids).1.Plain := fun ids arrived =>
    plain_brokenUpload ids (only ids arrived)
  have run : Run brokenUpload brokenUploadRead w := run_of_perform hw
  have step : Step w (.uploadStepped 0) v := step_of_perform hv
  -- nothing was found before the upload broke off
  have arrived : ∀ ids, .arrived ids ∈ brokenUploadRead → ids = ⟨0⟩ := by simp [brokenUploadRead]
  have unpending : ∀ f, ¬w.Pending f := by
    rintro f (error | phase)
    · simp [whole] at error
    · simp [idle] at phase
  obtain ⟨fs, before⟩ := run.exists_findings
  obtain rfl := (before.accounts fresh (plain arrived) (one unrelayed)).eq_nil fresh unset unpending
  have upshot := (run.ordinary fresh (plain arrived)).upshot unset
    (fun _ _ _ ht => by simp [Option.isNone_iff_eq_none.1 unrelayed] at ht) step
  have finds := upshot.finds_of_pending unset' (.upload broken) (unpending _)
  have later : Run v after x := run_of_perform hx
  obtain ⟨more, found⟩ := (before.found step finds unset).extend later
  refine ⟨_, x, _, fresh, found.run, plain ?_, one unrelayed'', found, rfl, failed, Option.isNone_iff_eq_none.1 blocked⟩
  simp [brokenUploadRead, after]

end Exchange

end Gateway
