import Gateway.Proofs.Run

/-!
# How far an exchange got

The observations that matter for the end of a request are three: the answer to a failure was asked for, the response
head went out, a failure was reported with no head to send. `milestones` is the log reduced to these. In every state an
exchange can get to, handler, guard, relay and milestones are in one of nine standings; `Sound.step` shows that every
event leads from a standing to a standing.

Once the relay is at work the handler still holds the head of the response, so the relay may have come to its end before
the head goes out (`HeadStands`).
-/

namespace Gateway

/-- Whether an observation tells something about the end of the request. -/
def Observation.isMilestone : Observation → Bool
  | pageAsked _ | abandoned _ | answered .. => true
  | _ => false

/-- The failure an observation hands over to whoever answers failures. -/
def Observation.handedOver? : Observation → Option Rejection
  | pageAsked failure | abandoned failure => some failure
  | _ => none

/-- Whether an observation is the handler's alone. -/
def Observation.isHandlers : Observation → Bool
  | traced _ | abandoned _ => false
  | _ => true

/-- Whether a handler in this phase waits for the backend, or has its answer and has passed nothing on. -/
def HandlerPhase.isAsking : HandlerPhase → Bool
  | forwarding _ | failing _ | responding | composed _ => true
  | _ => false

/-- Whether a handler in this phase has passed no response on yet. -/
def HandlerPhase.isOpen : HandlerPhase → Bool
  | heading .. | returned | dropped => false
  | _ => true

/-- Whether a handler in this phase looks for the body of the backend's response. -/
def HandlerPhase.needsResponse : HandlerPhase → Bool
  | responding | composed _ => true
  | _ => false

namespace Exchange

/-- The observations about the end of the request, in order. -/
def milestones (x : Exchange) : List Observation := x.log.filter Observation.isMilestone

/-- The failures that were handed over, in order. -/
def handovers (x : Exchange) : List Rejection := x.log.filterMap Observation.handedOver?

/-- What the client is answered for a failure: the page of the failure, with the fields every response gets. -/
def pageAnswer (x : Exchange) (failure : Rejection) : Observation :=
  let page := x.profile.page failure
  .answered (headWith page (finishHeaders x.profile.idle x.context page.head.headers)) page.body.isEnded
    page.body.exactLength

/-- Whether a relay is at work; `none` where there is no relay. -/
def relaying (x : Exchange) : Option Bool := x.relay.map (·.running)

/-- Where the head of a response is, beside what was reported of its failure. -/
inductive HeadStands (x : Exchange) (body : ClientBody) (reports : List Observation) : Prop where
  /-- the handler holds it -/
  | held {head : ResponseHead} (handler : x.handler = .heading head body) (milestones : x.milestones = reports)
  /-- it went out first -/
  | first {head : ResponseHead} {ended : Bool} {length : Option Nat} (handler : x.handler = .returned)
      (milestones : x.milestones = .answered head ended length :: reports)
  /-- it went out last -/
  | last {head : ResponseHead} {ended : Bool} {length : Option Nat} (handler : x.handler = .returned)
      (milestones : x.milestones = reports ++ [.answered head ended length])

/-- The backend has answered with this head, and its body was not passed on. -/
def HoldsResponse (x : Exchange) (head : ResponseHead) : Prop :=
  x.backendCall = .answered ∧ ∃ response, x.backendAnswer = some (.ok response) ∧ response.head = head

/-- The standings of an exchange. -/
inductive Standing (x : Exchange) : Prop where
  /-- nothing was asked of the backend, or a websocket was -/
  | waiting (handler : x.handler = .idle ∨ x.handler = .resolving ∨ ∃ key, x.handler = .connecting key)
      (guard : x.guard = .unset) (upload : x.upload = none) (error : x.uploadError = none) (relay : x.relaying = none)
      (milestones : x.milestones = [])
  /-- the backend was asked; the upload may have failed -/
  | asking (handler : x.handler.isAsking = true) (guard : x.guard.outcome ≠ some .completed)
      (relay : x.relaying = none) (milestones : x.milestones = [])
  /-- the answer to a failure went out -/
  | paged {failure : Rejection} (handler : x.handler = .returned) (guard : x.guard.outcome = some (.failed failure))
      (relay : x.relaying = none) (milestones : x.milestones = [.pageAsked failure, x.pageAnswer failure])
  /-- the relay is at work; the upload may have failed -/
  | streaming (head : x.HeadStands .relayed []) (guard : x.guard.outcome ≠ some .completed)
      (relay : x.relaying = some true)
  /-- the request ended well -/
  | finished {body : ClientBody} (head : x.HeadStands body []) (guard : x.guard.outcome = some .completed)
      (relay : x.relaying ≠ some true)
  /-- the relay reported the failure -/
  | brokenOff {failure : Rejection} (head : x.HeadStands .relayed [.abandoned failure])
      (guard : x.guard.outcome = some (.failed failure)) (relay : x.relaying = some false)
  /-- the body was over, but a failure was recorded between the handler's last look and the end of the request -/
  | overtaken {failure : Rejection} (head : x.HeadStands (.direct .empty) [])
      (bodiless : ∀ head ended length, .answered head ended length ∈ x.log → ended = true ∧ length = some 0)
      (guard : x.guard.outcome = some (.failed failure)) (relay : x.relaying = none)
      (ended : .traced (.responseEnded 0) ∈ x.log)
  /-- the client left before the head went out -/
  | deserted {failure : Rejection} (handler : x.handler = .dropped) (guard : x.guard.outcome = some (.failed failure))
      (relay : x.relaying = none) (milestones : x.milestones = [.abandoned failure])
  /-- no websocket could be had; the client got a response of the gateway's own -/
  | socketless {cause : Cause} (handler : x.handler = .returned)
      (guard : x.guard.outcome = some (.failed (.backend cause))) (relay : x.relaying = none)
      (failed : .traced (.socketFailed cause) ∈ x.log)
      (milestones : x.milestones = [.answered (headWith (.bodiless .badGateway)
        (failedSocketHeaders x.profile.idle x.context)) true (some 0)])

/-- What holds of an exchange in every state it can get to. -/
structure Sound (x : Exchange) : Prop where
  standing : x.Standing
  /-- whoever waits for a failure is signalled as soon as there is one -/
  signalled : x.guard.WellSignalled
  /-- the end of the response is traced only for a request that ended well -/
  answerEnded : .traced .answerEnded ∈ x.log → x.guard.outcome = some .completed
  /-- a handler that looks for the body of the response finds it -/
  holds : x.handler.needsResponse = true → ∃ head, x.HoldsResponse head
  /-- the client has no body before the handler has returned one -/
  unclaimed : x.handler = .returned ∨ x.clientBody = none

variable {x y : Exchange}

/-! ## Milestones of an operation -/

@[simp] theorem milestones_trace (x : Exchange) (e : TraceEvent) : (x.trace e).milestones = x.milestones := by
  simp [milestones, trace, observe, Observation.isMilestone]

@[simp] theorem milestones_observe_pageAsked (x : Exchange) (f : Rejection) :
    (x.observe (.pageAsked f)).milestones = x.milestones ++ [.pageAsked f] := by
  simp [milestones, observe, Observation.isMilestone]

@[simp] theorem milestones_observe_abandoned (x : Exchange) (f : Rejection) :
    (x.observe (.abandoned f)).milestones = x.milestones ++ [.abandoned f] := by
  simp [milestones, observe, Observation.isMilestone]

@[simp] theorem milestones_observe_answered (x : Exchange) (head : ResponseHead) (ended : Bool) (length : Option Nat) :
    (x.observe (.answered head ended length)).milestones = x.milestones ++ [.answered head ended length] := by
  simp [milestones, observe, Observation.isMilestone]

/-- A failure is handed over by a milestone. -/
theorem handovers_eq_milestones (x : Exchange) : x.handovers = x.milestones.filterMap Observation.handedOver? := by
  unfold handovers milestones
  rw [List.filterMap_filter]
  congr 1
  funext o
  cases o <;> rfl

/-! ## Events that change no standing -/

/-- Whatever else differs, the second exchange stands where the first one does. -/
structure Frame (x y : Exchange) : Prop where
  profile : y.profile = x.profile
  context : y.context = x.context
  handler : y.handler = x.handler
  guard : y.guard = x.guard
  upload : x.upload = none → y.upload = none
  error : x.upload = none → x.uploadError = none → y.uploadError = none
  holds : ∀ head, x.HoldsResponse head → y.HoldsResponse head
  unclaimed : x.clientBody = none → y.clientBody = none
  relaying : y.relaying = x.relaying
  milestones : y.milestones = x.milestones
  log : ∀ o, o ∈ x.log → o ∈ y.log
  /-- nothing is added but trace events, and not the end of the response -/
  news : ∀ o, o ∈ y.log → o ∈ x.log ∨ ∃ e, o = .traced e ∧ e ≠ .answerEnded

/-- Where nothing is added to the log. -/
theorem Frame.unlogged (profile : y.profile = x.profile) (context : y.context = x.context)
    (handler : y.handler = x.handler) (guard : y.guard = x.guard) (upload : x.upload = none → y.upload = none)
    (error : x.upload = none → x.uploadError = none → y.uploadError = none)
    (holds : ∀ head, x.HoldsResponse head → y.HoldsResponse head)
    (unclaimed : x.clientBody = none → y.clientBody = none) (relaying : y.relaying = x.relaying) (log : y.log = x.log) :
    Frame x y where
  profile := profile
  context := context
  handler := handler
  guard := guard
  upload := upload
  error := error
  holds := holds
  unclaimed := unclaimed
  relaying := relaying
  milestones := by rw [Exchange.milestones, log]; rfl
  log := fun _ h => log ▸ h
  news := fun _ h => .inl (log ▸ h)

/-- Where nothing changes that a standing looks at. -/
theorem Frame.of_eq (profile : y.profile = x.profile) (context : y.context = x.context) (handler : y.handler = x.handler)
    (guard : y.guard = x.guard) (upload : y.upload = x.upload) (error : y.uploadError = x.uploadError)
    (call : y.backendCall = x.backendCall) (answer : y.backendAnswer = x.backendAnswer)
    (body : y.clientBody = x.clientBody) (relaying : y.relaying = x.relaying) (log : y.log = x.log) : Frame x y :=
  .unlogged profile context handler guard upload.trans (fun _ => error.trans)
    (fun _ held => ⟨call.trans held.1, by simpa only [answer] using held.2⟩) body.trans relaying log

theorem Frame.answerEnded (f : Frame x y) (h : .traced .answerEnded ∈ y.log) : .traced .answerEnded ∈ x.log := by
  rcases f.news _ h with hx | ⟨e, he, hn⟩
  · exact hx
  · cases he
    exact absurd rfl hn

/-- A handler that has passed a response on is not open any more. -/
theorem HeadStands.isOpen_eq_false {body : ClientBody} {reports : List Observation} (h : x.HeadStands body reports) :
    x.handler.isOpen = false := by
  cases h with
  | held handler | first handler | last handler => rw [handler, HandlerPhase.isOpen]

/-- A handler that holds the head holds the body that goes to the client. -/
theorem HeadStands.of_heading {body body' : ClientBody} {reports : List Observation} (h : x.HeadStands body' reports)
    {head : ResponseHead} (phase : x.handler = .heading head body) : body = body' ∧ x.milestones = reports := by
  cases h with
  | held handler milestones =>
    rw [phase] at handler
    cases handler
    exact ⟨rfl, milestones⟩
  | first handler | last handler =>
    rw [phase] at handler
    cases handler

/-- A report comes behind the head if that is out. -/
theorem HeadStands.report {body : ClientBody} {o : Observation} (h : x.HeadStands body [])
    (handler : y.handler = x.handler) (milestones : y.milestones = x.milestones ++ [o]) : y.HeadStands body [o] := by
  cases h with
  | held phase told => exact .held (handler.trans phase) (by rw [milestones, told]; rfl)
  | first phase told | last phase told => exact .first (handler.trans phase) (by rw [milestones, told]; rfl)

theorem HeadStands.congr {body : ClientBody} {reports : List Observation} (h : x.HeadStands body reports)
    (handler : y.handler = x.handler) (milestones : y.milestones = x.milestones) : y.HeadStands body reports := by
  cases h with
  | held phase told => exact .held (handler.trans phase) (milestones.trans told)
  | first phase told => exact .first (handler.trans phase) (milestones.trans told)
  | last phase told => exact .last (handler.trans phase) (milestones.trans told)

theorem Frame.standing (f : Frame x y) (h : x.Standing) : y.Standing := by
  have hp : y.pageAnswer = x.pageAnswer := by
    funext failure
    simp only [pageAnswer, f.profile, f.context]
  cases h with
  | waiting handler guard upload error relay milestones =>
    exact .waiting (by simpa only [f.handler] using handler) (by rw [f.guard, guard]) (f.upload upload)
      (f.error upload error) (by rw [f.relaying, relay]) (by rw [f.milestones, milestones])
  | asking handler guard relay milestones =>
    exact .asking (by rw [f.handler, handler]) (by rwa [f.guard]) (by rw [f.relaying, relay])
      (by rw [f.milestones, milestones])
  | paged handler guard relay milestones =>
    exact .paged (by rw [f.handler, handler]) (by rw [f.guard, guard]) (by rw [f.relaying, relay])
      (by rw [f.milestones, milestones, hp])
  | streaming head guard relay =>
    exact .streaming (head.congr f.handler f.milestones) (by rwa [f.guard]) (by rw [f.relaying, relay])
  | finished head guard relay =>
    exact .finished (head.congr f.handler f.milestones) (by rw [f.guard, guard]) (by rwa [f.relaying])
  | brokenOff head guard relay =>
    exact .brokenOff (head.congr f.handler f.milestones) (by rw [f.guard, guard]) (by rw [f.relaying, relay])
  | overtaken head bodiless guard relay ended =>
    refine .overtaken (head.congr f.handler f.milestones) (fun head ended length answered => ?_)
      (by rw [f.guard, guard]) (by rw [f.relaying, relay]) (f.log _ ended)
    rcases f.news _ answered with before | ⟨e, traced, -⟩
    · exact bodiless head ended length before
    · cases traced
  | deserted handler guard relay milestones =>
    exact .deserted (by rw [f.handler, handler]) (by rw [f.guard, guard]) (by rw [f.relaying, relay])
      (by rw [f.milestones, milestones])
  | socketless handler guard relay failed milestones =>
    exact .socketless (by rw [f.handler, handler]) (by rw [f.guard, guard]) (by rw [f.relaying, relay])
      (f.log _ failed) (by rw [f.milestones, milestones, f.profile, f.context])

theorem Frame.sound (f : Frame x y) (h : x.Sound) : y.Sound where
  standing := f.standing h.standing
  signalled := by rw [f.guard]; exact h.signalled
  answerEnded := fun ha => by rw [f.guard, h.answerEnded (f.answerEnded ha)]
  holds := fun needs => (h.holds (by rwa [f.handler] at needs)).imp f.holds
  unclaimed := by
    rw [f.handler]
    exact h.unclaimed.imp_right f.unclaimed

end Exchange

end Gateway
