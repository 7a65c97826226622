import Gateway.Exchange.Handler

/-!
# Upload, relay and tunnel

The upload moves the client's body to the backend, the relay moves the backend's body to the client. Each looks at the
guard first: once a failure is recorded, it gives its body up and lets its reader see that something is missing. The
relay owns the outcome of the request from the moment it begins.

A look at the guard may be out of date by the time the transfer moves. So the moves of a transfer (`moveUpload`,
`moveRelay`) are there on their own, beside the steps that look first.
-/

namespace Gateway

namespace Transfer

/-- Stops a transfer: its body is given up and its reader sees a failure. -/
def cancel (t : Transfer) : Transfer where
  pump := { t.pump with source := t.pump.source.release, pipe := t.pump.pipe.abort }
  running := false

/-- Ends a transfer whose reader got everything, or left. -/
def close (t : Transfer) : Transfer where
  pump := { t.pump with pipe := t.pump.pipe.closeWriter }
  running := false

end Transfer

namespace Exchange

/-! ## Upload -/

/-- Breaks the upload off. The backend sees that at once; the failure is still to be recorded. -/
def breakUpload (x : Exchange) (t : Transfer) (cause : Cause) : Exchange :=
  { x with upload := some t.cancel, uploadError := some cause }.trace (.requestFailed cause)

/-- Ends the upload as its pump ended. A backend that stops reading is no failure: its response decides. -/
def endUpload (x : Exchange) (t : Transfer) : PumpResult → Exchange
  | .moved bytes => { x with upload := some t.close, bodyComplete := true }.trace (.requestEnded bytes)
  | .sinkClosed => { x with upload := some t.close }
  | .sourceFailed cause => x.breakUpload t cause
  | .timedOut limit => x.breakUpload t (.receiveTimeout limit)

/-- Records what broke the upload off. -/
def recordUpload (x : Exchange) (cause : Cause) : Exchange := { x with uploadError := none }.fail (.requestBody cause)

/-- The next step of a running transfer: its new state, and how its pump ended if it did. -/
def stepTransfer (t : Transfer) (now : Nat) : Option (Transfer × Option PumpResult) :=
  (t.pump.step now).map fun pump => ({ t with pump }, pump.result?)

theorem stepTransfer_eq_some_iff {t u : Transfer} {now : Nat} {result : Option PumpResult} :
    stepTransfer t now = some (u, result)
      ↔ ∃ pump, t.pump.step now = some pump ∧ u = { t with pump } ∧ result = pump.result? := by
  simp only [stepTransfer, Option.map_eq_some_iff, Prod.mk.injEq]
  constructor <;> rintro ⟨pump, hp, hu, hr⟩ <;> exact ⟨pump, hp, hu.symm, hr.symm⟩

/-- The transfer that is at work, if one is. -/
def atWork? (transfer : Option Transfer) : Option Transfer := transfer.filter (·.running)

theorem atWork?_eq_some_iff {transfer : Option Transfer} {t : Transfer} :
    atWork? transfer = some t ↔ transfer = some t ∧ t.running = true :=
  Option.filter_eq_some_iff

/-- The upload moves, whatever the guard shows by now. -/
def moveUpload (x : Exchange) (now : Nat) : Option Exchange :=
  match (atWork? x.upload).bind (stepTransfer · now) with
  | none => none
  | some (t, none) => some { x with upload := some t }
  | some (t, some result) => some (x.endUpload t result)

/-- The upload gives up once a failure is recorded. -/
def cancelUpload (x : Exchange) : Option Exchange :=
  match atWork? x.upload, x.guard.awaitFailure with
  | some t, some _ => some { x with upload := some t.cancel }
  | _, _ => none

/-- The next step of the upload, `none` if it must wait or is over. -/
def stepUpload (x : Exchange) (now : Nat) : Option Exchange :=
  x.uploadError.map x.recordUpload <|> x.cancelUpload <|> x.moveUpload now

/-! ## Relay -/

/-- Reports the recorded failure after the head of the response was returned. -/
def abandon (x : Exchange) : Exchange :=
  match x.guard.failure with
  | some failure => (x.trace (.answerFailed failure)).observe (.abandoned failure)
  | none => x

/-- Ends the relay with a failure. -/
def failRelay (x : Exchange) (t : Transfer) (failure : Rejection) : Exchange :=
  { x.fail failure with relay := some t.cancel }.abandon

/-- Ends the relay as its pump ended. -/
def endRelay (x : Exchange) (t : Transfer) : PumpResult → Exchange
  | .moved bytes =>
    let x := x.trace (.responseEnded bytes)
    if x.guard.isTerminated then { x with relay := some t.cancel }.abandon
    else { x.complete with relay := some t.close }.trace .answerEnded
  | .sinkClosed => (x.trace .clientLeft).failRelay t .clientLeft
  | .sourceFailed cause => (x.trace (.responseFailed cause)).failRelay t (.responseBody cause)
  | .timedOut limit =>
    (x.trace (.responseFailed (.receiveTimeout limit))).failRelay t (.responseBody (.receiveTimeout limit))

/-- The relay moves, whatever the guard shows by now. -/
def moveRelay (x : Exchange) (now : Nat) : Option Exchange :=
  match (atWork? x.relay).bind (stepTransfer · now) with
  | none => none
  | some (t, none) => some { x with relay := some t }
  | some (t, some result) => some (x.endRelay t result)

/-- The relay gives up once a failure is recorded, and reports it. -/
def cancelRelay (x : Exchange) : Option Exchange :=
  match atWork? x.relay, x.guard.awaitFailure with
  | some t, some _ => some { x with relay := some t.cancel }.abandon
  | _, _ => none

/-- The next step of the relay, `none` if it must wait or is over. -/
def stepRelay (x : Exchange) (now : Nat) : Option Exchange := x.cancelRelay <|> x.moveRelay now

/-! ## What a step can do -/

/-- What the upload can do next. It moves also where a failure was recorded after its look at the guard. -/
inductive UploadMoves (x : Exchange) (now : Nat) : Exchange → Prop where
  /-- what broke it off is recorded -/
  | records {cause : Cause} (error : x.uploadError = some cause) : UploadMoves x now (x.recordUpload cause)
  /-- it gives up after a failure -/
  | cancels {t : Transfer} {failure : Rejection} (upload : x.upload = some t) (running : t.running = true)
      (recorded : x.guard.awaitFailure = some failure) : UploadMoves x now { x with upload := some t.cancel }
  | goesOn {t : Transfer} {pump : Pump} (upload : x.upload = some t) (running : t.running = true)
      (step : t.pump.step now = some pump) (unfinished : pump.result? = none) :
      UploadMoves x now { x with upload := some { t with pump } }
  /-- it ends as its pump does -/
  | ends {t : Transfer} {pump : Pump} {result : PumpResult} (upload : x.upload = some t) (running : t.running = true)
      (step : t.pump.step now = some pump) (finished : pump.result? = some result) :
      UploadMoves x now (x.endUpload { t with pump } result)

/-- What the relay can do next. It moves also where a failure was recorded after its look at the guard. -/
inductive RelayMoves (x : Exchange) (now : Nat) : Exchange → Prop where
  /-- it gives up after a failure, and reports that -/
  | cancels {t : Transfer} {failure : Rejection} (relay : x.relay = some t) (running : t.running = true)
      (recorded : x.guard.awaitFailure = some failure) : RelayMoves x now (abandon { x with relay := some t.cancel })
  | goesOn {t : Transfer} {pump : Pump} (relay : x.relay = some t) (running : t.running = true)
      (step : t.pump.step now = some pump) (unfinished : pump.result? = none) :
      RelayMoves x now { x with relay := some { t with pump } }
  /-- it ends as its pump does -/
  | ends {t : Transfer} {pump : Pump} {result : PumpResult} (relay : x.relay = some t) (running : t.running = true)
      (step : t.pump.step now = some pump) (finished : pump.result? = some result) :
      RelayMoves x now (x.endRelay { t with pump } result)

variable {x y : Exchange} {now : Nat}

theorem bind_stepTransfer_eq_some {transfer : Option Transfer} {u : Transfer} {result : Option PumpResult}
    (h : (atWork? transfer).bind (stepTransfer · now) = some (u, result)) :
    ∃ t pump, transfer = some t ∧ t.running = true ∧ t.pump.step now = some pump ∧ u = { t with pump }
      ∧ pump.result? = result := by
  obtain ⟨t, atWork, moves⟩ := Option.bind_eq_some_iff.1 h
  obtain ⟨there, running⟩ := atWork?_eq_some_iff.1 atWork
  obtain ⟨pump, step, rfl, rfl⟩ := stepTransfer_eq_some_iff.1 moves
  exact ⟨t, pump, there, running, step, rfl, rfl⟩

theorem uploadMoves_of_moveUpload (h : x.moveUpload now = some y) : UploadMoves x now y := by
  unfold moveUpload at h
  split at h
  · cases h
  · rename_i moves
    obtain ⟨t, pump, upload, running, step, rfl, unfinished⟩ := bind_stepTransfer_eq_some moves
    cases h
    exact .goesOn upload running step unfinished
  · rename_i moves
    obtain ⟨t, pump, upload, running, step, rfl, finished⟩ := bind_stepTransfer_eq_some moves
    cases h
    exact .ends upload running step finished

theorem uploadMoves_of_stepUpload (h : x.stepUpload now = some y) : UploadMoves x now y := by
  simp only [stepUpload, Option.orElse_eq_orElse, Option.orElse_eq_or, Option.or_eq_some_iff, Option.map_eq_some_iff] at h
  rcases h with ⟨cause, error, rfl⟩ | ⟨-, h | ⟨-, h⟩⟩
  · exact .records error
  · unfold cancelUpload at h
    split at h
    · rename_i t failure atWork recorded
      cases h
      obtain ⟨upload, running⟩ := atWork?_eq_some_iff.1 atWork
      exact .cancels upload running recorded
    · cases h
  · exact uploadMoves_of_moveUpload h

theorem relayMoves_of_moveRelay (h : x.moveRelay now = some y) : RelayMoves x now y := by
  unfold moveRelay at h
  split at h
  · cases h
  · rename_i moves
    obtain ⟨t, pump, relay, running, step, rfl, unfinished⟩ := bind_stepTransfer_eq_some moves
    cases h
    exact .goesOn relay running step unfinished
  · rename_i moves
    obtain ⟨t, pump, relay, running, step, rfl, finished⟩ := bind_stepTransfer_eq_some moves
    cases h
    exact .ends relay running step finished

theorem relayMoves_of_stepRelay (h : x.stepRelay now = some y) : RelayMoves x now y := by
  simp only [stepRelay, Option.orElse_eq_orElse, Option.orElse_eq_or, Option.or_eq_some_iff] at h
  rcases h with h | ⟨-, h⟩
  · unfold cancelRelay at h
    split at h
    · rename_i t failure atWork recorded
      cases h
      obtain ⟨relay, running⟩ := atWork?_eq_some_iff.1 atWork
      exact .cancels relay running recorded
    · cases h
  · exact relayMoves_of_moveRelay h

/-- A relay at work moves with its pump. -/
theorem moveRelay_of_step {t : Transfer} (ht : x.relay = some t) (running : t.running = true) {pump : Pump}
    (step : t.pump.step now = some pump) :
    x.moveRelay now = some (match pump.result? with
      | none => { x with relay := some { t with pump } }
      | some result => x.endRelay { t with pump } result) := by
  have atWork : atWork? x.relay = some t := atWork?_eq_some_iff.2 ⟨ht, running⟩
  simp only [moveRelay, atWork, Option.bind_some, stepTransfer, step, Option.map_some]
  cases pump.result? <;> rfl

/-- Where a failure is recorded, neither transfer waits. -/
theorem not_running_of_blocked {failure : Rejection} (recorded : x.guard.awaitFailure = some failure) {t : Transfer} :
    (x.stepUpload now = none → x.upload = some t → t.running = false)
      ∧ (x.stepRelay now = none → x.relay = some t → t.running = false) := by
  constructor <;> intro blocked there <;> cases running : t.running with
    | false => rfl
    | true =>
      have atWork := atWork?_eq_some_iff.2 ⟨there, running⟩
      simp [stepUpload, cancelUpload, stepRelay, cancelRelay, atWork, recorded] at blocked

/-! ## What a step touches -/

theorem touches_abandon (x : Exchange) : ∃ log, x.abandon = { x with log } := by
  unfold abandon
  split <;> exact ⟨_, rfl⟩

theorem touches_endUpload (x : Exchange) (t : Transfer) (result : PumpResult) : ∃ upload uploadError bodyComplete log,
    x.endUpload t result = { x with upload, uploadError, bodyComplete, log } := by
  cases result <;> exact ⟨_, _, _, _, rfl⟩

theorem UploadMoves.touches (h : UploadMoves x now y) : ∃ upload uploadError bodyComplete guard log,
    y = { x with upload, uploadError, bodyComplete, guard, log } := by
  cases h with
  | records | cancels | goesOn => exact ⟨_, _, _, _, _, rfl⟩
  | ends =>
    obtain ⟨_, _, _, _, same⟩ := touches_endUpload x _ _
    exact ⟨_, _, _, _, _, same⟩

theorem touches_failRelay (x : Exchange) (t : Transfer) (failure : Rejection) : ∃ relay guard log,
    x.failRelay t failure = { x with relay, guard, log } := by
  obtain ⟨log, h⟩ := touches_abandon { x.fail failure with relay := some t.cancel }
  exact ⟨_, _, log, h⟩

theorem touches_endRelay (x : Exchange) (t : Transfer) (result : PumpResult) : ∃ relay guard log,
    x.endRelay t result = { x with relay, guard, log } := by
  cases result with
  | moved bytes =>
    unfold endRelay
    dsimp only
    split
    · obtain ⟨log, h⟩ := touches_abandon { x.trace (.responseEnded bytes) with relay := some t.cancel }
      exact ⟨_, _, log, h⟩
    · exact ⟨_, _, _, rfl⟩
  | sinkClosed | sourceFailed cause | timedOut limit => exact touches_failRelay (x.trace _) t _

theorem RelayMoves.touches (h : RelayMoves x now y) : ∃ relay guard log, y = { x with relay, guard, log } := by
  cases h with
  | @cancels t =>
    obtain ⟨log, h⟩ := touches_abandon { x with relay := some t.cancel }
    exact ⟨_, _, log, h⟩
  | goesOn => exact ⟨_, _, _, rfl⟩
  | ends => exact touches_endRelay x _ _

/-! ## Tunnel -/

/-- The next step of the tunnel: it opens once the client's connection is there. -/
def stepTunnel (x : Exchange) : Option Exchange :=
  match x.tunnel, x.takeover with
  | .accepted, some (.ok ()) => some ({ x with tunnel := .opened }.trace .tunnelOpened)
  | .accepted, some (.error detail) =>
    some ({ x with tunnel := .over }.trace (.tunnelFailed (.clientUpgrade detail)))
  | _, _ => none

/-- Ends an open tunnel as the relay of its messages ended. -/
def endTunnel (x : Exchange) (result : Except Cause Unit) : Exchange :=
  match x.tunnel with
  | .opened =>
    { x with tunnel := .over }.trace (match result with
      | .ok () => .tunnelClosed
      | .error cause => .tunnelFailed cause)
  | _ => x

theorem touches_stepTunnel {x y : Exchange} (h : x.stepTunnel = some y) : ∃ tunnel log, y = { x with tunnel, log } := by
  unfold stepTunnel at h
  split at h
  · cases h
    exact ⟨_, _, rfl⟩
  · cases h
    exact ⟨_, _, rfl⟩
  · cases h

theorem touches_endTunnel (x : Exchange) (result : Except Cause Unit) : ∃ tunnel log,
    x.endTunnel result = { x with tunnel, log } := by
  unfold endTunnel
  split <;> exact ⟨_, _, rfl⟩

/-! ## All parts together -/

/-- The next step of an exchange: of the handler if it can make one, else of the upload, else of the relay, else of the
tunnel. -/
def step (x : Exchange) (now : Nat) : Option Exchange :=
  x.stepHandler now <|> x.stepUpload now <|> x.stepRelay now <|> x.stepTunnel

/-- At most `fuel` steps. -/
def runFor : Nat → Nat → Exchange → Exchange
  | 0, _, x => x
  | fuel + 1, now, x =>
    match x.step now with
    | some x => runFor fuel now x
    | none => x

/-- An upper bound of the steps of a transfer. -/
def transferPotential : Option Transfer → Nat
  | some t => if t.running then t.pump.potential + 2 else 0
  | none => 0

/-- An upper bound of the steps a body makes possible. -/
def bodyPotential (body : Body) : Nat := 2 * body.size + 4

/-- An upper bound of the steps that can be made before something outside changes. -/
def potential (x : Exchange) : Nat :=
  12 + transferPotential x.upload + transferPotential x.relay
    + (match x.inbound with
      | .buffered _ => 0
      | .streamed body => bodyPotential body)
    + (match x.backendAnswer with
      | some (.ok response) => bodyPotential response.body
      | _ => 0)

/-- Steps until every part must wait or is over. -/
def run (x : Exchange) (now : Nat) : Exchange := runFor x.potential now x

end Exchange

end Gateway
