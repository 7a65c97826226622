import Gateway.Proofs.Delivery.Pump
import Gateway.Proofs.Handling
import Gateway.Proofs.Run

/-!
# An exchange comes to rest

What an exchange can do by itself before something outside changes is bounded: its `rank` falls with every step, and is
at first not above the number of steps the engine allows. So after the engine has let everything go on, no part can move
(`blocked_run`), and to let it go on once more changes nothing (`run_of_blocked`).
-/

namespace Gateway

/-! ## Bodies and pumps -/

namespace Body

variable {b rest : Body} {item : Item}

/-- The items there are to be read, its end apart where nothing else is there. -/
def left : Body → Nat
  | whole rest => if rest.isSome then 1 else 0
  | arriving source => source.items.length

theorem left_le_size (b : Body) : b.left ≤ b.size := by
  cases b with
  | whole rest => cases rest <;> simp [left, size]
  | arriving source => exact Nat.le_succ _

@[simp] theorem left_release (b : Body) : b.release.left = b.left := by
  cases b <;> rfl

theorem left_read (h : b.read = (some item, rest)) (more : item.isMore = true) : rest.left < b.left := by
  cases b with
  | whole bytes =>
    cases bytes with
    | none =>
      cases h
      cases more
    | some bytes =>
      cases h
      exact Nat.one_pos
  | arriving source =>
    simp only [read, Source.read] at h
    split at h
    · cases h
      cases more
    · split at h
      · cases h
      · cases h
        cases more
      · rename_i items
        cases h
        simp [left, items]

end Body

namespace Pump

variable {p q : Pump} {now : Nat}

/-- The steps a pump may make while nothing arrives and nothing is read. -/
def rank (p : Pump) : Nat :=
  match p.phase with
  | .created | .holding _ | .handing _ => 2 * p.source.left + 2
  | .waiting _ => 2 * p.source.left + 1
  | .finished _ => 0

theorem rank_le_potential (p : Pump) : p.rank ≤ p.potential := by
  have size := p.source.left_le_size
  cases phase : p.phase <;> simp only [rank, potential, phase] <;> omega

theorem rank_step (h : p.step now = some q) : q.rank < p.rank := by
  have rank_finish (p : Pump) (result : PumpResult) : (p.finish result).rank = 0 := rfl
  cases move_of_step h with
  | begin phase => simp [rank, phase]
  | left _ begun =>
    rw [finishClosed, rank_finish]
    unfold rank
    split
    · exact Nat.succ_pos _
    · exact Nat.succ_pos _
    · exact Nat.succ_pos _
    · exact Nat.succ_pos _
    · rename_i ended
      simp [step, ended] at h
  | chunk phase _ read | trailers phase _ read =>
    have fewer := Body.left_read read rfl
    simp only [rank, phase]
    omega
  | refused phase | failure _ _ phase | done phase | overdue _ phase =>
    rw [rank_finish]
    simp [rank, phase]
  | sent phase | handed phase => simp [rank, phase]

end Pump

/-! ## Parts of an exchange -/

def HandlerPhase.rank : HandlerPhase → Nat
  | resolving => 5
  | forwarding _ => 4
  | responding => 3
  | connecting _ | composed _ => 2
  | failing _ | heading .. => 1
  | idle | returned | dropped => 0

def TunnelPhase.rank : TunnelPhase → Nat
  | .accepted => 1
  | .absent | .opened | .over => 0

def Transfer.rank (t : Transfer) : Nat := if t.running then t.pump.rank + 2 else 0

/-- A body that may become the source of a transfer. -/
def InboundBody.rank : InboundBody → Nat
  | buffered _ => 0
  | streamed body => 2 * body.left + 4

@[simp] theorem InboundBody.rank_release (b : InboundBody) : b.release.rank = b.rank := by
  cases b with
  | buffered bytes => rfl
  | streamed body => simp [release, rank]

namespace Exchange

variable {x y : Exchange} {now : Nat}

/-- A response whose body may become the source of the relay. -/
def answerRank : Option (Except Cause Response) → Nat
  | some (.ok response) => 2 * response.body.left + 4
  | _ => 0

def transferRank (t : Option Transfer) : Nat := (t.map Transfer.rank).getD 0

/-- What broke the upload off is still to be recorded. -/
def errorRank : Option Cause → Nat
  | none => 0
  | some _ => 1

/-- The steps the parts beside the handler may make. -/
def carried (x : Exchange) : Nat :=
  x.tunnel.rank + errorRank x.uploadError + transferRank x.upload + transferRank x.relay + x.inbound.rank
    + answerRank x.backendAnswer

/-- The steps an exchange may make before something outside changes. -/
def rank (x : Exchange) : Nat := x.handler.rank + x.carried

theorem transferRank_le_potential (t : Option Transfer) : transferRank t ≤ transferPotential t := by
  cases t with
  | none => exact Nat.le_refl 0
  | some t =>
    have pump := t.pump.rank_le_potential
    simp only [transferRank, transferPotential, Option.map_some, Option.getD_some, Transfer.rank]
    split <;> omega

theorem rank_le_potential (x : Exchange) : x.rank ≤ x.potential := by
  have upload := transferRank_le_potential x.upload
  have relay := transferRank_le_potential x.relay
  have handler : x.handler.rank ≤ 5 := by cases x.handler <;> simp [HandlerPhase.rank]
  have tunnel : x.tunnel.rank ≤ 1 := by cases x.tunnel <;> decide
  have error : errorRank x.uploadError ≤ 1 := by cases x.uploadError <;> simp [errorRank]
  have beside : x.handler.rank + x.tunnel.rank + errorRank x.uploadError ≤ 12 := by omega
  have body (b : Body) : 2 * b.left + 4 ≤ bodyPotential b := by
    have size := b.left_le_size
    unfold bodyPotential
    omega
  have inbound : x.inbound.rank ≤ match x.inbound with
      | .buffered _ => 0
      | .streamed body => bodyPotential body := by
    cases x.inbound with
    | buffered bytes => exact Nat.le_refl 0
    | streamed b => exact body b
  have answer : answerRank x.backendAnswer ≤ match x.backendAnswer with
      | some (.ok response) => bodyPotential response.body
      | _ => 0 := by
    rcases x.backendAnswer with _ | _ | response
    · exact Nat.le_refl 0
    · exact Nat.le_refl 0
    · exact body response.body
  have parts := Nat.add_le_add (Nat.add_le_add (Nat.add_le_add (Nat.add_le_add beside upload) relay) inbound) answer
  refine Nat.le_trans (Nat.le_of_eq ?_) parts
  simp only [rank, carried]
  omega

/-! ## Steps -/

@[simp] theorem transferRank_cancel (t : Transfer) : transferRank (some t.cancel) = 0 := rfl

@[simp] theorem transferRank_close (t : Transfer) : transferRank (some t.close) = 0 := rfl

theorem transferRank_pos {t : Transfer} (running : t.running = true) : 1 < transferRank (some t) := by
  simp [transferRank, Transfer.rank, running]

theorem transferRank_step {t : Transfer} (running : t.running = true) {pump : Pump} (step : t.pump.step now = some pump) :
    transferRank (some { t with pump }) < transferRank (some t) := by
  have pumped := Pump.rank_step step
  simpa [transferRank, Transfer.rank, running] using pumped

theorem rank_uploadMoves (h : UploadMoves x now y) : y.rank < x.rank := by
  cases h with
  | records error =>
    simp only [rank, carried, recordUpload, fail, error, errorRank]
    omega
  | cancels upload running =>
    have moves := transferRank_pos running
    simp only [rank, carried, upload, transferRank_cancel]
    omega
  | goesOn upload running step =>
    have moves := transferRank_step running step
    simp only [rank, carried, upload]
    omega
  | @ends t pump result upload running =>
    have moves := transferRank_pos running
    -- what broke the upload off is one more thing to do
    have ended : (x.endUpload { t with pump } result).rank + transferRank x.upload ≤ x.rank + 1 := by
      cases result <;>
        simp only [endUpload, breakUpload, rank, carried, trace, observe, transferRank_cancel, transferRank_close,
          errorRank] <;> omega
    rw [upload] at ended
    omega

theorem carried_trace (x : Exchange) (e : TraceEvent) : (x.trace e).carried = x.carried := rfl

theorem transferRank_abandon (x : Exchange) :
    x.abandon.rank = x.rank := by
  obtain ⟨_, same⟩ := touches_abandon x
  rw [same]
  rfl

theorem rank_failRelay (x : Exchange) (t : Transfer) (failure : Rejection) :
    (x.failRelay t failure).rank + transferRank x.relay = x.rank := by
  rw [failRelay, transferRank_abandon]
  simp only [rank, carried, fail, transferRank_cancel]
  omega

theorem rank_endRelay (x : Exchange) (t : Transfer) (result : PumpResult) :
    (x.endRelay t result).rank + transferRank x.relay = x.rank := by
  cases result with
  | moved bytes =>
    unfold endRelay
    dsimp only
    split
    · rw [transferRank_abandon]
      simp only [rank, carried, trace, observe, transferRank_cancel]
      omega
    · simp only [rank, carried, trace, observe, complete, transferRank_close]
      omega
  | sinkClosed | sourceFailed cause | timedOut limit => exact rank_failRelay (x.trace _) t _

theorem rank_relayMoves (h : RelayMoves x now y) : y.rank < x.rank := by
  cases h with
  | cancels relay running =>
    have moves := transferRank_pos running
    rw [transferRank_abandon]
    simp only [rank, carried, relay, transferRank_cancel]
    omega
  | goesOn relay running step =>
    have moves := transferRank_step running step
    simp only [rank, carried, relay]
    omega
  | @ends t pump result relay running =>
    have moves := transferRank_pos running
    have ended := rank_endRelay x { t with pump } result
    rw [relay] at ended
    omega

theorem rank_stepTunnel (h : x.stepTunnel = some y) : y.rank < x.rank := by
  unfold stepTunnel at h
  split at h
  · rename_i tunnel _
    cases h
    simp only [rank, carried, trace, observe, tunnel, TunnelPhase.rank]
    omega
  · rename_i tunnel _
    cases h
    simp only [rank, carried, trace, observe, tunnel, TunnelPhase.rank]
    omega
  · cases h

/-! ## The handler -/

/-- Once the handler has returned, only the parts beside it go on. -/
theorem rank_finish (x : Exchange) (head : ResponseHead) (body : ClientBody) : (x.finish head body).rank = x.carried := by
  simp [finish, observe, rank, carried, HandlerPhase.rank]

theorem rank_finishTraced (x : Exchange) (head : ResponseHead) (body : ClientBody) :
    (x.finishTraced head body).rank = x.carried := rank_finish (x.trace _) head body

theorem rank_respondFailure (x : Exchange) (failure : Rejection) : (x.respondFailure failure).rank = x.carried :=
  rank_finishTraced (x.observe (.pageAsked failure)) _ _

theorem rank_reject (x : Exchange) (failure : Rejection) : (x.reject failure).rank = x.carried :=
  rank_respondFailure (x.fail failure) _

theorem rank_failSocket (x : Exchange) (cause : Cause) : (x.failSocket cause).rank = x.carried :=
  rank_finishTraced ((x.trace (.socketFailed cause)).fail (.backend cause)) _ _

/-- An upload takes over no more than was there for it. -/
theorem carried_handOver (x : Exchange) (headers : Headers) : (x.handOver headers).1.carried ≤ x.carried := by
  unfold handOver
  split
  · simp [trace, observe, carried]
  · split
    · exact Nat.le_refl _
    · rename_i body hb
      simp only [carried, hb, transferRank, Option.map_some, Option.getD_some, Transfer.rank, Pump.new, Pump.rank,
        InboundBody.rank, if_true]
      omega

theorem rank_send (x : Exchange) (now : Nat) (head : RequestHead) : (x.send now head).rank = 4 + x.carried := rfl

theorem carried_releaseResponse {response : Response} (answer : x.backendAnswer = some (.ok response)) :
    (x.releaseResponse response).carried = x.carried := by
  simp [releaseResponse, carried, answer, answerRank]

theorem rank_passEnded (head : ResponseHead) {response : Response} (answer : x.backendAnswer = some (.ok response)) :
    (x.passEnded head response).rank = 1 + x.carried := by
  unfold passEnded
  dsimp only
  split <;>
    simp [releaseResponse, rank, HandlerPhase.rank, carried, trace, observe, complete, answer, answerRank]

/-- The relay takes over no more than was there for it. -/
theorem rank_passRelayed (head : ResponseHead) {response : Response} (answer : x.backendAnswer = some (.ok response)) :
    (x.passRelayed head response).rank ≤ 1 + x.carried := by
  simp only [passRelayed, rank, HandlerPhase.rank, carried, answer, answerRank, transferRank, Option.map_some,
    Option.getD_some, Transfer.rank, Pump.new, Pump.rank, if_true]
  omega

theorem rank_of_resolves {hop : Except Rejection NextHop} (next : Resolves x now hop y) : y.rank ≤ 4 + x.carried := by
  cases next with
  | refused failure => rw [rank_reject]; omega
  | answered response => rw [rank_finish]; exact Nat.le_add_left _ _
  | hostless target | keyless target => rw [rank_reject, carried_trace]; omega
  | socketFailed target => rw [rank_failSocket, carried_trace]; omega
  | socketAsked target =>
    show 2 + x.carried ≤ 4 + x.carried
    omega
  | unsendable target => rw [failForward, rank_reject, carried_trace, carried_trace]; omega
  | @sent target _ _ headers =>
    have handed := carried_handOver (x.trace (.hopResolved target)) headers
    rw [carried_trace] at handed
    rw [rank_send]
    omega

theorem rank_of_forwards {since : Nat} (next : Forwards x now since y) : y.rank ≤ 3 + x.carried := by
  cases next with
  | failed => rw [rank_respondFailure]; exact Nat.le_add_left _ _
  | answered => exact Nat.le_refl _
  | unanswered | overdue =>
    show 1 + x.carried ≤ 3 + x.carried
    omega

theorem rank_of_responds (next : Responds x y) : y.rank < x.rank := by
  cases next with
  | failed phase answer =>
    rw [rank_respondFailure, carried_releaseResponse answer]
    simp [rank, phase, HandlerPhase.rank]
  | @composed response phase =>
    obtain ⟨log, same⟩ := touches_traceResponse x response
    rw [same]
    simp [rank, phase, HandlerPhase.rank, carried]
  | @ended head response phase answer =>
    rw [rank_passEnded head answer]
    simp [rank, phase, HandlerPhase.rank]
  | @relayed head response phase answer =>
    have went := rank_passRelayed head answer
    have stood : x.rank = 2 + x.carried := by rw [rank, phase]; rfl
    omega
  | headed phase =>
    rw [rank_finishTraced]
    simp [rank, phase, HandlerPhase.rank]

theorem rank_answerSocket (x : Exchange) (key : HeaderValue) (answer : SocketAnswer) :
    (x.answerSocket key answer).rank ≤ 1 + x.carried := by
  cases answer with
  | accepted protocol =>
    unfold answerSocket
    rw [rank_finishTraced]
    simp only [carried, complete, TunnelPhase.rank]
    omega
  | refused status headers =>
    unfold answerSocket
    rw [rank_finishTraced]
    exact Nat.le_add_left _ _
  | failed cause =>
    unfold answerSocket
    rw [rank_failSocket]
    exact Nat.le_add_left _ _

theorem rank_stepHandler (h : x.stepHandler now = some y) : y.rank < x.rank := by
  cases stepHandler_cases h with
  | @resolved headers _ _ phase _ _ next =>
    have went := rank_of_resolves next
    change y.rank ≤ 4 + x.carried at went
    have waited : x.rank = 5 + x.carried := by rw [rank, phase]; rfl
    omega
  | forwarded phase next =>
    have went := rank_of_forwards next
    have waited : x.rank = 4 + x.carried := by rw [rank, phase]; rfl
    omega
  | failed phase =>
    rw [failForward, rank_reject, carried_trace]
    simp [rank, phase, HandlerPhase.rank]
  | responded next => exact rank_of_responds next
  | @connected key answer phase =>
    have went := rank_answerSocket x key answer
    have waited : x.rank = 2 + x.carried := by rw [rank, phase]; rfl
    omega

theorem rank_step (h : x.step now = some y) : y.rank < x.rank := by
  rcases step_cases h with h | h | h | h
  · exact rank_stepHandler h
  · exact rank_uploadMoves (uploadMoves_of_stepUpload h)
  · exact rank_relayMoves (relayMoves_of_stepRelay h)
  · exact rank_stepTunnel h

/-! ## Rest -/

theorem blocked_runFor {fuel : Nat} (enough : x.rank ≤ fuel) : (runFor fuel now x).Blocked now := by
  induction fuel generalizing x with
  | zero =>
    unfold runFor Blocked
    cases h : x.step now with
    | none => rfl
    | some y => exact absurd (rank_step h) (by omega)
  | succ fuel ih =>
    unfold runFor
    split
    · rename_i y h
      have fewer := rank_step h
      exact ih (by omega)
    · rename_i h
      exact h

/-- After everything that can go on has, no part can move. -/
theorem blocked_run (x : Exchange) (now : Nat) : (x.run now).Blocked now := blocked_runFor x.rank_le_potential

/-- Where no part can move, to let everything go on changes nothing. -/
theorem run_of_blocked (h : x.Blocked now) : x.run now = x := by
  unfold run
  cases x.potential with
  | zero => rfl
  | succ fuel =>
    unfold runFor
    rw [h]

end Exchange

end Gateway
