import Gateway.Proofs.Delivery.Relay

/-!
# How an upload begins and goes on

Only the handler begins an upload, when it sends a request whose body still arrives (`Step.upload_begins`). From then on
the upload has its own events, and all others leave it alone (`Uploading`).

What holds of a transfer when it begins, and is kept by everything that can happen to one (`Transfer.Kept`), holds of
upload and relay in every state.
-/

namespace Gateway

/-- A property of transfers that everything keeps which can happen to one. -/
structure Transfer.Kept (P : Transfer → Prop) : Prop where
  push : ∀ {t : Transfer} (item : Item), P t → P { t with pump := t.pump.push item }
  pipe : ∀ {t : Transfer} (pipe : Pipe), P t → P { t with pump := { t.pump with pipe } }
  /-- a step of its pump -/
  move : ∀ {t : Transfer} {pump : Pump} {now : Nat}, P t → t.running = true → t.pump.Move now pump → P { t with pump }
  cancel : ∀ {t : Transfer}, P t → P t.cancel
  /-- once its pump has ended -/
  close : ∀ {t : Transfer} {pump : Pump} {now : Nat} {result : PumpResult}, P t → t.pump.Move now pump →
    pump.result? = some result → P (Transfer.close { t with pump })

namespace Exchange

variable {x y : Exchange} {t : Transfer}

/-- The items of the request body that an event adds. -/
def Event.pushes : Event → List Item
  | .requestPushed item => [item]
  | _ => []

/-- The items of the request body that the backend takes by an event. -/
def Event.fetches : Event → List Item
  | .backendRead item => item.toList
  | _ => []

def pushesOf (es : List Event) : List Item := es.flatMap Event.pushes

def fetchesOf (es : List Event) : List Item := es.flatMap Event.fetches

/-! ## How an upload begins -/

/-- An upload that has not begun to move the body. -/
structure Uploads (body : Body) (length : BodyLength) (x : Exchange) : Prop where
  upload : x.upload = some { pump := .new none body (.new length true), running := true }
  backend : x.backendBody = some .uploaded

theorem upload_traceResponse (x : Exchange) (response : Response) : (x.traceResponse response).upload = x.upload
    ∧ (x.traceResponse response).backendBody = x.backendBody := by
  obtain ⟨_, same⟩ := touches_traceResponse x response
  rw [same]
  exact ⟨rfl, rfl⟩

theorem upload_passEnded (x : Exchange) (head : ResponseHead) (response : Response) :
    (x.passEnded head response).upload = x.upload ∧ (x.passEnded head response).backendBody = x.backendBody := by
  obtain ⟨_, _, _, _, same⟩ := touches_passEnded x head response
  rw [same]
  exact ⟨rfl, rfl⟩

/-- The handler hands the body over as a whole, or begins the upload. -/
theorem upload_handOver (x : Exchange) (headers : Headers) :
    (x.handOver headers).1.upload = x.upload
      ∨ ∃ body length, x.inbound = .streamed body ∧ (x.handOver headers).1.Uploads body length := by
  unfold handOver
  split
  · exact .inl rfl
  · split
    · exact .inl rfl
    · rename_i body hbody
      exact .inr ⟨body, _, hbody, rfl, rfl⟩

theorem upload_reject (x : Exchange) (failure : Rejection) :
    (x.reject failure).upload = x.upload ∧ (x.reject failure).backendBody = x.backendBody := ⟨rfl, rfl⟩

/-- Once the handler waits for the backend, it leaves the upload alone. -/
theorem upload_stepHandler {now : Nat} (hy : x.stepHandler now = some y) :
    (y.upload = x.upload ∧ (x.handler ≠ .resolving → y.backendBody = x.backendBody))
      ∨ (x.handler = .resolving ∧ ∃ body length, x.inbound = .streamed body ∧ y.Uploads body length) := by
  cases stepHandler_cases hy with
  | @resolved resolved _ _ phase _ _ next =>
    cases next with
    | refused | hostless | keyless | unsendable => exact .inl ⟨(upload_reject _ _).1, fun other => absurd phase other⟩
    | answered | socketFailed | socketAsked => exact .inl ⟨rfl, fun other => absurd phase other⟩
    | @sent target _ _ headers =>
      have handed := upload_handOver (trace { x with head := resolved } (.hopResolved target)) headers
      generalize (trace { x with head := resolved } (.hopResolved target)).handOver headers = handover at handed ⊢
      rcases handed with same | ⟨body, length, inbound, begun⟩
      · exact .inl ⟨same, fun other => absurd phase other⟩
      · exact .inr ⟨phase, body, length, inbound, begun.upload, begun.backend⟩
  | forwarded _ next =>
    left
    cases next with
    | failed | answered | unanswered | overdue => exact ⟨rfl, fun _ => rfl⟩
  | @failed cause =>
    obtain ⟨upload, backend⟩ := upload_reject (x.trace (.forwardFailed cause)) (.backend cause)
    exact .inl ⟨upload, fun _ => backend⟩
  | responded next =>
    left
    cases next with
    | failed | relayed | headed => exact ⟨rfl, fun _ => rfl⟩
    | @composed response =>
      obtain ⟨upload, backend⟩ := upload_traceResponse x response
      exact ⟨upload, fun _ => backend⟩
    | @ended head response =>
      obtain ⟨upload, backend⟩ := upload_passEnded x head response
      exact ⟨upload, fun _ => backend⟩
  | @connected key answer phase =>
    left
    cases answer <;> exact ⟨rfl, fun _ => rfl⟩

/-- What broke an upload off is recorded by the upload alone. -/
theorem uploadError_stepHandler {now : Nat} (hy : x.stepHandler now = some y) : y.uploadError = x.uploadError := by
  cases stepHandler_cases hy with
  | @resolved resolved _ _ _ _ _ next =>
    cases next with
    | refused | answered | hostless | keyless | socketFailed | socketAsked | unsendable => rfl
    | @sent target _ _ headers =>
      obtain ⟨_, _, _, _, _, same⟩ := touches_handOver (trace { x with head := resolved } (.hopResolved target)) headers
      show ((trace { x with head := resolved } (.hopResolved target)).handOver headers).1.uploadError = _
      rw [same]
      rfl
  | forwarded _ next => cases next <;> rfl
  | failed => rfl
  | responded next =>
    cases next with
    | failed | relayed | headed => rfl
    | @composed response =>
      obtain ⟨_, same⟩ := touches_traceResponse x response
      rw [same]
    | @ended head response =>
      obtain ⟨_, _, _, _, same⟩ := touches_passEnded x head response
      rw [same]
  | @connected key answer => cases answer <;> rfl

/-- What can happen to the request body while an upload has it: the client adds an item, the backend reads or gives it up,
the upload makes a step, or none of them is touched. -/
inductive Uploading (x : Exchange) : Event → Exchange → Prop where
  | push (item : Item) : Uploading x (.requestPushed item) (x.pushRequest item)
  | read {item : Option Item} {y : Exchange} (read : x.backendRead = some (item, y)) : Uploading x (.backendRead item) y
  | dropped {y : Exchange} (dropped : x.backendDropBody = some y) : Uploading x .backendDroppedBody y
  | step {e : Event} {now : Nat} {y : Exchange} (moves : UploadMoves x now y) (pushes : e.pushes = [])
      (fetches : e.fetches = []) : Uploading x e y
  | apart {e : Event} {y : Exchange} (upload : y.upload = x.upload) (error : y.uploadError = x.uploadError)
      (backend : y.backendBody = x.backendBody) (pushes : e.pushes = []) (fetches : e.fetches = []) : Uploading x e y

theorem RelayMoves.uploading {e : Event} {now : Nat} (moves : RelayMoves x now y) (pushes : e.pushes = [])
    (fetches : e.fetches = []) : Uploading x e y := by
  obtain ⟨_, _, _, rfl⟩ := moves.touches
  exact .apart rfl rfl rfl pushes fetches

theorem Step.uploading {e : Event} (hs : Step x e y) (sound : x.Sound) (hx : x.upload ≠ none) : Uploading x e y := by
  cases hs with
  | arrive ids => exact .apart rfl rfl rfl rfl rfl
  | pushRequest item => exact .push item
  | clientRead h =>
    obtain ⟨_, _, rfl⟩ := touches_clientRead h
    exact .apart rfl rfl rfl rfl rfl
  | leave h =>
    unfold dropClient at h
    split at h
    · cases h
      obtain ⟨_, _, _, _, same⟩ := touches_dropHandler x
      rw [same]
      exact .apart rfl rfl rfl rfl rfl
    · obtain ⟨_, _, rfl⟩ := touches_dropResponse h
      exact .apart rfl rfl rfl rfl rfl
  | allow h =>
    obtain rfl := touches_allowResolve h
    exact .apart rfl rfl rfl rfl rfl
  | backendRead h => exact .read h
  | backendDrop h => exact .dropped h
  | answer h =>
    obtain rfl := touches_answerBackend h
    exact .apart rfl rfl rfl rfl rfl
  | pushResponse item =>
    obtain ⟨_, _, _, same⟩ := touches_pushResponse x item
    rw [same]
    exact .apart rfl rfl rfl rfl rfl
  | answerSocket answer | giveConnection takeover => exact .apart rfl rfl rfl rfl rfl
  | endTunnel result =>
    obtain ⟨_, _, same⟩ := touches_endTunnel x result
    rw [same]
    exact .apart rfl rfl rfl rfl rfl
  | handler h =>
    have past : x.handler ≠ .resolving := fun phase => hx (sound.waiting (.inr (.inl phase))).2.2.1
    rcases upload_stepHandler h with ⟨upload, backend⟩ | ⟨phase, -⟩
    · exact .apart upload (uploadError_stepHandler h) (backend past) rfl rfl
    · exact absurd phase past
  | upload h => exact .step (uploadMoves_of_stepUpload h) rfl rfl
  | moveUpload h => exact .step (uploadMoves_of_moveUpload h) rfl rfl
  | relay h => exact (relayMoves_of_stepRelay h).uploading rfl rfl
  | moveRelay h => exact (relayMoves_of_moveRelay h).uploading rfl rfl
  | tunnel h =>
    obtain ⟨_, _, rfl⟩ := touches_stepTunnel h
    exact .apart rfl rfl rfl rfl rfl

/-- Without an upload there is nothing but an old failure to record. -/
theorem UploadMoves.upload_eq_none {now : Nat} (moves : UploadMoves x now y) (hx : x.upload = none) :
    y.upload = none := by
  cases moves with
  | records => exact hx
  | cancels upload | goesOn upload | ends upload => simp [hx] at upload

/-- An upload is begun by the handler alone. -/
theorem Step.upload_begins {e : Event} (hs : Step x e y) (hx : x.upload = none) (hy : y.upload ≠ none) :
    ∃ body length, x.inbound = .streamed body ∧ y.Uploads body length := by
  have stays {z : Exchange} (frame : Frame x z) : z.upload = none := frame.upload hx
  cases hs.turn with
  | aside frame => exact absurd (stays frame) hy
  | arrived ids idle => exact absurd hx hy
  | deserted waiting =>
    obtain ⟨_, _, _, _, same⟩ := touches_dropHandler x
    rw [same] at hy
    exact absurd hx hy
  | handler h =>
    rcases upload_stepHandler h with ⟨upload, -⟩ | ⟨-, begun⟩
    · rw [upload] at hy
      exact absurd hx hy
    · exact begun
  | upload moves => exact absurd (moves.upload_eq_none hx) hy
  | relay moves =>
    obtain ⟨_, _, _, rfl⟩ := moves.touches
    exact absurd hx hy

/-! ## What is kept of a transfer -/

theorem upload_endUpload (u : Transfer) (result : PumpResult) :
    (x.endUpload u result).backendBody = x.backendBody
      ∧ (x.endUpload u result).upload = some (match result with
        | .moved _ | .sinkClosed => u.close
        | .sourceFailed _ | .timedOut _ => u.cancel) := by
  cases result <;> exact ⟨rfl, rfl⟩

variable {P : Transfer → Prop}

/-- What holds of every upload that begins, and is kept, holds of the upload. -/
theorem upload_kept (kept : Transfer.Kept P) {e : Event} (hs : Step x e y) (sound : x.Sound)
    (new : ∀ body length, P { pump := .new none body (.new length true), running := true })
    (h : ∀ t, x.upload = some t → P t) : ∀ t, y.upload = some t → P t := by
  intro u hu
  cases hx : x.upload with
  | none =>
    obtain ⟨body, length, -, begun⟩ := hs.upload_begins hx (by simp [hu])
    obtain rfl := Option.some.inj (begun.upload.symm.trans hu)
    exact new body length
  | some t =>
    have ht := h t hx
    cases hs.uploading sound (by simp [hx]) with
    | push item =>
      simp only [Exchange.pushRequest, hx, Option.some.injEq] at hu
      exact hu ▸ kept.push item ht
    | read read =>
      rcases backendRead_cases read with ⟨_, _, -, rfl⟩ | ⟨v, pipe, -, hv, -, rfl⟩
      · exact h u hu
      · exact Option.some.inj hu ▸ kept.pipe _ (h v hv)
    | dropped dropped =>
      rcases backendDropBody_cases dropped with ⟨_, -, rfl⟩ | ⟨-, rfl⟩
      · exact h u hu
      · obtain ⟨v, hv, rfl⟩ := Option.map_eq_some_iff.1 hu
        exact kept.pipe _ (h v hv)
    | step moves =>
      cases moves with
      | records => exact h u hu
      | @cancels v _ hv => exact Option.some.inj hu ▸ kept.cancel (h v hv)
      | @goesOn v _ hv running step => exact Option.some.inj hu ▸ kept.move (h v hv) running (Pump.move_of_step step)
      | @ends v pump result hv running step ended =>
        rw [(upload_endUpload _ _).2] at hu
        cases result with
        | moved | sinkClosed => exact Option.some.inj hu ▸ kept.close (h v hv) (Pump.move_of_step step) ended
        | sourceFailed | timedOut =>
          have moved : P { v with pump } := kept.move (h v hv) running (Pump.move_of_step step)
          exact Option.some.inj hu ▸ kept.cancel moved
    | apart upload => exact h u (upload ▸ hu)

/-- Where there is a relay, the handler has passed the response on. -/
theorem Sound.isOpen_of_relay (h : x.Sound) (hr : x.relay ≠ none) : x.handler.isOpen = false := by
  refine Bool.eq_false_iff.2 fun isOpen => ?_
  have unrelayed := (h.standing.of_isOpen isOpen).2.1
  simp [relaying, hr] at unrelayed

/-- What holds of every relay that begins, and is kept, holds of the relay. -/
theorem relay_kept (kept : Transfer.Kept P) {e : Event} (hs : Step x e y) (sound : x.Sound)
    (new : ∀ body length, P { pump := .new (some x.profile.receive) body (.new length true), running := true })
    (h : ∀ t, x.relay = some t → P t) : ∀ t, y.relay = some t → P t := by
  intro u hu
  cases hx : x.relay with
  | none =>
    obtain ⟨head, response, -, -, rfl⟩ := hs.relay_begins hx (by simp [hu])
    cases hu
    exact new _ _
  | some t =>
    have ht := h t hx
    cases hs.after (sound.isOpen_of_relay (by simp [hx])) with
    | headed => exact h u hu
    | read read =>
      rcases clientRead_cases read with ⟨_, _, -, rfl⟩ | ⟨v, pipe, -, hv, -, rfl⟩
      · exact h u hu
      · exact Option.some.inj hu ▸ kept.pipe _ (h v hv)
    | left left =>
      rcases dropResponse_cases left with ⟨_, -, rfl⟩ | ⟨-, rfl⟩
      · exact h u hu
      · obtain ⟨v, hv, rfl⟩ := Option.map_eq_some_iff.1 hu
        exact kept.pipe _ (h v hv)
    | push item =>
      simp only [Exchange.pushResponse, hx, Option.some.injEq] at hu
      exact hu ▸ kept.push item ht
    | relay moves =>
      cases moves with
      | @cancels v _ hv =>
        rw [(abandon_apart _).2.1] at hu
        exact Option.some.inj hu ▸ kept.cancel (h v hv)
      | @goesOn v _ hv running step => exact Option.some.inj hu ▸ kept.move (h v hv) running (Pump.move_of_step step)
      | @ends v pump result hv running step ended =>
        have unended := (sound.streaming hv running).2
        have moved : P { v with pump } := kept.move (h v hv) running (Pump.move_of_step step)
        obtain ⟨-, -, ⟨-, relay, -⟩ | ⟨relay, -⟩⟩ := endRelay_cases (x := x) { v with pump } result unended
        · rw [relay] at hu
          exact Option.some.inj hu ▸ kept.close (h v hv) (Pump.move_of_step step) ended
        · rw [relay] at hu
          exact Option.some.inj hu ▸ kept.cancel moved
    | apart _ relay => exact h u (relay ▸ hu)

/-! ## The limit of a transfer -/

theorem kept_limit (limit : Option Duration) : Transfer.Kept fun t => t.pump.limit = limit where
  push _ h := h
  pipe _ h := h
  move h _ moves := (Pump.limit_of_move moves).trans h
  cancel h := h
  close h moves _ := (Pump.limit_of_move moves).trans h

/-! ## The source of a transfer -/

/-- What is not looked after any more reads nothing any more. -/
def LetsGo (t : Transfer) : Prop := t.running = false → ∀ s, t.pump.source.source? = some s → s.released = true

theorem released_of_release (b : Body) {s : Source} (h : b.release.source? = some s) : s.released = true := by
  cases b with
  | whole rest => cases h
  | arriving source =>
    cases h
    rfl

/-- A pump that ends has given its body up. -/
theorem source_of_ended {p q : Pump} {now : Nat} (h : p.Move now q) {result : PumpResult} (hq : q.result? = some result) :
    ∃ b : Body, q.source = b.release := by
  cases h with
  | begin | chunk | trailers | handed | sent => cases hq
  | left | refused | failure | done | overdue => exact ⟨_, rfl⟩

theorem kept_letsGo : Transfer.Kept LetsGo where
  push := by
    intro t item h stopped s hs
    replace hs : (t.pump.source.push item).source? = some s := hs
    cases source : t.pump.source with
    | whole rest =>
      rw [source] at hs
      cases hs
    | arriving old =>
      have released : old.released = true := h stopped old (by rw [source]; rfl)
      rw [source] at hs
      cases hs
      simp [Source.push, released]
  pipe _ h := h
  move _ running _ stopped := by
    rw [running] at stopped
    cases stopped
  cancel _ _ _ hs := released_of_release _ hs
  close _ moves ended _ _ hs := by
    obtain ⟨b, source⟩ := source_of_ended moves ended
    exact released_of_release b (source ▸ hs)

end Exchange

end Gateway
