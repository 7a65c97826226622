import Gateway.Proofs.Delivery.Begin
import Gateway.Proofs.Delivery.Progress
import Gateway.Proofs.Outcome.Once

/-!
# A relay delivers what the backend sent

The reading end of the relay's pipe is with the handler, then with the client, until the client leaves (`ReadingEnd`).
Once the relay has begun, an event touches the response or leaves it alone (`After`), and every event keeps what is known
of the delivery (`Relays.step`).

The main theorem is `Run.delivers`: the client takes a prefix of the chunks of the backend; a clean end means that it
took everything and that the request ended well; a client of a failed request meets a failure before an end.
-/

namespace Gateway

namespace Exchange

variable {x y : Exchange} {announced : BodyLength} {offered taken : List Item} {t : Transfer}

/-- The items an event adds to those the backend offers. -/
def Event.offers : Event → List Item
  | .responsePushed item => [item]
  | _ => []

/-- The items the client takes by an event. -/
def Event.takes : Event → List Item
  | .clientRead item => item.toList
  | _ => []

/-- Where the reading end of the relay's pipe is; `reader` says whether anybody has it. -/
inductive ReadingEnd (x : Exchange) (reader : Bool) : Prop where
  /-- the handler holds it, beside the head -/
  | held {head : ResponseHead} (handler : x.handler = .heading head .relayed) (client : x.clientBody = none)
      (there : reader = true)
  | client (handler : x.handler = .returned) (client : x.clientBody = some .relayed) (there : reader = true)
  | left (handler : x.handler = .returned) (client : x.clientBody = none)

/-- What can happen to the response once its relay has begun: its head goes out, the client reads or leaves, the backend
offers one more item, the relay moves, or the response is not touched, though the upload may fail the request. -/
inductive After (x : Exchange) : Event → Exchange → Prop where
  | headed {head : ResponseHead} {body : ClientBody} {now : Nat} (handler : x.handler = .heading head body) :
      After x (.handlerStepped now) (x.finishTraced head body)
  | read {item : Option Item} {y : Exchange} (read : x.clientRead = some (item, y)) : After x (.clientRead item) y
  | left {y : Exchange} (left : x.dropResponse = some y) : After x .clientLeft y
  | push (item : Item) : After x (.responsePushed item) (x.pushResponse item)
  | relay {e : Event} {now : Nat} {y : Exchange} (moves : RelayMoves x now y) (offers : e.offers = [])
      (takes : e.takes = []) : After x e y
  | apart {e : Event} {y : Exchange} (handler : y.handler = x.handler) (relay : y.relay = x.relay)
      (client : y.clientBody = x.clientBody) (outcome : y.guard.outcome = x.guard.outcome
        ∨ (x.guard.outcome = none ∧ ∃ cause, y.guard.outcome = some (.failed (.requestBody cause))))
      (offers : e.offers = []) (takes : e.takes = []) : After x e y

/-- A failure is recorded where there is no outcome, and changes nothing where there is one. -/
theorem outcome_fail_cases (x : Exchange) (failure : Rejection) :
    (x.fail failure).guard.outcome = x.guard.outcome
      ∨ (x.guard.outcome = none ∧ (x.fail failure).guard.outcome = some (.failed failure)) := by
  cases ho : x.guard.outcome with
  | none => exact .inr ⟨rfl, outcome_fail_of_unset ho failure⟩
  | some o => exact .inl (by rw [fail_of_terminated ho, ho])

/-- An upload may record that the request body broke off. -/
theorem UploadMoves.outcome {now : Nat} (moves : UploadMoves x now y) :
    y.guard.outcome = x.guard.outcome
      ∨ (x.guard.outcome = none ∧ ∃ cause, y.guard.outcome = some (.failed (.requestBody cause))) := by
  cases moves with
  | @records cause =>
    rcases outcome_fail_cases { x with uploadError := none } (.requestBody cause) with same | ⟨none, failed⟩
    · exact .inl same
    · exact .inr ⟨none, cause, failed⟩
  | cancels | goesOn => exact .inl rfl
  | @ends t pump result =>
    obtain ⟨_, _, _, _, same⟩ := touches_endUpload x { t with pump } result
    rw [same]
    exact .inl rfl

theorem UploadMoves.after {now : Nat} (moves : UploadMoves x now y) {e : Event} (offers : e.offers = [])
    (takes : e.takes = []) : After x e y := by
  have outcome := moves.outcome
  obtain ⟨_, _, _, _, _, rfl⟩ := moves.touches
  exact .apart rfl rfl rfl outcome offers takes

/-- Once the handler has passed the response on. -/
theorem Step.after {e : Event} (hs : Step x e y) (hx : x.handler.isOpen = false) : After x e y := by
  cases hs with
  | arrive ids hw => simp [HandlerPhase.isOpen, hw] at hx
  | pushRequest item =>
    obtain ⟨_, _, same⟩ := touches_pushRequest x item
    rw [same]
    exact .apart rfl rfl rfl (.inl rfl) rfl rfl
  | clientRead h => exact .read h
  | leave h =>
    have unwaiting : ¬x.isWaiting := fun waiting => by simp [isOpen_of_isWaiting waiting] at hx
    unfold dropClient at h
    rw [if_neg unwaiting] at h
    exact .left h
  | allow h =>
    unfold allowResolve at h
    split at h
    · rename_i resolving
      simp [HandlerPhase.isOpen, resolving] at hx
    · cases h
  | backendRead h =>
    obtain ⟨_, _, rfl⟩ := touches_backendRead h
    exact .apart rfl rfl rfl (.inl rfl) rfl rfl
  | backendDrop h =>
    obtain ⟨_, _, rfl⟩ := touches_backendDropBody h
    exact .apart rfl rfl rfl (.inl rfl) rfl rfl
  | answer h =>
    obtain rfl := touches_answerBackend h
    exact .apart rfl rfl rfl (.inl rfl) rfl rfl
  | pushResponse item _ => exact .push item
  | answerSocket answer | giveConnection takeover => exact .apart rfl rfl rfl (.inl rfl) rfl rfl
  | endTunnel result =>
    obtain ⟨_, _, same⟩ := touches_endTunnel x result
    rw [same]
    exact .apart rfl rfl rfl (.inl rfl) rfl rfl
  | handler h =>
    cases stepHandler_cases h with
    | resolved phase | forwarded phase | failed phase | connected phase => simp [HandlerPhase.isOpen, phase] at hx
    | responded next =>
      cases next with
      | failed phase | composed phase | ended phase | relayed phase => simp [HandlerPhase.isOpen, phase] at hx
      | headed phase => exact .headed phase
  | upload h => exact (uploadMoves_of_stepUpload h).after rfl rfl
  | relay h => exact .relay (relayMoves_of_stepRelay h) rfl rfl
  | moveUpload h => exact (uploadMoves_of_moveUpload h).after rfl rfl
  | moveRelay h => exact .relay (relayMoves_of_moveRelay h) rfl rfl
  | tunnel h =>
    obtain ⟨_, _, rfl⟩ := touches_stepTunnel h
    exact .apart rfl rfl rfl (.inl rfl) rfl rfl

/-- The relay of an exchange, what it was offered and what the client took. -/
structure Relays (announced : BodyLength) (offered taken : List Item) (t : Transfer) (x : Exchange) : Prop where
  relay : x.relay = some t
  readingEnd : x.ReadingEnd t.pump.pipe.reader
  delivery : Delivery announced offered taken t x.guard.outcome

/-- The client that holds the body has the reading end, and was handed it by the handler. -/
theorem ReadingEnd.of_client {reader : Bool} (h : x.ReadingEnd reader) {body : ClientBody}
    (held : x.clientBody = some body) : x.handler = .returned ∧ body = .relayed ∧ reader = true := by
  cases h with
  | held _ client | left _ client => simp [client] at held
  | client handler client there =>
    rw [client] at held
    exact ⟨handler, (Option.some.inj held).symm, there⟩

theorem ReadingEnd.isOpen_eq_false {reader : Bool} (h : x.ReadingEnd reader) : x.handler.isOpen = false := by
  cases h with
  | held handler | client handler | left handler => rw [handler, HandlerPhase.isOpen]

theorem ReadingEnd.congr {reader : Bool} (h : x.ReadingEnd reader) (handler : y.handler = x.handler)
    (client : y.clientBody = x.clientBody) : y.ReadingEnd reader := by
  cases h with
  | held phase none there => exact .held (handler.trans phase) (client.trans none) there
  | client phase held there => exact .client (handler.trans phase) (client.trans held) there
  | left phase none => exact .left (handler.trans phase) (client.trans none)

/-! ## Steps of the relay -/

/-- The relay of an exchange goes on as a transfer that delivers. -/
theorem Relays.goesOn {u : Transfer} (h : Relays announced offered taken t x) (handler : y.handler = x.handler)
    (relay : y.relay = some u) (client : y.clientBody = x.clientBody)
    (reader : u.pump.pipe.reader = t.pump.pipe.reader) (delivery : Delivery announced offered taken u y.guard.outcome) :
    Relays announced offered taken u y where
  relay := relay
  readingEnd := by
    rw [reader]
    exact h.readingEnd.congr handler client
  delivery := delivery

theorem abandon_apart (x : Exchange) :
    x.abandon.handler = x.handler ∧ x.abandon.relay = x.relay ∧ x.abandon.clientBody = x.clientBody := by
  obtain ⟨_, same⟩ := touches_abandon x
  rw [same]
  exact ⟨rfl, rfl, rfl⟩

/-- A relay that gives up: the request has failed, for this or before. -/
theorem failRelay_spec (u : Transfer) (failure : Rejection) (hn : x.guard.outcome ≠ some .completed) :
    (x.failRelay u failure).handler = x.handler ∧ (x.failRelay u failure).clientBody = x.clientBody
      ∧ (x.failRelay u failure).relay = some u.cancel
      ∧ ∃ f, (x.failRelay u failure).guard.outcome = some (.failed f) := by
  unfold failRelay
  obtain ⟨handler, relay, client⟩ := abandon_apart { x.fail failure with relay := some u.cancel }
  refine ⟨handler, client, relay, ?_⟩
  rw [guard_abandon]
  exact Guard.exists_failure_fail hn failure

/-- How the relay ends: everything was moved and the request ends well, or the request has failed. -/
theorem endRelay_cases (u : Transfer) (result : PumpResult) (hn : x.guard.outcome ≠ some .completed) :
    (x.endRelay u result).handler = x.handler ∧ (x.endRelay u result).clientBody = x.clientBody
      ∧ (((∃ bytes, result = .moved bytes) ∧ (x.endRelay u result).relay = some u.close
          ∧ (x.endRelay u result).guard.outcome = some .completed)
        ∨ ((x.endRelay u result).relay = some u.cancel
          ∧ ∃ failure, (x.endRelay u result).guard.outcome = some (.failed failure))) := by
  cases result with
  | moved bytes =>
    unfold endRelay
    dsimp only
    split
    · rename_i hterminated
      obtain ⟨handler, relay, client⟩ := abandon_apart { x.trace (.responseEnded bytes) with relay := some u.cancel }
      refine ⟨handler, client, .inr ⟨relay, ?_⟩⟩
      rw [guard_abandon]
      exact Guard.exists_failure hn hterminated
    · rename_i hopen
      refine ⟨rfl, rfl, .inl ⟨⟨bytes, rfl⟩, rfl, ?_⟩⟩
      exact outcome_complete_of_unset (x := x.trace (.responseEnded bytes)) (by simpa [Guard.isTerminated] using hopen)
  | sinkClosed =>
    obtain ⟨handler, client, failed⟩ := failRelay_spec (x := x.trace .clientLeft) u .clientLeft hn
    exact ⟨handler, client, .inr failed⟩
  | sourceFailed cause =>
    obtain ⟨handler, client, failed⟩ := failRelay_spec (x := x.trace (.responseFailed cause)) u (.responseBody cause) hn
    exact ⟨handler, client, .inr failed⟩
  | timedOut limit =>
    obtain ⟨handler, client, failed⟩ := failRelay_spec (x := x.trace (.responseFailed (.receiveTimeout limit))) u
      (.responseBody (.receiveTimeout limit)) hn
    exact ⟨handler, client, .inr failed⟩

/-- The relay passes on, breaks off or ends, or notices that the client has left. -/
theorem Relays.moves {now : Nat} (h : Relays announced offered taken t x) (hs : x.Sound) (hy : RelayMoves x now y) :
    ∃ u, Relays announced offered taken u y := by
  cases hy with
  | @cancels u failure hu running recorded =>
    obtain rfl : t = u := Option.some.inj (h.relay.symm.trans hu)
    -- another part has failed the request
    obtain ⟨handler, relay, client⟩ := abandon_apart { x with relay := some t.cancel }
    rw [hs.signalled.awaitFailure_eq_some_iff] at recorded
    refine ⟨t.cancel, h.goesOn handler relay client t.reader_cancel (h.delivery.cancels running rfl ⟨failure, ?_⟩)⟩
    rw [guard_abandon]
    exact recorded
  | @goesOn u pump hu running step unfinished =>
    obtain rfl : t = u := Option.some.inj (h.relay.symm.trans hu)
    have moves := Pump.move_of_step step
    exact ⟨_, h.goesOn rfl rfl rfl (Pump.reader_of_move moves) (h.delivery.moves running moves unfinished)⟩
  | @ends u pump result hu running step ended =>
    obtain rfl : t = u := Option.some.inj (h.relay.symm.trans hu)
    have unended := (hs.streaming h.relay running).2
    have moves := Pump.move_of_step step
    have pipe := Pump.pipe_of_ended moves ended
    obtain ⟨handler, client, ⟨⟨bytes, rfl⟩, relay, outcome⟩ | ⟨relay, outcome⟩⟩ :=
      endRelay_cases (x := x) { t with pump } result unended
    · have reader : pump.pipe.reader = t.pump.pipe.reader := Pump.reader_of_move moves
      exact ⟨_, h.goesOn handler relay client reader (h.delivery.closes running moves ended outcome)⟩
    · have reader := (Transfer.reader_cancel { t with pump }).trans (Pump.reader_of_move moves)
      exact ⟨_, h.goesOn handler relay client reader (h.delivery.cancels running pipe outcome)⟩

/-! ## Every event -/

theorem Relays.read {item : Option Item} (h : Relays announced offered taken t x) (hy : x.clientRead = some (item, y)) :
    ∃ u, Relays announced offered (taken ++ item.toList) u y := by
  rcases clientRead_cases hy with ⟨_, _, direct, rfl⟩ | ⟨u, pipe, hc, hu, read, rfl⟩
  · obtain ⟨-, relayed, -⟩ := h.readingEnd.of_client direct
    cases relayed
  · obtain rfl : t = u := Option.some.inj (h.relay.symm.trans hu)
    obtain ⟨handler, -, there⟩ := h.readingEnd.of_client hc
    exact ⟨_, rfl, .client handler hc ((Pipe.read_spec read).1.trans there), h.delivery.read there read⟩

theorem Relays.leave (h : Relays announced offered taken t x) (hy : x.dropResponse = some y) :
    ∃ u, Relays announced offered taken u y := by
  rcases dropResponse_cases hy with ⟨_, direct, rfl⟩ | ⟨hc, rfl⟩
  · obtain ⟨-, relayed, -⟩ := h.readingEnd.of_client direct
    cases relayed
  · exact ⟨_, by rw [h.relay]; rfl, .left (h.readingEnd.of_client hc).1 rfl, h.delivery.leave⟩

theorem Relays.push (h : Relays announced offered taken t x) (item : Item) :
    ∃ u, Relays announced (offered ++ [item]) taken u (x.pushResponse item) := by
  refine ⟨{ t with pump := t.pump.push item }, ?_⟩
  unfold pushResponse
  simp only [h.relay]
  exact ⟨rfl, h.readingEnd.congr rfl rfl, h.delivery.push item⟩

/-- The head goes out, and the reading end with it. -/
theorem Relays.headed {head : ResponseHead} {body : ClientBody} (h : Relays announced offered taken t x)
    (handler : x.handler = .heading head body) : Relays announced offered taken t (x.finishTraced head body) where
  relay := h.relay
  readingEnd := by
    cases h.readingEnd with
    | held holding _ there =>
      rw [handler] at holding
      cases holding
      exact .client rfl rfl there
    | client returned | left returned =>
      rw [handler] at returned
      cases returned
  delivery := h.delivery

/-- Every event keeps what is known of the relay. -/
theorem Relays.step {e : Event} (h : Relays announced offered taken t x) (hs : x.Sound) (step : Step x e y) :
    ∃ u, Relays announced (offered ++ e.offers) (taken ++ e.takes) u y := by
  cases step.after h.readingEnd.isOpen_eq_false with
  | headed handler => exact ⟨t, by simpa [Event.offers, Event.takes] using h.headed handler⟩
  | read hy =>
    obtain ⟨u, hu⟩ := h.read hy
    exact ⟨u, by simpa [Event.offers, Event.takes] using hu⟩
  | left hy =>
    obtain ⟨u, hu⟩ := h.leave hy
    exact ⟨u, by simpa [Event.offers, Event.takes] using hu⟩
  | push item =>
    obtain ⟨u, hu⟩ := h.push item
    exact ⟨u, by simpa [Event.offers, Event.takes] using hu⟩
  | relay moves offers takes =>
    rw [offers, takes, List.append_nil, List.append_nil]
    exact h.moves hs moves
  | apart handler relay client outcome offers takes =>
    rw [offers, takes, List.append_nil, List.append_nil]
    have kept : ∀ o, x.guard.outcome = some o → y.guard.outcome = some o := fun o ho => hs.outcome_step step ho
    exact ⟨t, h.goesOn handler (relay.trans h.relay) client rfl (h.delivery.outcome kept)⟩

/-- What the backend was offered by a list of events, and what the client took. -/
def offersOf (es : List Event) : List Item := es.flatMap Event.offers

def takesOf (es : List Event) : List Item := es.flatMap Event.takes

theorem Relays.run {es : List Event} (h : Relays announced offered taken t x) (hs : x.Sound) (run : Run x es y) :
    y.Sound ∧ ∃ u, Relays announced (offered ++ offersOf es) (taken ++ takesOf es) u y := by
  refine run.invariant (I := fun es y => y.Sound
    ∧ ∃ u, Relays announced (offered ++ offersOf es) (taken ++ takesOf es) u y) ?_ ?_
  · exact ⟨hs, t, by simpa [offersOf, takesOf] using h⟩
  · rintro es x e y ⟨hx, u, hu⟩ step
    refine ⟨hx.step step, ?_⟩
    obtain ⟨v, hv⟩ := hu.step hx step
    refine ⟨v, ?_⟩
    have offers : offersOf (es ++ [e]) = offersOf es ++ e.offers := by simp [offersOf]
    have takes : takesOf (es ++ [e]) = takesOf es ++ e.takes := by simp [takesOf]
    rw [offers, takes, ← List.append_assoc, ← List.append_assoc]
    exact hv

/-- When a relay begins, nothing of the body was read, and nothing was taken. -/
theorem Step.relays {e : Event} (step : Step x e y) (hs : x.Sound) (hx : x.relay = none) (hy : y.relay = some t) :
    ∃ response, x.backendAnswer = some (.ok response)
      ∧ Relays response.head.headers.bodyLength response.body.items [] t y := by
  obtain ⟨head, response, phase, ha, rfl⟩ := step.relay_begins hx (by simp [hy])
  have unclaimed : x.clientBody = none := hs.unclaimed.resolve_left (by simp [phase])
  cases hy
  exact ⟨response, ha, rfl, .held rfl unclaimed rfl, .flowing rfl (Pump.Flow.new _ _ _)⟩

/-- The run began to relay this response, and these events have followed. -/
def RelaySince (start : Exchange) (es : List Event) (x : Exchange) (response : Response) (after : List Event) : Prop :=
  ∃ before y e z, Run.Cut start es x before y e z after ∧ y.relay = none ∧ z.relay ≠ none
    ∧ y.backendAnswer = some (.ok response)

theorem RelaySince.relays {start : Exchange} {es after : List Event} {response : Response} (fresh : start.Fresh)
    (since : RelaySince start es x response after) :
    ∃ t, Relays response.head.headers.bodyLength (response.body.items ++ offersOf after) (takesOf after) t x := by
  obtain ⟨before, y, e, z, cut, idle, atWork, answered⟩ := since
  obtain ⟨t, ht⟩ := Option.ne_none_iff_exists'.1 atWork
  obtain ⟨other, answered', begun⟩ := cut.step.relays (cut.first.sound fresh) idle ht
  obtain rfl : response = other := Except.ok.inj (Option.some.inj (answered.symm.trans answered'))
  obtain ⟨-, u, hu⟩ := begun.run ((cut.first.sound fresh).step cut.step) cut.rest
  exact ⟨u, hu⟩

theorem Run.relaySince {start : Exchange} {es : List Event} (run : Run start es x) (hs : start.relay = none)
    (hx : x.relay ≠ none) : ∃ response after, RelaySince start es x response after := by
  obtain ⟨before, y, e, z, after, cut, hy, hz⟩ := run.becomes (P := fun x => x.relay ≠ none) (by simp [hs]) hx
  have idle : y.relay = none := Decidable.not_not.1 hy
  obtain ⟨-, response, -, answered, -⟩ := cut.step.relay_begins idle hz
  exact ⟨response, after, before, y, e, z, cut, idle, hz, answered⟩

/-! ## Reading on -/

/-- A reader that takes, by this event, what the pipe it holds has for it. -/
structure Reader (event : Option Item → Event) (holds : Exchange → Pipe → Prop) : Prop where
  step : ∀ {x : Exchange} {pipe rest : Pipe} {item : Item}, holds x pipe → pipe.read = (some item, rest) →
    ∃ y, Step x (event (some item)) y ∧ holds y rest

/-- The client has the reading end of this pipe. -/
def ClientHolds (x : Exchange) (pipe : Pipe) : Prop :=
  x.clientBody = some .relayed ∧ ∃ t, x.relay = some t ∧ t.pump.pipe = pipe

theorem reader_client : Reader .clientRead ClientHolds where
  step := by
    rintro x _ rest item ⟨hc, t, ht, rfl⟩ read
    have reads : x.clientRead = some (some item, { x with relay := some { t with pump := { t.pump with pipe := rest } } }) := by
      simp only [clientRead, hc, ht, read]
    exact ⟨_, .clientRead reads, hc, _, rfl, rfl⟩

/-- Who has taken this can read on to a failure, and finds no end before it. -/
def MeetsFailure (x : Exchange) (event : Option Item → Event) (taken : List Item) : Prop :=
  ∃ more y, Run x (more.map fun i => event (some i)) y
    ∧ ∃ chunks cause behind, taken ++ more = chunks ++ .failure cause :: behind ∧ .done ∉ chunks

namespace Reader

variable {event : Option Item → Event} {holds : Exchange → Pipe → Prop} {pipe : Pipe}

/-- A reader can take what the pipe holds, up to the end. -/
theorem run {first rest : List Item} (reader : Reader event holds) (h : holds x pipe)
    (items : pipe.items = first ++ rest) (none : .done ∉ first) :
    ∃ y, Run x (first.map fun i => event (some i)) y := by
  induction first generalizing x pipe with
  | nil => exact ⟨x, .refl⟩
  | cons item first ih =>
    have read : ∃ next, pipe.read = (some item, next) ∧ next.items = first ++ rest := by
      cases hp : pipe.read with
      | mk got next =>
        cases got with
        | none =>
          rw [(Pipe.items_of_read_none hp).1] at items
          cases items
        | some got =>
          rcases Pipe.items_of_read hp with ⟨hi, -⟩ | ⟨rfl, hi, -⟩
          · rw [items] at hi
            obtain ⟨rfl, same⟩ := List.cons.inj hi
            exact ⟨next, rfl, same.symm⟩
          · rw [items] at hi
            obtain ⟨rfl, -⟩ := List.cons.inj hi
            exact absurd List.mem_cons_self none
    obtain ⟨next, hp, hi⟩ := read
    obtain ⟨z, step, hz⟩ := reader.step h hp
    obtain ⟨y, hy⟩ := ih hz hi fun h => none (List.mem_cons_of_mem _ h)
    exact ⟨y, (Run.single step).trans hy⟩

/-- Where a failure comes before anything but chunks, a reader that has not taken it yet can. -/
theorem meets {rest : List Item} {sent : List Bytes} {cause : Cause} (reader : Reader event holds) (h : holds x pipe)
    (stream : taken ++ pipe.items = sent.map .data ++ .failure cause :: rest) : x.MeetsFailure event taken := by
  have none : Item.done ∉ sent.map Item.data := by simp
  rcases List.append_eq_append_iff.1 stream with ⟨ahead, hsent, hitems⟩ | ⟨behind, htaken, hrest⟩
  · have next : pipe.items = (ahead ++ [.failure cause]) ++ rest := by rw [hitems, List.append_assoc]; rfl
    have unended : Item.done ∉ ahead ++ [.failure cause] := by
      intro h
      rcases List.mem_append.1 h with h | h
      · exact none (hsent ▸ List.mem_append_right _ h)
      · cases List.mem_singleton.1 h
    obtain ⟨y, hy⟩ := reader.run h next unended
    exact ⟨_, y, hy, sent.map .data, cause, [], by rw [hsent, List.append_assoc], none⟩
  · cases behind with
    | nil =>
      have next : pipe.items = [.failure cause] ++ rest := hrest.symm
      obtain ⟨y, hy⟩ := reader.run h next (by simp)
      exact ⟨_, y, hy, sent.map .data, cause, [], by rw [htaken, List.append_nil], none⟩
    | cons first behind =>
      obtain ⟨rfl, -⟩ := List.cons.inj hrest
      exact ⟨[], x, .refl, sent.map .data, cause, behind, by rw [htaken, List.append_nil], none⟩

end Reader

/-! ## Every run -/

/-- Where no part can move and the request has failed, the client can take a failure before any end. -/
theorem Relays.meets_failure (h : Relays announced offered taken t x) (hs : x.Sound) {failure : Rejection}
    (hg : x.guard.outcome = some (.failed failure)) {now : Nat} (blocked : x.Blocked now)
    (hc : x.clientBody = some .relayed) : x.MeetsFailure .clientRead taken := by
  cases h.delivery with
  | flowing running flow =>
    -- the relay would break off
    have hf : x.guard.awaitFailure = some failure := hs.signalled.awaitFailure_eq_some_iff.2 hg
    obtain ⟨-, -, relay_blocked, -⟩ := blocked_iff.1 blocked
    rw [(not_running_of_blocked hf).2 relay_blocked h.relay] at running
    cases running
  | whole running outcome =>
    rw [hg] at outcome
    cases outcome
  | broken running outcome more source below stream => exact reader_client.meets ⟨hc, t, h.relay, rfl⟩ stream
  | left reader =>
    rw [(h.readingEnd.of_client hc).2.2] at reader
    cases reader

/-- The client takes chunks of the backend, unchanged and in order. An end it takes before any failure is the end of
what the backend sent, of which it has taken everything, and the request ended well. If the request fails instead, no
end comes before a failure, and once nothing moves any more a client that reads on takes a failure. -/
theorem Run.delivers {start z : Exchange} {es fs : List Event} {e : Event} (fresh : start.Fresh) (before : Run start es x)
    (begins : Step x e y) (hx : x.relay = none) (hy : y.relay ≠ none) (after : Run y fs z) :
    ∃ response, x.backendAnswer = some (.ok response)
      ∧ chunks (takesOf fs) <+: chunks (frames (response.body.items ++ offersOf fs))
      ∧ (∀ taken rest, takesOf fs = taken ++ .done :: rest → (∀ cause, .failure cause ∉ taken) →
          z.guard.outcome = some .completed
            ∧ frames (response.body.items ++ offersOf fs) ++ [.done] <+: response.body.items ++ offersOf fs
            ∧ chunks taken = chunks (frames (response.body.items ++ offersOf fs))
            ∧ trailerFields taken = trailerFields (frames (response.body.items ++ offersOf fs)))
      ∧ (∀ failure, z.guard.outcome = some (.failed failure) →
          (∀ taken rest, takesOf fs = taken ++ .done :: rest → ∃ cause, .failure cause ∈ taken)
            ∧ ∀ now, z.Blocked now → z.clientBody = some .relayed →
              ∃ more w, Run z (more.map fun i => .clientRead (some i)) w
                ∧ ∃ chunks cause behind, takesOf fs ++ more = chunks ++ .failure cause :: behind ∧ .done ∉ chunks) := by
  obtain ⟨t, ht⟩ := Option.ne_none_iff_exists'.1 hy
  obtain ⟨response, answered, relays⟩ := begins.relays (before.sound fresh) hx ht
  have sound : y.Sound := (before.sound fresh).step begins
  obtain ⟨zs, u, hu⟩ := relays.run sound after
  rw [List.nil_append] at hu
  refine ⟨response, answered, hu.delivery.chunks_prefix, ?_, ?_⟩
  · intro taken rest htaken clean
    exact hu.delivery.clean htaken clean
  · intro failure hg
    constructor
    · intro taken rest htaken
      -- a clean end would mean that the request ended well
      by_cases met : ∃ cause, .failure cause ∈ taken
      · exact met
      · have clean : ∀ cause, .failure cause ∉ taken := fun cause hcause => met ⟨cause, hcause⟩
        obtain ⟨completed, -⟩ := hu.delivery.clean htaken clean
        rw [hg] at completed
        cases completed
    · intro now blocked hc
      exact hu.meets_failure zs hg blocked hc

/-- A backend that answers with a body of one chunk. -/
def oneChunk : Response where
  head := { status := .ok, phrase := none, headers := .empty }
  body := .arriving (.ofItems [.data [1], .done] false)

/-- A client that reads such a body to its end has all of it, and the request ended well. -/
theorem delivers_oneChunk : ∃ start es x e y fs z, start.Fresh ∧ Run start es x ∧ Step x e y ∧ x.relay = none
    ∧ y.relay ≠ none ∧ Run y fs z ∧ takesOf fs = [.data [1], .done] ∧ z.guard.outcome = some .completed := by
  let start := towards (.forward ⟨"backend", 80, "/", ""⟩) (Headers.empty.insert .host .zero) (.buffered [])
  let es : List Event := [.arrived ⟨0⟩, .resolverAllowed, .handlerStepped 0, .backendAnswered (.ok oneChunk),
    .handlerStepped 0, .handlerStepped 0]
  let fs : List Event := [.handlerStepped 0, .relayStepped 0, .relayStepped 0, .clientRead none, .relayStepped 0,
    .clientRead (some (.data [1])), .relayStepped 0, .clientRead (some .done)]
  have reached : (es.foldlM perform start).any (fun x => x.relay.isNone ∧ (x.perform (.handlerStepped 0)).any fun y =>
      y.relay.isSome ∧ (fs.foldlM perform y).isSome) = true := by decide +kernel
  obtain ⟨x, hx, h⟩ := (Option.any_eq_true _ _).1 reached
  obtain ⟨none, h⟩ := of_decide_eq_true h
  obtain ⟨y, hy, h⟩ := (Option.any_eq_true _ _).1 h
  obtain ⟨some, h⟩ := of_decide_eq_true h
  obtain ⟨z, hz⟩ := Option.isSome_iff_exists.1 h
  have fresh : start.Fresh := fresh_towards _ _ _
  have before : Run start es x := run_of_perform hx
  have begins : Step x (.handlerStepped 0) y := step_of_perform hy
  have idle : x.relay = Option.none := Option.isNone_iff_eq_none.1 none
  have atWork : y.relay ≠ Option.none := Option.isSome_iff_ne_none.1 some
  have after : Run y fs z := run_of_perform hz
  obtain ⟨response, -, -, clean, -⟩ := Run.delivers fresh before begins idle atWork after
  have ended := clean [.data [1]] [] rfl (by simp)
  exact ⟨start, es, x, _, y, fs, z, fresh, before, begins, idle, atWork, after, rfl, ended.1⟩

end Exchange

end Gateway
