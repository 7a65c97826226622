import Gateway.Proofs.Delivery.Relay

/-!
# A client that leaves early

A client that gives the response body up before it has read everything has left early, and the request has not ended
well. The relay sees to it as long as it is at work (`Departed`): a reader that left with something missing is no
success. But the relay takes the end of the backend's body for the end of the response, while the pipe may still hold
the last chunk. If it has done so (`EndedUnread`), the request ended well before the client left.

The main theorem is `Run.leaving`: a request whose client leaves early never counts as ended well, if and only if the
relay had not ended with a chunk in the pipe. Then it fails, as one whose client left or with what was recorded first.
-/

namespace Gateway

namespace Pump

/-- Without a reader a pump begins, or ends as one whose reader has left. -/
theorem move_of_left {p q : Pump} {now : Nat} (reader : p.pipe.reader = false) (missing : p.pipe.isDelivered = false)
    (h : p.Move now q) : q.pipe = p.pipe ∧ q.result? = none ∨ q.result? = some .sinkClosed := by
  cases h with
  | begin phase => exact .inl ⟨rfl, rfl⟩
  | left =>
    refine .inr ?_
    simp [finishClosed, missing, finish, result?]
  | refused => exact .inr rfl
  | chunk _ there | trailers _ there | handed _ there | failure there | done _ there | overdue there
  | sent _ there =>
    rw [reader] at there
    cases there

/-- Such a pump need not wait, and once it has begun it ends. -/
theorem step_of_left {p : Pump} (reader : p.pipe.reader = false) (missing : p.pipe.isDelivered = false)
    (unfinished : p.result? = none) (now : Nat) :
    ∃ q, p.step now = some q ∧ (p.phase ≠ .created → q.result? = some .sinkClosed) := by
  have closed : p.finishClosed.result? = some .sinkClosed := by simp [finishClosed, missing, finish, result?]
  unfold step
  split
  · rename_i phase
    exact ⟨_, rfl, fun begun => absurd phase begun⟩
  · exact ⟨p.finishClosed, by simp [stepWaiting, reader], fun _ => closed⟩
  · exact ⟨p.finishClosed, by simp [stepHolding, Pipe.send, Pipe.readiness, reader], fun _ => closed⟩
  · refine ⟨_, rfl, fun _ => ?_⟩
    rw [stepHanding, Pipe.sendTrailers_of_refused (.inl reader)]
    rfl
  · rename_i result phase
    simp [result?, phase] at unfinished

end Pump

namespace Exchange

variable {x y : Exchange} {announced : BodyLength} {offered taken : List Item} {t : Transfer}
  {allowed : Rejection → Prop}

/-- The client has left with something missing, and the relay at work has not noticed. -/
structure Unnoticed (t : Transfer) (x : Exchange) : Prop where
  handler : x.handler = .returned
  client : x.clientBody = none
  relay : x.relay = some t
  running : t.running = true
  reader : t.pump.pipe.reader = false
  missing : t.pump.pipe.isDelivered = false
  unfinished : t.pump.result? = none
  unset : x.guard.outcome = none

/-- The client has left, and the request fails, with one of the allowed failures. -/
inductive Departed (allowed : Rejection → Prop) (x : Exchange) : Prop where
  | unnoticed {t : Transfer} (h : Unnoticed t x)
  | failed {failure : Rejection} (outcome : x.guard.outcome = some (.failed failure)) (allows : allowed failure)

/-- The failures of a request whose client left: that it left, that the request body broke off meanwhile, or what had
failed before. -/
def AfterLeaving (before : Option Outcome) (failure : Rejection) : Prop :=
  failure = .clientLeft ∨ (∃ cause, failure = .requestBody cause) ∨ before = some (.failed failure)

/-! ## After the client left -/

/-- A relay whose client left fails the request for that, where nothing was recorded before. -/
theorem outcome_endRelay_sinkClosed (t : Transfer) (unset : x.guard.outcome = none) :
    (x.endRelay t .sinkClosed).guard.outcome = some (.failed .clientLeft) :=
  outcome_failRelay_of_unset (x := x.trace .clientLeft) unset t .clientLeft

namespace Unnoticed

/-- Nothing keeps the relay from going on. -/
theorem unfailed (h : Unnoticed t x) (hs : x.Sound) : x.guard.awaitFailure = none := by
  rw [hs.signalled.awaitFailure, Guard.failure, h.unset]

/-- The relay begins, or notices and fails the request. -/
theorem moves {now : Nat} (h : Unnoticed t x) (hs : x.Sound) (hy : RelayMoves x now y) :
    (∃ u, Unnoticed u y) ∨ y.guard.outcome = some (.failed .clientLeft) := by
  cases hy with
  | cancels _ _ recorded =>
    rw [h.unfailed hs] at recorded
    cases recorded
  | @goesOn u pump hu running step unfinished =>
    obtain rfl : t = u := Option.some.inj (h.relay.symm.trans hu)
    have phase := Pump.move_of_left h.reader h.missing (Pump.move_of_step step)
    -- only a pump that had not begun goes on
    left
    obtain ⟨pipe, -⟩ := phase.resolve_right (by simp [unfinished])
    refine ⟨{ t with pump }, { h with relay := rfl, reader := ?_, missing := ?_, unfinished := unfinished }⟩
    · show pump.pipe.reader = false
      rw [pipe, h.reader]
    · show pump.pipe.isDelivered = false
      rw [pipe, h.missing]
  | @ends u pump result hu running step ended =>
    obtain rfl : t = u := Option.some.inj (h.relay.symm.trans hu)
    have phase := Pump.move_of_left h.reader h.missing (Pump.move_of_step step)
    right
    rw [ended] at phase
    rcases phase with ⟨-, unfinished⟩ | closed
    · cases unfinished
    · cases closed
      exact outcome_endRelay_sinkClosed _ h.unset

/-- The relay does what its pump does. -/
theorem stepRelay_eq {now : Nat} {pump : Pump} (h : Unnoticed t x) (hs : x.Sound) (step : t.pump.step now = some pump) :
    x.stepRelay now = some (match pump.result? with
      | none => { x with relay := some { t with pump } }
      | some result => x.endRelay { t with pump } result) := by
  have uncancelled : x.cancelRelay = none := by
    unfold cancelRelay
    rw [h.unfailed hs]
    split <;> simp_all
  rw [Exchange.stepRelay, uncancelled, moveRelay_of_step h.relay h.running step]
  rfl

/-- The relay need not wait, and once it has begun it notices. -/
theorem exists_stepRelay (h : Unnoticed t x) (hs : x.Sound) (now : Nat) :
    ∃ y, x.stepRelay now = some y
      ∧ (t.pump.phase ≠ .created → y.guard.outcome = some (.failed .clientLeft)) := by
  obtain ⟨pump, step, closes⟩ := Pump.step_of_left h.reader h.missing h.unfinished now
  refine ⟨_, h.stepRelay_eq hs step, fun begun => ?_⟩
  rw [closes begun]
  exact outcome_endRelay_sinkClosed _ h.unset

/-- Whatever happens next, the relay still has to notice, or the request has failed. -/
theorem step {e : Event} (h : Unnoticed t x) (hs : x.Sound) (left : allowed .clientLeft)
    (upload : ∀ cause, allowed (.requestBody cause)) (step : Step x e y) : Departed allowed y := by
  cases step.after (by rw [h.handler, HandlerPhase.isOpen]) with
  | headed handler =>
    rw [h.handler] at handler
    cases handler
  | read hy => simp [clientRead, h.client] at hy
  | left hy => simp [dropResponse, h.client] at hy
  | push item =>
    unfold pushResponse
    simp only [h.relay]
    exact .unnoticed (t := { t with pump := t.pump.push item }) { h with relay := rfl }
  | relay moves =>
    rcases h.moves hs moves with ⟨u, hu⟩ | failed
    · exact .unnoticed hu
    · exact .failed failed left
  | apart handler relay client outcome =>
    -- the upload may be quicker than the relay
    rcases outcome with same | ⟨-, cause, failed⟩
    · exact .unnoticed { h with
        handler := handler.trans h.handler
        client := client.trans h.client
        relay := relay.trans h.relay
        unset := same.trans h.unset }
    · exact .failed failed (upload cause)

end Unnoticed

namespace Departed

theorem step {e : Event} (h : Departed allowed x) (hs : x.Sound) (left : allowed .clientLeft)
    (upload : ∀ cause, allowed (.requestBody cause)) (step : Step x e y) : Departed allowed y := by
  cases h with
  | unnoticed h => exact h.step hs left upload step
  | failed outcome allows => exact .failed (hs.outcome_step step outcome) allows

theorem run {es : List Event} (h : Departed allowed x) (hs : x.Sound) (left : allowed .clientLeft)
    (upload : ∀ cause, allowed (.requestBody cause)) (run : Run x es y) : y.Sound ∧ Departed allowed y :=
  run.invariant (I := fun _ y => y.Sound ∧ Departed allowed y) ⟨hs, h⟩
    fun hz step => ⟨hz.1.step step, hz.2.step hz.1 left upload step⟩

/-- A request whose client left has not ended well. -/
theorem not_completed (h : Departed allowed x) : x.guard.outcome ≠ some .completed := by
  intro completed
  cases h with
  | unnoticed h =>
    rw [h.unset] at completed
    cases completed
  | failed outcome =>
    rw [completed] at outcome
    cases outcome

/-- The relay has something to do until a failure is recorded. -/
theorem failed_of_blocked (h : Departed allowed x) (hs : x.Sound) {now : Nat} (blocked : x.Blocked now) :
    ∃ failure, x.guard.outcome = some (.failed failure) ∧ allowed failure := by
  cases h with
  | failed outcome allows => exact ⟨_, outcome, allows⟩
  | unnoticed h =>
    obtain ⟨y, hy, -⟩ := h.exists_stepRelay hs now
    obtain ⟨-, -, relay_blocked, -⟩ := blocked_iff.1 blocked
    rw [hy] at relay_blocked
    cases relay_blocked

/-- The relay needs nobody else to fail the request. -/
theorem fails (h : Departed allowed x) (hs : x.Sound) (left : allowed .clientLeft) (now : Nat) :
    ∃ gs y, Run x gs y ∧ (∀ g ∈ gs, g = .relayStepped now)
      ∧ ∃ failure, y.guard.outcome = some (.failed failure) ∧ allowed failure := by
  cases h with
  | failed outcome allows => exact ⟨[], x, .refl, by simp, _, outcome, allows⟩
  | @unnoticed t h =>
    by_cases begun : t.pump.phase = .created
    · -- it begins, and notices then
      have step : t.pump.step now = some { t.pump with phase := .waiting now } := by simp [Pump.step, begun]
      have first : Step x (.relayStepped now)
          { x with relay := some { t with pump := { t.pump with phase := .waiting now } } } :=
        .relay (h.stepRelay_eq hs step)
      have next : Unnoticed { t with pump := { t.pump with phase := .waiting now } }
          { x with relay := some { t with pump := { t.pump with phase := .waiting now } } } :=
        { h with relay := rfl, unfinished := rfl }
      obtain ⟨y, hy, notices⟩ := next.exists_stepRelay (hs.step first) now
      exact ⟨_, y, (Run.single first).trans (.single (.relay hy)), by simp, _, notices (by simp), left⟩
    · obtain ⟨y, hy, notices⟩ := h.exists_stepRelay hs now
      exact ⟨_, y, .single (.relay hy), by simp, _, notices begun, left⟩

end Departed

/-! ## When the client leaves -/

/-- A client that leaves with some bytes it has not read, and without those announced. -/
structure LeftEarly (announced : BodyLength) (offered taken : List Item) : Prop where
  unread : ∃ chunk ∈ (chunks (frames offered)).drop (chunks taken).length, chunk ≠ []
  short : ∀ length, announced = .known length → (chunks taken).flatten.length < length

theorem not_isDelivered_of_short {p : Pipe} (remaining : p.remaining = announced.consume (chunks taken).flatten.length)
    (short : ∀ length, announced = .known length → (chunks taken).flatten.length < length) :
    p.isDelivered = false := by
  unfold Pipe.isDelivered
  rw [remaining]
  cases announced with
  | unknown => rfl
  | known length =>
    have missing : length - (chunks taken).flatten.length ≠ 0 := Nat.sub_ne_zero_of_lt (short length rfl)
    simpa [BodyLength.consume] using missing

/-- The client leaves the response of a relay only by giving its body up. -/
theorem Relays.left {w : Exchange} (h : Relays announced offered taken t x) (leaves : Step x .clientLeft w) :
    t.pump.pipe.reader = true ∧ w.handler = .returned ∧ w.clientBody = none ∧ w.guard = x.guard
      ∧ w.relay = some { t with pump := { t.pump with pipe := t.pump.pipe.closeReader } } := by
  cases leaves with
  | leave hw =>
    unfold dropClient dropResponse at hw
    cases h.readingEnd with
    | held handler client => simp [isWaiting, handler, client] at hw
    | client handler client there =>
      simp only [isWaiting, handler, client, h.relay, Option.map_some, Bool.false_eq_true, if_false,
        Option.some.injEq] at hw
      rw [← hw]
      exact ⟨there, rfl, rfl, rfl, rfl⟩
    | left handler client => simp [isWaiting, handler, client] at hw

/-- A request that has not ended well does not when its client leaves early. -/
theorem Relays.departs {w : Exchange} (h : Relays announced offered taken t x) (early : LeftEarly announced offered taken)
    (unended : x.guard.outcome ≠ some .completed) (leaves : Step x .clientLeft w) :
    Departed (AfterLeaving x.guard.outcome) w := by
  obtain ⟨there, handler, client, guard, relay⟩ := h.left leaves
  cases h.delivery with
  | flowing running flow =>
    rcases ho : x.guard.outcome with _ | _ | failure
    · exact .unnoticed {
        handler, client, relay, running
        reader := rfl
        missing := not_isDelivered_of_short flow.remaining early.short
        unfinished := flow.unfinished
        unset := by rw [guard, ho] }
    · exact absurd ho unended
    · exact .failed (by rw [guard, ho]) (.inr (.inr rfl))
  | whole running completed => exact absurd completed unended
  | broken running failed =>
    obtain ⟨failure, hf⟩ := failed
    exact .failed (by rw [guard, hf]) (.inr (.inr hf))
  | left reader =>
    rw [there] at reader
    cases reader

/-- The relay has ended, and one chunk waits in its pipe with nothing behind it. -/
def EndedUnread (x : Exchange) : Prop :=
  ∃ t last, x.relay = some t ∧ t.running = false ∧ t.pump.pipe.queue = [.ok last]

/-- If a request has ended well while its client has not read everything, the relay has seen the end of the backend's
body, and the last chunk waits in the pipe. -/
theorem Relays.waits (h : Relays announced offered taken t x) (hs : x.Sound) (there : t.pump.pipe.reader = true)
    (early : LeftEarly announced offered taken) (ended : x.guard.outcome = some .completed) :
    x.EndedUnread ∧ frames offered ++ [.done] <+: offered
      ∧ ∃ last, last ≠ [] ∧ chunks (frames offered) = chunks taken ++ [last] := by
  cases h.delivery with
  | flowing running =>
    exact absurd ended (hs.streaming h.relay running).2
  | @whole pulled n running outcome more source stream single =>
    have all : chunks pulled = chunks taken ++ chunks (t.pump.pipe.queue.map Pipe.entry) := by
      have hc := congrArg chunks stream
      rw [chunks_append, chunks_append, chunks_trailers_done, chunks_map_data, List.append_nil, Pipe.chunks_items] at hc
      exact hc.symm
    rw [frames_eq more rfl source]
    obtain ⟨last, unread, nonempty⟩ := early.unread
    rw [frames_eq more rfl source, all, List.drop_left] at unread
    -- one chunk at most waits in the pipe, and this one does
    match hq : t.pump.pipe.queue with
    | [] => simp [hq] at unread
    | [.error cause] => simp [hq, Pipe.entry, chunks, Item.chunk?] at unread
    | [.ok bytes] =>
      obtain rfl : last = bytes := by simpa [hq, Pipe.entry, chunks, Item.chunk?] using unread
      refine ⟨⟨t, last, h.relay, running, hq⟩, source, last, nonempty, ?_⟩
      rw [all, hq]
      rfl
    | _ :: _ :: _ => simp [hq] at single
  | broken running failed =>
    obtain ⟨failure, hf⟩ := failed
    rw [ended] at hf
    cases hf
  | left reader =>
    rw [there] at reader
    cases reader

/-- Behind a failure that waits there is no chunk, and behind one that was taken there is none either. -/
theorem not_single_of_failure {rest : List Item} {sent : List Bytes} {cause : Cause} {p : Pipe} {last : Bytes}
    (stream : taken ++ p.items = sent.map .data ++ .failure cause :: rest) (tail : chunks rest = []) :
    p.queue ≠ [.ok last] := by
  intro queue
  have items : p.items = .data last :: if p.writer then [] else p.trailers.toList.map .trailers ++ [.done] := by
    simp [Pipe.items, queue, Pipe.entry]
  rcases List.append_eq_append_iff.1 stream with ⟨ahead, -, waiting⟩ | ⟨behind, -, waiting⟩
  · have failure : Item.failure cause ∈ p.items := by
      rw [waiting]
      simp
    rw [items] at failure
    split at failure <;> simp at failure
  · cases behind with
    | nil =>
      rw [items] at waiting
      cases waiting
    | cons first behind =>
      obtain ⟨-, waiting⟩ := List.cons.inj waiting
      have none : chunks (behind ++ p.items) = [] := (congrArg chunks waiting).symm.trans tail
      rw [chunks_append, items] at none
      simp [chunks, Item.chunk?] at none

/-- A relay that ended with a chunk in its pipe and nothing behind it has ended the request well. -/
theorem Relays.completed_of_endedUnread (h : Relays announced offered taken t x) (there : t.pump.pipe.reader = true)
    (unread : x.EndedUnread) : x.guard.outcome = some .completed := by
  obtain ⟨u, last, hu, stopped, queue⟩ := unread
  obtain rfl : t = u := Option.some.inj (h.relay.symm.trans hu)
  cases h.delivery with
  | flowing running =>
    rw [stopped] at running
    cases running
  | whole _ outcome => exact outcome
  | broken _ _ _ _ _ stream tail => exact absurd queue (not_single_of_failure stream tail)
  | left reader =>
    rw [there] at reader
    cases reader

/-! ## Every run -/

/-- A client that leaves early does not end the request well, unless the relay has seen the end of the backend's body with
the last chunk in the pipe. Otherwise the relay fails the request, and it comes to rest as one whose client left or with
what was recorded first. -/
theorem Run.leaving {start z w : Exchange} {es fs : List Event} {e : Event} (fresh : start.Fresh)
    (before : Run start es x) (begins : Step x e y) (hx : x.relay = none) (hy : y.relay ≠ none) (after : Run y fs z)
    (leaves : Step z .clientLeft w) :
    ∃ response, x.backendAnswer = some (.ok response)
      ∧ (LeftEarly response.head.headers.bodyLength (response.body.items ++ offersOf fs) (takesOf fs) →
        ((∀ gs v, Run w gs v → v.guard.outcome ≠ some .completed ∧ .traced .answerEnded ∉ v.log) ↔ ¬z.EndedUnread)
        ∧ (¬z.EndedUnread → ∀ gs v now, Run w gs v →
            (v.Blocked now → ∃ failure, v.guard.outcome = some (.failed failure) ∧ AfterLeaving z.guard.outcome failure)
              ∧ ∃ hs u, Run v hs u ∧ (∀ h ∈ hs, h = .relayStepped now)
                ∧ ∃ failure, u.guard.outcome = some (.failed failure) ∧ AfterLeaving z.guard.outcome failure)
        ∧ (z.EndedUnread → z.guard.outcome = some .completed
            ∧ frames (response.body.items ++ offersOf fs) ++ [.done] <+: response.body.items ++ offersOf fs
            ∧ ∃ last, last ≠ []
              ∧ chunks (frames (response.body.items ++ offersOf fs)) = chunks (takesOf fs) ++ [last])) := by
  obtain ⟨t, ht⟩ := Option.ne_none_iff_exists'.1 hy
  obtain ⟨response, answered, relays⟩ := begins.relays (before.sound fresh) hx ht
  have sound : y.Sound := (before.sound fresh).step begins
  obtain ⟨zs, u, hu⟩ := relays.run sound after
  rw [List.nil_append] at hu
  have ws : w.Sound := zs.step leaves
  have there : u.pump.pipe.reader = true := (hu.left leaves).1
  refine ⟨response, answered, fun early => ?_⟩
  have completed_iff : z.guard.outcome = some .completed ↔ z.EndedUnread :=
    ⟨fun ended => (hu.waits zs there early ended).1, hu.completed_of_endedUnread there⟩
  -- every state from then on, if the request has not ended well
  have departed (unended : ¬z.EndedUnread) {gs : List Event} {v : Exchange} (later : Run w gs v) :
      v.Sound ∧ Departed (AfterLeaving z.guard.outcome) v :=
    (hu.departs early (mt completed_iff.1 unended) leaves).run ws (.inl rfl) (fun cause => .inr (.inl ⟨cause, rfl⟩)) later
  refine ⟨⟨?_, ?_⟩, ?_, ?_⟩
  · intro never unread
    exact (never [] w .refl).1 (zs.outcome_step leaves (completed_iff.2 unread))
  · intro unended gs v later
    obtain ⟨vs, hv⟩ := departed unended later
    exact ⟨hv.not_completed, fun ended => hv.not_completed (vs.answerEnded ended)⟩
  · intro unended gs v now later
    obtain ⟨vs, hv⟩ := departed unended later
    exact ⟨fun blocked => hv.failed_of_blocked vs blocked, hv.fails vs (.inl rfl) now⟩
  · intro unread
    obtain ⟨-, all, one⟩ := hu.waits zs there early (completed_iff.2 unread)
    exact ⟨completed_iff.2 unread, all, one⟩

/-! ## A client that leaves without the one chunk there is -/

/-- A request whose backend answers with a body of one chunk. -/
def oneChunkAsked : Exchange :=
  towards (.forward ⟨"backend", 80, "/", ""⟩) (Headers.empty.insert .host .zero) (.buffered [])

def oneChunkAnswered : List Event :=
  [.arrived ⟨0⟩, .resolverAllowed, .handlerStepped 0, .backendAnswered (.ok oneChunk), .handlerStepped 0,
    .handlerStepped 0]

/-- Whether the client can leave after some events of the relay, with this outcome. -/
def leavesAfter (fs : List Event) (o : Option Outcome) : Bool :=
  (oneChunkAnswered.foldlM perform oneChunkAsked).any fun x =>
    x.relay.isNone
      ∧ ((x.backendAnswer.bind Except.toOption).all fun response =>
          response.head.headers.bodyLength = .unknown ∧ response.body.items = [.data [1], .done])
      ∧ (x.perform (.handlerStepped 0)).any fun y => y.relay.isSome
        ∧ (fs.foldlM perform y).any fun z => z.guard.outcome = o ∧ (z.perform .clientLeft).isSome

/-- A client that took nothing of the chunk leaves early. -/
theorem leftEarly_of_leavesAfter (fs : List Event) (o : Option Outcome) (takes : takesOf fs = [])
    (offers : offersOf fs = []) (h : leavesAfter fs o = true) :
    ∃ x y z w, Run oneChunkAsked oneChunkAnswered x ∧ Step x (.handlerStepped 0) y ∧ x.relay = none ∧ y.relay ≠ none
      ∧ Run y fs z ∧ Step z .clientLeft w ∧ z.guard.outcome = o
      ∧ ∀ response, x.backendAnswer = some (.ok response) →
        LeftEarly response.head.headers.bodyLength (response.body.items ++ offersOf fs) (takesOf fs) := by
  obtain ⟨x, hx, h⟩ := (Option.any_eq_true _ _).1 h
  obtain ⟨none, answer, h⟩ := of_decide_eq_true h
  obtain ⟨y, hy, h⟩ := (Option.any_eq_true _ _).1 h
  obtain ⟨some, h⟩ := of_decide_eq_true h
  obtain ⟨z, hz, h⟩ := (Option.any_eq_true _ _).1 h
  obtain ⟨outcome, h⟩ := of_decide_eq_true h
  obtain ⟨w, hw⟩ := Option.isSome_iff_exists.1 h
  refine ⟨x, y, z, w, run_of_perform hx, step_of_perform hy, Option.isNone_iff_eq_none.1 none,
    Option.isSome_iff_ne_none.1 some, run_of_perform hz, step_of_perform hw, outcome, fun response answered => ?_⟩
  simp only [answered, Option.bind_some, Except.toOption, Option.all_some, decide_eq_true_eq] at answer
  obtain ⟨length, items⟩ := answer
  rw [length, items, takes, offers]
  exact ⟨⟨[1], by decide, by decide⟩, by simp⟩

/-- While the relay has not seen the end of the body, such a request does not end well. -/
theorem leaving_oneChunk : ∃ x y fs z w, oneChunkAsked.Fresh ∧ Run oneChunkAsked oneChunkAnswered x
    ∧ Step x (.handlerStepped 0) y ∧ x.relay = none ∧ y.relay ≠ none ∧ Run y fs z ∧ Step z .clientLeft w
    ∧ z.guard.outcome = none
    ∧ ∀ gs v, Run w gs v → v.guard.outcome ≠ some .completed ∧ .traced .answerEnded ∉ v.log := by
  let fs : List Event := [.handlerStepped 0, .relayStepped 0, .relayStepped 0, .clientRead none, .relayStepped 0]
  obtain ⟨x, y, z, w, before, begins, idle, atWork, after, leaves, unset, early⟩ :=
    leftEarly_of_leavesAfter fs none rfl rfl (by decide +kernel)
  have fresh : oneChunkAsked.Fresh := fresh_towards _ _ _
  obtain ⟨response, answered, left⟩ := Run.leaving fresh before begins idle atWork after leaves
  obtain ⟨never, -, unread⟩ := left (early response answered)
  refine ⟨x, y, fs, z, w, fresh, before, begins, idle, atWork, after, leaves, unset, never.2 fun h => ?_⟩
  rw [(unread h).1] at unset
  cases unset

/-- Once it has seen the end, the request has ended well, though the client leaves without the chunk. -/
theorem completed_without_oneChunk : ∃ x y fs z w, oneChunkAsked.Fresh ∧ Run oneChunkAsked oneChunkAnswered x
    ∧ Step x (.handlerStepped 0) y ∧ x.relay = none ∧ y.relay ≠ none ∧ Run y fs z ∧ Step z .clientLeft w
    ∧ (∀ response, x.backendAnswer = some (.ok response) →
        LeftEarly response.head.headers.bodyLength (response.body.items ++ offersOf fs) (takesOf fs))
    ∧ w.guard.outcome = some .completed := by
  let fs : List Event := [.handlerStepped 0, .relayStepped 0, .relayStepped 0, .clientRead none, .relayStepped 0,
    .relayStepped 0]
  obtain ⟨x, y, z, w, before, begins, idle, atWork, after, leaves, completed, early⟩ :=
    leftEarly_of_leavesAfter fs (some .completed) rfl rfl (by decide +kernel)
  have fresh : oneChunkAsked.Fresh := fresh_towards _ _ _
  have sound : z.Sound := ((before.snoc begins).trans after).sound fresh
  exact ⟨x, y, fs, z, w, fresh, before, begins, idle, atWork, after, leaves, early, sound.outcome_step leaves completed⟩

end Exchange

end Gateway
