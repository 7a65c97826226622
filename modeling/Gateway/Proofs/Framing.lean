import Gateway.Proofs.Arrival
import Gateway.Proofs.Delivery.Relay
import Gateway.Proofs.Gate.Calls

/-!
# Where a message that is passed on says it ends

The length of a body that is passed on is known from one place, the header fields that say it come from another: the
fields are copied, the length of a body that is there is counted, and that of a streamed one is read from the fields of
the message that came in. The two agree for every body that is there with some data and not chunked. Otherwise they
agree only if the message that came in was consistent: what it lists as a matter of its connection is dropped, but a
`content-length` beside `chunked`, a second one, or one that is no number, is passed on.

The main theorem is `Step.framing`: the exact condition, for every request that is sent to a backend and for every
response whose body a relay moves.
-/

namespace Gateway

/-- A value that is a number in decimal digits, or is read as one. -/
def HeaderValue.Says (v : HeaderValue) (n : Nat) : Prop := v = .ofNat n ∨ v.number? = some n

namespace Headers

variable {sent source : Headers} {length : Option Nat}

/-- The lengths a message announces to the next hop as well. -/
def keptLengths (source : Headers) : List HeaderValue :=
  if source.isEndToEnd .contentLength then source.values .contentLength else []

/-- The fields that are sent for a message agree with the length of the body that is sent. -/
structure Framed (sent source : Headers) (length : Option Nat) : Prop where
  /-- a `content-length` is one value, and it is the length -/
  single : sent.values .contentLength = [] ∨ ∃ v n, sent.values .contentLength = [v] ∧ length = some n ∧ v.Says n
  /-- a chunked message goes without -/
  chunked : source.isChunked → sent.values .contentLength = []

/-- A message whose fields can be passed on beside a streamed body. -/
def Streamable (source : Headers) : Prop :=
  source.keptLengths = []
    ∨ (source.isChunked = false ∧ ∃ v n, source.keptLengths = [v] ∧ v.number? = some n)

theorem toOption_eq_some_iff {l : BodyLength} {n : Nat} : l.toOption = some n ↔ l = .known n := by
  cases l <;> simp [BodyLength.toOption]

/-- Copied fields agree with a streamed body exactly if the message that came in could be passed on. -/
theorem framed_streamed_iff (hs : sent.values .contentLength = source.keptLengths) :
    sent.Framed source source.bodyLength.toOption ↔ source.Streamable := by
  constructor
  · rintro ⟨none | ⟨v, n, hv, hl, -⟩, -⟩
    · exact .inl (hs ▸ none)
    · right
      rw [hs] at hv
      obtain ⟨hc, w, hw, hn⟩ := bodyLength_eq_known_iff.1 (toOption_eq_some_iff.1 hl)
      have first : source.values .contentLength = [v] := by
        unfold keptLengths at hv
        split at hv
        · exact hv
        · cases hv
      obtain rfl : v = w := by simpa [get?, first] using hw
      exact ⟨hc, v, n, hv, hn⟩
  · rintro (none | ⟨hc, v, n, hv, hn⟩)
    · exact ⟨.inl (hs.trans none), fun _ => hs.trans none⟩
    · have first : source.get? .contentLength = some v := by
        unfold keptLengths at hv
        split at hv
        · simp [get?, hv]
        · cases hv
      have hl : source.bodyLength = .known n := bodyLength_eq_known_iff.2 ⟨hc, v, first, hn⟩
      refine ⟨.inr ⟨v, n, hs.trans hv, by rw [hl]; rfl, .inr hn⟩, fun h => ?_⟩
      rw [hc] at h
      cases h

/-- Beside a body that is there, a length that was counted always agrees; a copied one agrees if it does by chance. -/
theorem framed_complete_iff {bytes : Bytes}
    (hs : sent.values .contentLength
      = if !bytes.isEmpty && !source.isChunked then [.ofNat bytes.length] else source.keptLengths) :
    sent.Framed source (some bytes.length)
      ↔ (bytes ≠ [] ∧ source.isChunked = false) ∨ source.keptLengths = []
        ∨ (source.isChunked = false ∧ ∃ v, source.keptLengths = [v] ∧ v.Says bytes.length) := by
  by_cases counted : bytes ≠ [] ∧ source.isChunked = false
  · have hv : sent.values .contentLength = [.ofNat bytes.length] := by simpa [counted] using hs
    refine ⟨fun _ => .inl counted, fun _ => ⟨.inr ⟨_, _, hv, rfl, .inl rfl⟩, fun h => ?_⟩⟩
    rw [counted.2] at h
    cases h
  · have hv : sent.values .contentLength = source.keptLengths := by
      rw [hs, if_neg]
      simpa using counted
    constructor
    · rintro ⟨none | ⟨v, n, hone, hl, hsays⟩, chunked⟩
      · exact .inr (.inl (hv ▸ none))
      · cases hl
        refine .inr (.inr ⟨?_, v, hv ▸ hone, hsays⟩)
        cases hc : source.isChunked with
        | false => rfl
        | true =>
          rw [chunked hc] at hone
          cases hone
    · rintro (h | none | ⟨hc, v, hone, hsays⟩)
      · exact absurd h counted
      · exact ⟨.inl (hv.trans none), fun _ => hv.trans none⟩
      · refine ⟨.inr ⟨v, _, hv.trans hone, rfl, hsays⟩, fun h => ?_⟩
        rw [hc] at h
        cases h

end Headers

namespace Exchange

variable {x y : Exchange}

/-! ## The request -/

/-- The length of the body the backend was handed: that of the bytes that are there, or what the pipe was told. -/
def HandedOver (inbound : InboundBody) (y : Exchange) (length : Option Nat) : Prop :=
  match inbound.complete? with
  | some bytes => y.backendBody = some (.complete (.full bytes)) ∧ length = some bytes.length
  | none => y.backendBody = some .uploaded ∧ length = y.head.headers.bodyLength.toOption
      ∧ ∃ t, y.upload = some t ∧ t.pump.pipe = Pipe.new y.head.headers.bodyLength true

/-- A request whose fields and body can be passed on and agree. -/
def Sendable (inbound : InboundBody) (source : Headers) : Prop :=
  match inbound.complete? with
  | some bytes => (bytes ≠ [] ∧ source.isChunked = false) ∨ source.keptLengths = []
      ∨ (source.isChunked = false ∧ ∃ v, source.keptLengths = [v] ∧ v.Says bytes.length)
  | none => source.Streamable

/-- The requests to backends. -/
def requests (x : Exchange) : List Observation := x.log.filter fun
  | .forwarded .. => true
  | _ => false

theorem mem_requests {head : RequestHead} {ended : Bool} {length : Option Nat} :
    .forwarded head ended length ∈ x.requests ↔ .forwarded head ended length ∈ x.log := by
  simp [requests]

/-- Where no backend is called, no request is sent. -/
theorem requests_of_calls (h : y.calls = x.calls) : y.requests = x.requests := by
  have among (z : Exchange) : z.requests = z.calls.filter fun
      | .forwarded .. => true
      | _ => false := by
    unfold requests calls
    rw [List.filter_filter]
    congr 1
    funext o
    cases o <;> rfl
  rw [among, among, h]

theorem requests_send (x : Exchange) (now : Nat) (head : RequestHead) :
    (x.send now head).requests = x.requests ++ [.forwarded head x.backendView.1 x.backendView.2] := by
  show ((x.trace (.forwardStarted head.method head.uri head.headers)).observe (.forwarded head _ _)).requests = _
  rw [← requests_of_calls (calls_trace x (.forwardStarted head.method head.uri head.headers))]
  exact List.filter_append ..

theorem handedOver_send {inbound : InboundBody} {length : Option Nat} (h : HandedOver inbound x length) (now : Nat)
    (head : RequestHead) : HandedOver inbound (x.send now head) length := h

theorem head_send (x : Exchange) (now : Nat) (head : RequestHead) : (x.send now head).head = x.head := rfl

theorem exactLength_full (bytes : Bytes) : (Body.full bytes).exactLength = some bytes.length := by
  unfold Body.full
  cases bytes <;> rfl

theorem streamed_of_complete?_none {inbound : InboundBody} (h : inbound.complete? = none) :
    ∃ body, inbound = .streamed body := by
  cases inbound with
  | buffered bytes => cases h
  | streamed body => exact ⟨body, rfl⟩

theorem handOver_of_complete {bytes : Bytes} (hc : x.inbound.complete? = some bytes) (headers : Headers) :
    x.handOver headers =
      ({ x with
          bodyComplete := true
          inbound := x.inbound.release
          backendBody := some (.complete (.full bytes)) }.trace (.requestEnded bytes.length),
        if !bytes.isEmpty && !x.head.headers.isChunked then headers.insert .contentLength (.ofNat bytes.length)
        else headers) := by
  simp [handOver, hc]

theorem handOver_of_streamed {body : Body} (hc : x.inbound.complete? = none) (hb : x.inbound = .streamed body)
    (headers : Headers) :
    x.handOver headers =
      ({ x with
          inbound := .buffered []
          upload := some { pump := Pump.new none body (Pipe.new x.head.headers.bodyLength true), running := true }
          backendBody := some .uploaded }, headers) := by
  rw [hb] at hc
  simp [handOver, hb, hc]

/-- What is sent: its head, and what is known of its body. -/
theorem handOver_spec (x : Exchange) {target : Target} {host : String} {uri : Uri} {headers : Headers}
    (ho : outboundHead x.context target host "http" x.head.headers = .ok (uri, headers)) :
    HandedOver x.inbound (x.handOver headers).1 (x.handOver headers).1.backendView.2
      ∧ (x.handOver headers).2.values .contentLength = match x.inbound.complete? with
        | some bytes =>
          if !bytes.isEmpty && !x.head.headers.isChunked then [.ofNat bytes.length] else x.head.headers.keptLengths
        | none => x.head.headers.keptLengths := by
  have kept : headers.values .contentLength = x.head.headers.keptLengths :=
    values_outboundHead_of_ne ho (by decide) (by decide) (by decide) (by decide)
  unfold HandedOver
  cases hc : x.inbound.complete? with
  | some bytes =>
    rw [handOver_of_complete hc]
    refine ⟨⟨rfl, exactLength_full bytes⟩, ?_⟩
    dsimp only
    split
    · rw [Headers.values_insert, if_pos rfl]
    · exact kept
  | none =>
    obtain ⟨body, hb⟩ := streamed_of_complete?_none hc
    rw [handOver_of_streamed hc hb]
    exact ⟨⟨rfl, rfl, _, rfl, rfl⟩, kept⟩

/-! ### Steps of the handler -/

/-- The handler sends a request with the body as it has arrived so far. -/
def SentBy (x y : Exchange) : Prop :=
  ∃ (z : Exchange) (now : Nat) (target : Target) (host : String) (uri : Uri) (headers : Headers),
    z.inbound = x.inbound ∧ z.requests = x.requests
      ∧ outboundHead z.context target host "http" z.head.headers = .ok (uri, headers)
      ∧ y = (z.handOver headers).1.send now
        { method := z.head.method, uri, version := .http11, headers := (z.handOver headers).2 }

theorem requests_stepHandler {now : Nat} (hy : x.stepHandler now = some y) :
    y.requests = x.requests ∨ SentBy x y := by
  cases stepHandler_cases hy with
  | @resolved resolved _ _ _ _ _ next =>
    cases next with
    | refused => exact .inl (requests_of_calls (calls_reject _ _))
    | answered => exact .inl (requests_of_calls (calls_finish _ _ _))
    | hostless | keyless => exact .inl (requests_of_calls ((calls_reject _ _).trans (calls_trace _ _)))
    | socketFailed => exact .inl (requests_of_calls ((calls_failSocket _ _).trans (calls_trace _ _)))
    | socketAsked => left; simp [requests, trace, observe]
    | unsendable =>
      exact .inl (requests_of_calls ((calls_reject _ _).trans ((calls_trace _ _).trans (calls_trace _ _))))
    | @sent target host uri headers _ _ outbound =>
      exact .inr ⟨trace { x with head := resolved } (.hopResolved target), now, target, host, uri, headers, rfl,
        requests_of_calls (calls_trace _ _), outbound, rfl⟩
  | forwarded _ next => exact .inl (requests_of_calls next.calls)
  | failed => exact .inl (requests_of_calls ((calls_reject _ _).trans (calls_trace x _)))
  | responded next => exact .inl (requests_of_calls next.calls)
  | connected => exact .inl (requests_of_calls (calls_answerSocket _ _ _))

/-- For every request that is sent: what the backend is handed, and when its head agrees with that. -/
theorem Step.request_framing {e : Event} (step : Step x e y) {head : RequestHead} {ended : Bool} {length : Option Nat}
    (hx : .forwarded head ended length ∉ x.log) (hy : .forwarded head ended length ∈ y.log) :
    HandedOver x.inbound y length ∧ (head.headers.Framed y.head.headers length ↔ Sendable x.inbound y.head.headers) := by
  obtain ⟨now, hstep⟩ := step.observed rfl hx hy
  rw [← mem_requests] at hx hy
  rcases requests_stepHandler hstep with same | ⟨z, now, target, host, uri, headers, hin, hz, ho, rfl⟩
  · rw [same] at hy
    exact absurd hy hx
  · obtain ⟨handed, values⟩ := handOver_spec z ho
    rw [requests_send, requests_of_calls (calls_handOver _ _), hz, List.mem_append, List.mem_singleton] at hy
    rcases hy with hy | hy
    · exact absurd hy hx
    · cases hy
      rw [hin] at handed values
      refine ⟨handedOver_send handed _ _, ?_⟩
      rw [head_send, head_handOver]
      unfold HandedOver at handed
      unfold Sendable
      cases hc : x.inbound.complete? with
      | some bytes =>
        rw [hc] at handed values
        rw [handed.2]
        exact Headers.framed_complete_iff values
      | none =>
        rw [hc] at handed values
        rw [handed.2.1, head_handOver]
        exact Headers.framed_streamed_iff values

/-! ## The response -/

/-- A head that was composed, with the head of the response it was composed from, which is still to be passed on. -/
def ComposedFrom (x : Exchange) : Prop :=
  ∀ head, x.handler = .composed head → ∃ source mustClose, x.HoldsResponse source
    ∧ head.headers = relayedHeaders x.profile.idle x.context mustClose source.headers

theorem Step.composedFrom {e : Event} (step : Step x e y) (hs : y.Sound) (h : x.ComposedFrom) : y.ComposedFrom := by
  intro head phase
  cases step.turn with
  | aside frame =>
    obtain ⟨source, mustClose, holds, fields⟩ := h head (frame.handler ▸ phase)
    exact ⟨source, mustClose, frame.holds source holds, by rw [frame.profile, frame.context, fields]⟩
  | arrived => cases phase
  | deserted =>
    obtain ⟨_, _, _, _, same⟩ := touches_dropHandler x
    rw [same] at phase
    cases phase
  | handler moved =>
    obtain ⟨response, -, answer, -, relayed, -, kept⟩ := (stepHandler_cases moved).composes phase
    obtain ⟨-, answered, -⟩ := hs.holds (by rw [phase]; rfl)
    obtain ⟨⟨_, premises⟩, -⟩ := goesOn_stepHandler moved
    injection premises with profile _ context
    refine ⟨response.head, x.expectsContinue && !x.bodyComplete, ⟨answered, response, kept.trans answer, rfl⟩, ?_⟩
    rw [profile, context, relayed]
    rfl
  | upload moves =>
    obtain ⟨_, _, _, _, _, rfl⟩ := moves.touches
    exact h head phase
  | relay moves =>
    obtain ⟨_, _, _, rfl⟩ := moves.touches
    exact h head phase

theorem Run.composedFrom {start : Exchange} {es : List Event} (fresh : start.Fresh) (run : Run start es x) :
    x.ComposedFrom := by
  have idle : start.ComposedFrom := by
    intro head phase
    rw [fresh.idle.1] at phase
    cases phase
  induction run with
  | refl => exact idle
  | snoc run step ih => exact step.composedFrom ((run.sound fresh).step step) ih

/-- The head beside a body that a relay moves: the handler holds it, or it has gone out alone, with this length. -/
inductive GoesWith (head : ResponseHead) (length : Option Nat) (x : Exchange) : Prop where
  | held {t : Transfer} (handler : x.handler = .heading head .relayed) (client : x.clientBody = none)
      (relay : x.relay = some t) (known : t.pump.pipe.exactLength = length)
      (unheaded : ∀ head ended length, .answered head ended length ∉ x.log)
  | out (handler : x.handler = .returned)
      (only : ∀ head' ended length', .answered head' ended length' ∈ x.log → head' = head ∧ length' = length)

/-- A relay counts nothing off the length of its pipe. -/
theorem RelayMoves.exactLength {now : Nat} {t : Transfer} (moves : RelayMoves x now y) (hs : x.Sound)
    (hx : x.relay = some t) : ∃ u, y.relay = some u ∧ u.pump.pipe.exactLength = t.pump.pipe.exactLength := by
  have cancelled (u : Transfer) : u.cancel.pump.pipe.exactLength = u.pump.pipe.exactLength := by
    show u.pump.pipe.abort.exactLength = _
    rw [Pipe.abort_eq]
    rfl
  cases moves with
  | @cancels u _ hu =>
    obtain rfl : t = u := Option.some.inj (hx.symm.trans hu)
    exact ⟨t.cancel, (abandon_apart _).2.1, cancelled t⟩
  | @goesOn u pump hu _ step =>
    obtain rfl : t = u := Option.some.inj (hx.symm.trans hu)
    exact ⟨_, rfl, congrArg BodyLength.toOption (Pump.remaining_of_move (Pump.move_of_step step))⟩
  | @ends u pump result hu running step =>
    obtain rfl : t = u := Option.some.inj (hx.symm.trans hu)
    have unended := (hs.streaming hu running).2
    have same := congrArg BodyLength.toOption (Pump.remaining_of_move (Pump.move_of_step step))
    obtain ⟨-, -, ⟨-, relay, -⟩ | ⟨relay, -⟩⟩ := endRelay_cases (x := x) { t with pump } result unended
    · exact ⟨_, relay, same⟩
    · exact ⟨_, relay, (cancelled _).trans same⟩

/-- A handler that has returned has returned a head. -/
theorem Sound.exists_answered (h : x.Sound) (handler : x.handler = .returned) :
    ∃ head ended length, .answered head ended length ∈ x.log := by
  have told {head : ResponseHead} {ended : Bool} {length : Option Nat} (mem : .answered head ended length ∈ x.milestones) :
      ∃ head ended length, .answered head ended length ∈ x.log := ⟨head, ended, length, (mem_milestones rfl).1 mem⟩
  cases h.standing with
  | waiting phase => simp [handler] at phase
  | asking phase => simp [handler, HandlerPhase.isAsking] at phase
  | paged _ _ _ milestones => exact told (by rw [milestones]; exact List.mem_cons_of_mem _ (List.mem_singleton_self _))
  | streaming head | finished head | brokenOff head | overtaken head =>
    cases head with
    | held phase => simp [handler] at phase
    | first _ milestones => exact told (by rw [milestones]; exact List.mem_cons_self)
    | last _ milestones => exact told (by rw [milestones]; exact List.mem_append_right _ (List.mem_singleton_self _))
  | deserted phase => simp [handler] at phase
  | socketless _ _ _ _ milestones => exact told (by rw [milestones]; exact List.mem_singleton_self _)

/-- A handler that has returned has nothing left to do. -/
theorem Step.returned {e : Event} (step : Step x e y) (handler : x.handler = .returned) : y.handler = .returned := by
  cases step.after (by rw [handler, HandlerPhase.isOpen]) with
  | headed => rfl
  | read read =>
    obtain ⟨_, _, rfl⟩ := touches_clientRead read
    exact handler
  | left left =>
    obtain ⟨_, _, rfl⟩ := touches_dropResponse left
    exact handler
  | push item =>
    obtain ⟨_, _, _, same⟩ := touches_pushResponse x item
    rw [same]
    exact handler
  | relay moves =>
    obtain ⟨_, _, _, rfl⟩ := moves.touches
    exact handler
  | apart same => exact same.trans handler

namespace GoesWith

variable {head : ResponseHead} {length : Option Nat} {e : Event}

/-- The head goes out with the reading end of the pipe, of which nothing was read. -/
theorem headed {t : Transfer} (client : x.relay = some t) (known : t.pump.pipe.exactLength = length)
    (unheaded : ∀ head ended length, .answered head ended length ∉ x.log) :
    GoesWith head length (x.finishTraced head .relayed) := by
  have news {o : Observation} (ho : o ∈ (x.finishTraced head .relayed).log) :
      o ∈ x.log ∨ o = .traced (.answerHeaded head.status head.headers)
        ∨ o = .answered head t.pump.pipe.isEnded length := by
    simpa [finishTraced, finish, trace, observe, clientView, client, known] using ho
  refine .out rfl fun head' ended length' answered => ?_
  rcases news answered with old | traced | new
  · exact absurd old (unheaded _ _ _)
  · cases traced
  · cases new
    exact ⟨rfl, rfl⟩

theorem step (h : GoesWith head length x) (hs : x.Sound) (step : Step x e y) : GoesWith head length y := by
  cases h with
  | out handler only =>
    refine .out (step.returned handler) fun head' ended length' new => ?_
    by_cases old : .answered head' ended length' ∈ x.log
    · exact only head' ended length' old
    · obtain ⟨now, moved⟩ := step.observed rfl old new
      simp [stepHandler, handler] at moved
  | @held t handler client relay known unheaded =>
    -- the head goes out by the next step of the handler
    have silent (same : y.handler = x.handler) : ∀ head ended length, .answered head ended length ∉ y.log := by
      intro head' ended length' new
      obtain ⟨now, moved⟩ := step.observed rfl (unheaded _ _ _) new
      simp only [stepHandler, handler, Option.some.injEq] at moved
      rw [← moved, handler] at same
      cases same
    cases step.after (by rw [handler, HandlerPhase.isOpen]) with
    | headed phase =>
      rw [handler] at phase
      cases phase
      exact headed relay known unheaded
    | read read => simp [clientRead, client] at read
    | left left => simp [dropResponse, client] at left
    | push item =>
      simp only [pushResponse, relay] at silent ⊢
      exact .held (t := { t with pump := t.pump.push item }) handler client rfl known (silent trivial)
    | relay moves =>
      obtain ⟨u, hu, same⟩ := moves.exactLength hs relay
      obtain ⟨_, _, _, rfl⟩ := moves.touches
      exact .held handler client hu (same.trans known) (silent rfl)
    | apart same relaying held =>
      exact .held (same.trans handler) (held.trans client) (relaying.trans relay) known (silent same)

theorem run {es : List Event} (h : GoesWith head length x) (hs : x.Sound) (run : Run x es y) : GoesWith head length y :=
  (run.invariant (I := fun _ y => y.Sound ∧ GoesWith head length y) ⟨hs, h⟩
    fun hx step => ⟨hx.1.step step, hx.2.step hx.1 step⟩).2

end GoesWith

/-- What is sent for a response whose body is relayed: a head that was composed from it, and the length the pipe was made
for. -/
theorem Run.response_framing {start : Exchange} {es : List Event} {e : Event} (fresh : start.Fresh) (run : Run start es x)
    (step : Step x e y) {t : Transfer} (hx : x.relay = none) (hy : y.relay = some t) :
    ∃ response head, x.backendAnswer = some (.ok response)
      ∧ t.pump.pipe = Pipe.new response.head.headers.bodyLength true
      ∧ (head.headers.Framed response.head.headers t.pump.pipe.exactLength ↔ response.head.headers.Streamable)
      ∧ GoesWith head t.pump.pipe.exactLength y := by
  have sound : x.Sound := run.sound fresh
  obtain ⟨head, response, phase, answer, rfl⟩ := step.relay_begins hx (by simp [hy])
  cases hy
  have unanswered : x.Unanswered := sound.unanswered (by simp [phase, HandlerPhase.isOpen])
  obtain ⟨source, mustClose, ⟨-, held, answer', rfl⟩, fields⟩ := run.composedFrom fresh head phase
  obtain rfl : response = held := Except.ok.inj (Option.some.inj (answer.symm.trans answer'))
  refine ⟨response, head, answer, rfl, Headers.framed_streamed_iff ?_, .held rfl ?_ rfl rfl ?_⟩
  · rw [fields]
    exact values_relayedHeaders_of_ne _ _ _ _ (by decide) (by decide) (by decide)
  · exact unanswered.unclaimed
  · intro head' ended length answered
    have mem : .answered head' ended length ∈ x.milestones := (mem_milestones rfl).2 answered
    rw [unanswered.milestones] at mem
    cases mem

/-! ## Both -/

/-- The length a message announces agrees with its body exactly if the body is there, with some data and not chunked, or
if the message that came in announces one readable length or none, and none beside `chunked`. The head of a relayed
response is held until it goes out, alone and with the length of the pipe that carries the body. -/
theorem Step.framing {e : Event} (step : Step x e y) :
    (∀ head ended length, .forwarded head ended length ∉ x.log → .forwarded head ended length ∈ y.log →
        HandedOver x.inbound y length
          ∧ (head.headers.Framed y.head.headers length ↔ Sendable x.inbound y.head.headers))
      ∧ (∀ start es t, start.Fresh → Run start es x → x.relay = none → y.relay = some t →
        ∃ response head, x.backendAnswer = some (.ok response)
          ∧ t.pump.pipe = Pipe.new response.head.headers.bodyLength true
          ∧ (head.headers.Framed response.head.headers t.pump.pipe.exactLength ↔ response.head.headers.Streamable)
          ∧ ∀ fs z, Run y fs z →
            (z.handler = .heading head .relayed ∨ ∃ ended, .answered head ended t.pump.pipe.exactLength ∈ z.log)
              ∧ ∀ head' ended length, .answered head' ended length ∈ z.log →
                head' = head ∧ length = t.pump.pipe.exactLength) := by
  constructor
  · intro head ended length hx hy
    exact step.request_framing hx hy
  · intro start es t fresh run hx hy
    obtain ⟨response, head, answer, pipe, framed, goes⟩ := run.response_framing fresh step hx hy
    refine ⟨response, head, answer, pipe, framed, fun fs z later => ?_⟩
    cases goes.run ((run.sound fresh).step step) later with
    | held handler _ _ _ unheaded => exact ⟨.inl handler, fun _ _ _ answered => absurd answered (unheaded _ _ _)⟩
    | out handler only =>
      obtain ⟨head', ended, length, answered⟩ := ((run.snoc step).trans later |>.sound fresh).exists_answered handler
      obtain ⟨rfl, rfl⟩ := only head' ended length answered
      exact ⟨.inr ⟨ended, answered⟩, only⟩

/-- The lengths that requests to the backend announce, with what is known of their bodies. -/
def sentLengths (x : Exchange) : List (List HeaderValue × Option Nat) :=
  x.log.filterMap fun
    | .forwarded head _ length => some (head.headers.values .contentLength, length)
    | _ => none

theorem mem_sentLengths {values : List HeaderValue} {length : Option Nat} :
    (values, length) ∈ x.sentLengths
      ↔ ∃ head ended, .forwarded head ended length ∈ x.log ∧ head.headers.values .contentLength = values := by
  unfold sentLengths
  rw [List.mem_filterMap]
  constructor
  · rintro ⟨o, ho, heq⟩
    split at heq
    · rename_i head ended l
      cases heq
      exact ⟨head, ended, ho, rfl⟩
    · cases heq
  · rintro ⟨head, ended, ho, rfl⟩
    exact ⟨_, ho, rfl⟩

/-- A request whose body still arrives, with the given fields beside `host`. -/
def streaming (fields : List (HeaderName × HeaderValue)) : Exchange :=
  towards (.forward ⟨"backend", 80, "/", ""⟩) ⟨(.host, .zero) :: fields⟩
    (.streamed (.arriving (.ofItems [] false)))

/-- One request was sent, and it announced these lengths. -/
theorem forwarded_of_sentLengths {values : List HeaderValue} {length : Option Nat} (hx : x.sentLengths = [])
    (hy : y.sentLengths = [(values, length)]) :
    ∃ head ended, .forwarded head ended length ∉ x.log ∧ .forwarded head ended length ∈ y.log
      ∧ head.headers.values .contentLength = values := by
  obtain ⟨head, ended, sent, hv⟩ := mem_sentLengths.1 (hy ▸ List.mem_singleton_self _)
  refine ⟨head, ended, fun old => ?_, sent, hv⟩
  have mem : (head.headers.values .contentLength, length) ∈ x.sentLengths := mem_sentLengths.2 ⟨head, ended, old, rfl⟩
  rw [hx] at mem
  cases mem

/-- A `content-length` on its own agrees with the pipe that carries the body. -/
theorem framing_contentLength : ∃ x y head ended, Step x (.handlerStepped 0) y
    ∧ .forwarded head ended (some 5) ∈ y.log ∧ head.headers.Framed y.head.headers (some 5) := by
  have reached : ([.arrived ⟨0⟩, .resolverAllowed].foldlM perform (streaming [(.contentLength, .ofNat 5)])).any (fun x =>
      (x.perform (.handlerStepped 0)).any fun y => x.sentLengths = [] ∧ y.sentLengths = [([.ofNat 5], some 5)]
        ∧ x.inbound.complete? = none ∧ y.head.headers.keptLengths = [.ofNat 5] ∧ y.head.headers.isChunked = false) := by
    decide +kernel
  obtain ⟨x, -, hx⟩ := (Option.any_eq_true _ _).1 reached
  obtain ⟨y, hy, h⟩ := (Option.any_eq_true _ _).1 hx
  obtain ⟨unsent, sent, streamed, kept, plain⟩ := of_decide_eq_true h
  obtain ⟨head, ended, new, mem, -⟩ := forwarded_of_sentLengths unsent sent
  have step : Step x (.handlerStepped 0) y := step_of_perform hy
  have sendable : Sendable x.inbound y.head.headers := by
    unfold Sendable
    rw [streamed]
    exact .inr ⟨plain, .ofNat 5, 5, kept, by decide⟩
  exact ⟨x, y, head, ended, step, mem, ((Step.framing step).1 head ended _ new mem).2.2 sendable⟩

/-- Beside `chunked` a `content-length` is passed on all the same, though nothing is known of the length of the body. -/
theorem not_framed_of_both : ∃ start es x y head ended length, start.Fresh ∧ Run start es x
    ∧ Step x (.handlerStepped 0) y ∧ .forwarded head ended length ∉ x.log ∧ .forwarded head ended length ∈ y.log
    ∧ y.head.headers.isChunked ∧ head.headers.values .contentLength = [.ofNat 5] ∧ length = none
    ∧ ¬ head.headers.Framed y.head.headers length := by
  let start := streaming [(.transferEncoding, ⟨charBytes "chunked".toList, by decide⟩), (.contentLength, .ofNat 5)]
  have reached : ([.arrived ⟨0⟩, .resolverAllowed].foldlM perform start).any (fun x =>
      (x.perform (.handlerStepped 0)).any fun y => x.sentLengths = [] ∧ y.sentLengths = [([.ofNat 5], none)]
        ∧ y.head.headers.isChunked = true) := by
    decide +kernel
  obtain ⟨x, hx, h⟩ := (Option.any_eq_true _ _).1 reached
  obtain ⟨y, hy, h⟩ := (Option.any_eq_true _ _).1 h
  obtain ⟨unsent, sent, chunked⟩ := of_decide_eq_true h
  obtain ⟨head, ended, new, mem, hv⟩ := forwarded_of_sentLengths unsent sent
  refine ⟨start, _, x, y, head, ended, none, fresh_towards _ _ _, run_of_perform hx, step_of_perform hy, new, mem, chunked,
    hv, rfl, fun framed => ?_⟩
  have dropped := framed.chunked chunked
  rw [hv] at dropped
  cases dropped

end Exchange

end Gateway
