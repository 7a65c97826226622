import Gateway.Engine

/-!
# Runs of an exchange

What a neighbour does to an exchange and what a part of it does next come in any order. A run is such an order: a list
of events, from an exchange that has not begun. The clock is read by the part that moves and may show anything.

The parts run side by side. An event of a part takes it from one place at which it can meet another part to the next:
a look at the guard, an outcome that it records, an end of a pipe, the begin of a relay, the head that goes out. So the
handler goes from the backend's answer to the head in four events, an upload that breaks off lets the backend see that
before it records the failure, and a transfer may move after a look at the guard that is out of date.

What else a part does in one event meets others at one place only, and what they do meanwhile might as well come before
the event or behind it: an outcome stays once it is recorded, so it does not matter when it is read after that; the
reading end of a pipe sees the writer leave later, not otherwise; whether the body is complete, which is read as a head
is composed, is told by an upload that records nothing any more. An upload begins with the event that sends the request,
and a tunnel with the one that returns the head: only trace events of theirs could come sooner, and nothing here is said
about the order of those. A client that leaves while the handler is not at a wait is noticed when the head is out.

The schedule of the engine is one of these orders (`Engine.follows_act`, `Engine.follows_advance`), so what holds after
every run holds of every exchange of an engine.
-/

namespace Gateway

namespace Exchange

/-- Something that happens to an exchange: an act of a neighbour, or a step of a part at the time it reads. -/
inductive Event where
  | arrived (ids : RequestIds)
  | requestPushed (item : Item)
  /-- the client reads the response body; `none` if nothing was there -/
  | clientRead (item : Option Item)
  | clientLeft
  | resolverAllowed
  | backendRead (item : Option Item)
  | backendDroppedBody
  | backendAnswered (answer : Except Cause Response)
  | responsePushed (item : Item)
  | socketAnswered (answer : SocketAnswer)
  /-- the client's connection for a tunnel is there, or cannot be had -/
  | connectionGiven (takeover : Except String Unit)
  | tunnelEnded (result : Except Cause Unit)
  | handlerStepped (now : Nat)
  | uploadStepped (now : Nat)
  | relayStepped (now : Nat)
  /-- the upload moves after a look at the guard that may be out of date -/
  | uploadMoved (now : Nat)
  /-- the relay moves after such a look -/
  | relayMoved (now : Nat)
  | tunnelStepped

/-- An exchange before and after an event. What finds nothing to act on is no event. -/
inductive Step : Exchange → Event → Exchange → Prop where
  | arrive {x} (ids : RequestIds) (h : x.handler = .idle) : Step x (.arrived ids) (x.arrive ids).1
  | pushRequest {x} (item : Item) : Step x (.requestPushed item) (x.pushRequest item)
  | clientRead {x y item} (h : x.clientRead = some (item, y)) : Step x (.clientRead item) y
  | leave {x y} (h : x.dropClient = some y) : Step x .clientLeft y
  | allow {x y} (h : x.allowResolve = some y) : Step x .resolverAllowed y
  | backendRead {x y item} (h : x.backendRead = some (item, y)) : Step x (.backendRead item) y
  | backendDrop {x y} (h : x.backendDropBody = some y) : Step x .backendDroppedBody y
  | answer {x y answer} (h : x.answerBackend answer = some y) : Step x (.backendAnswered answer) y
  | pushResponse {x} (item : Item) (h : x.responseSource?.isSome) :
      Step x (.responsePushed item) (x.pushResponse item)
  | answerSocket {x} (answer : SocketAnswer) :
      Step x (.socketAnswered answer) { x with socketAnswer := some answer }
  | giveConnection {x} (takeover : Except String Unit) :
      Step x (.connectionGiven takeover) { x with takeover := some takeover }
  | endTunnel {x} (result : Except Cause Unit) : Step x (.tunnelEnded result) (x.endTunnel result)
  | handler {x y now} (h : x.stepHandler now = some y) : Step x (.handlerStepped now) y
  | upload {x y now} (h : x.stepUpload now = some y) : Step x (.uploadStepped now) y
  | relay {x y now} (h : x.stepRelay now = some y) : Step x (.relayStepped now) y
  | moveUpload {x y now} (h : x.moveUpload now = some y) : Step x (.uploadMoved now) y
  | moveRelay {x y now} (h : x.moveRelay now = some y) : Step x (.relayMoved now) y
  | tunnel {x y} (h : x.stepTunnel = some y) : Step x .tunnelStepped y

/-- From one exchange to another by a list of events. -/
inductive Run (start : Exchange) : List Event → Exchange → Prop where
  | refl : Run start [] start
  | snoc {es x e y} (run : Run start es x) (step : Step x e y) : Run start (es ++ [e]) y

/-- An exchange that has not begun. What the neighbours will answer may be there already. -/
def Fresh (x : Exchange) : Prop :=
  ∃ profile resolver head tls client inbound ready answer socket takeover,
    x = { new profile resolver head tls client inbound with
      resolverReady := ready, backendAnswer := answer, socketAnswer := socket, takeover := takeover }

/-- No part can move: each waits for a neighbour or is over. -/
def Blocked (x : Exchange) (now : Nat) : Prop := x.step now = none

namespace Run

variable {start x y z : Exchange} {es fs : List Event} {e : Event}

theorem single (step : Step x e y) : Run x [e] y := Run.snoc .refl step

theorem trans (first : Run x es y) (second : Run y fs z) : Run x (es ++ fs) z := by
  induction second with
  | refl => simpa using first
  | snoc _ step ih => rw [← List.append_assoc]; exact .snoc ih step

theorem eq_of_nil (run : Run start [] x) : x = start := by
  generalize h : ([] : List Event) = es at run
  cases run with
  | refl => rfl
  | snoc => simp at h

/-- The last event of a run. -/
theorem of_concat (run : Run start (es ++ [e]) y) : ∃ x, Run start es x ∧ Step x e y := by
  generalize h : es ++ [e] = fs at run
  cases run with
  | refl => simp at h
  | snoc run step =>
    obtain ⟨rfl, last⟩ := List.append_inj' h rfl
    cases last
    exact ⟨_, run, step⟩

/-- What holds at first and is kept by every event holds after every run. -/
theorem invariant {I : List Event → Exchange → Prop} (run : Run start es x) (first : I [] start)
    (step : ∀ {es x e y}, I es x → Step x e y → I (es ++ [e]) y) : I es x := by
  induction run with
  | refl => exact first
  | snoc _ h ih => exact step ih h

/-- A run that goes from `y` to `z` by one of its events. -/
structure Cut (start : Exchange) (es : List Event) (x : Exchange) (before : List Event) (y : Exchange) (e : Event)
    (z : Exchange) (after : List Event) : Prop where
  events : es = before ++ e :: after
  first : Run start before y
  step : Step y e z
  rest : Run z after x

/-- What holds after a run and not before it begins to hold by one of its events. -/
theorem becomes {P : Exchange → Prop} (run : Run start es x) (hs : ¬P start) (hx : P x) :
    ∃ before y e z after, Cut start es x before y e z after ∧ ¬P y ∧ P z := by
  induction run with
  | refl => exact absurd hx hs
  | @snoc es x e w run step ih =>
    by_cases already : P x
    · obtain ⟨before, y, f, z, after, ⟨events, first, next, rest⟩, hy, hz⟩ := ih already
      exact ⟨before, y, f, z, after ++ [e], ⟨by rw [events]; simp, first, next, rest.snoc step⟩, hy, hz⟩
    · exact ⟨es, x, e, w, [], ⟨rfl, run, step, .refl⟩, already, hx⟩

end Run

/-! ## Runs that are computed -/

/-- What an event makes of an exchange, `none` if it cannot happen there. -/
def perform (x : Exchange) : Event → Option Exchange
  | .arrived ids => if x.handler = .idle then some (x.arrive ids).1 else none
  | .requestPushed item => some (x.pushRequest item)
  | .clientRead item => (x.clientRead.filter fun r => r.1 = item).map (·.2)
  | .clientLeft => x.dropClient
  | .resolverAllowed => x.allowResolve
  | .backendRead item => (x.backendRead.filter fun r => r.1 = item).map (·.2)
  | .backendDroppedBody => x.backendDropBody
  | .backendAnswered answer => x.answerBackend answer
  | .responsePushed item => if x.responseSource?.isSome then some (x.pushResponse item) else none
  | .socketAnswered answer => some { x with socketAnswer := some answer }
  | .connectionGiven takeover => some { x with takeover := some takeover }
  | .tunnelEnded result => some (x.endTunnel result)
  | .handlerStepped now => x.stepHandler now
  | .uploadStepped now => x.stepUpload now
  | .relayStepped now => x.stepRelay now
  | .uploadMoved now => x.moveUpload now
  | .relayMoved now => x.moveRelay now
  | .tunnelStepped => x.stepTunnel

theorem step_of_perform {x y : Exchange} {e : Event} (h : x.perform e = some y) : Step x e y := by
  have read {r : Option (Option Item × Exchange)} {item : Option Item}
      (h : (r.filter fun r => r.1 = item).map (·.2) = some y) : r = some (item, y) := by
    obtain ⟨⟨got, z⟩, hf, rfl⟩ := Option.map_eq_some_iff.1 h
    obtain ⟨hr, hi⟩ := Option.filter_eq_some_iff.1 hf
    obtain rfl : got = item := of_decide_eq_true hi
    exact hr
  cases e with
  | arrived ids =>
    obtain ⟨hw, hy⟩ := Option.ite_none_right_eq_some.1 h
    cases hy
    exact .arrive ids hw
  | requestPushed item => cases h; exact .pushRequest item
  | clientRead item => exact .clientRead (read h)
  | clientLeft => exact .leave h
  | resolverAllowed => exact .allow h
  | backendRead item => exact .backendRead (read h)
  | backendDroppedBody => exact .backendDrop h
  | backendAnswered answer => exact .answer h
  | responsePushed item =>
    obtain ⟨hs, hy⟩ := Option.ite_none_right_eq_some.1 h
    cases hy
    exact .pushResponse item hs
  | socketAnswered answer => cases h; exact .answerSocket answer
  | connectionGiven takeover => cases h; exact .giveConnection takeover
  | tunnelEnded result => cases h; exact .endTunnel result
  | handlerStepped now => exact .handler h
  | uploadStepped now => exact .upload h
  | relayStepped now => exact .relay h
  | uploadMoved now => exact .moveUpload h
  | relayMoved now => exact .moveRelay h
  | tunnelStepped => exact .tunnel h

/-- A list of events that can happen in its order is a run. -/
theorem run_of_perform {start x : Exchange} {es : List Event} (h : es.foldlM perform start = some x) :
    Run start es x := by
  induction es generalizing start with
  | nil => cases h; exact .refl
  | cons e es ih =>
    obtain ⟨y, hy, hx⟩ := Option.bind_eq_some_iff.1 h
    exact (Run.single (step_of_perform hy)).trans (ih hx)

theorem perform_of_step {x y : Exchange} {e : Event} (h : Step x e y) : x.perform e = some y := by
  cases h with
  | arrive ids idle => exact if_pos idle
  | clientRead h | backendRead h => simp [perform, h]
  | leave h | allow h | backendDrop h | answer h | handler h | upload h | relay h | moveUpload h | moveRelay h
  | tunnel h => exact h
  | pushRequest item | answerSocket answer | giveConnection takeover | endTunnel result => rfl
  | pushResponse item h => exact if_pos h

/-- The events of a run say where it leads. -/
theorem perform_of_run {start x : Exchange} {es : List Event} (run : Run start es x) :
    es.foldlM perform start = some x := by
  induction run with
  | refl => rfl
  | snoc run step ih => simp [ih, perform_of_step step]

/-- What holds wherever a run can be cut holds where it is. -/
theorem Run.Cut.of_prefixes {P : Exchange → Bool} {start x w v : Exchange} {es before after : List Event} {e : Event}
    (cut : Run.Cut start es x before w e v after)
    (all : (List.range es.length).all (fun n => ((es.take n).foldlM perform start).all P) = true) : P w = true := by
  have inside : before.length < es.length := by simp [cut.events]
  have held := List.all_eq_true.1 all before.length (List.mem_range.2 inside)
  have part : es.take before.length = before := by simp [cut.events]
  rw [part, perform_of_run cut.first] at held
  exact held

/-- A `GET /` of a client at 127.0.0.1, for a gateway that takes the same next hop for every request. -/
def towards (hop : NextHop) (headers : Headers) (inbound : InboundBody) : Exchange :=
  new { idle := .ofSeconds 60, receive := .ofSeconds 60, page := Rejection.page } (fun head _ => ⟨head, .ok hop⟩)
    { method := .get, uri := ⟨none, none, "/", none⟩, version := .http11, headers } false ⟨.v4 127 0 0 1, 40000⟩ inbound

theorem fresh_towards (hop : NextHop) (headers : Headers) (inbound : InboundBody) :
    (towards hop headers inbound).Fresh :=
  ⟨_, _, _, _, _, _, false, none, none, none, rfl⟩

/-! ## Blocked exchanges -/

theorem blocked_iff {x : Exchange} {now : Nat} :
    x.Blocked now ↔ x.stepHandler now = none ∧ x.stepUpload now = none ∧ x.stepRelay now = none
      ∧ x.stepTunnel = none := by
  simp only [Blocked, step, Option.orElse_eq_orElse, Option.orElse_eq_or, Option.or_eq_none_iff]

/-! ## The schedule of the engine -/

/-- The step an exchange takes by itself is a step of one of its parts. -/
theorem step_cases {x y : Exchange} {now : Nat} (h : x.step now = some y) :
    x.stepHandler now = some y ∨ x.stepUpload now = some y ∨ x.stepRelay now = some y ∨ x.stepTunnel = some y := by
  simp only [step, Option.orElse_eq_orElse, Option.orElse_eq_or, Option.or_eq_some_iff] at h
  rcases h with h | ⟨-, h | ⟨-, h | ⟨-, h⟩⟩⟩
  · exact .inl h
  · exact .inr (.inl h)
  · exact .inr (.inr (.inl h))
  · exact .inr (.inr (.inr h))

theorem exists_event_of_step {x y : Exchange} {now : Nat} (h : x.step now = some y) : ∃ e, Step x e y := by
  rcases step_cases h with h | h | h | h
  · exact ⟨_, .handler h⟩
  · exact ⟨_, .upload h⟩
  · exact ⟨_, .relay h⟩
  · exact ⟨_, .tunnel h⟩

theorem run_of_runFor (fuel now : Nat) (x : Exchange) : ∃ es, Run x es (runFor fuel now x) := by
  induction fuel generalizing x with
  | zero => exact ⟨[], .refl⟩
  | succ fuel ih =>
    unfold runFor
    split
    · rename_i y h
      obtain ⟨e, he⟩ := exists_event_of_step h
      obtain ⟨es, hes⟩ := ih y
      exact ⟨_, (Run.single he).trans hes⟩
    · exact ⟨[], .refl⟩

theorem run_of_run (now : Nat) (x : Exchange) : ∃ es, Run x es (x.run now) := run_of_runFor _ now x

/-- A way to read that is an event whenever it finds something to read from. -/
def ReadsByEvent (read : Exchange → Option (Option Item × Exchange)) : Prop :=
  ∀ {x item y}, read x = some (item, y) → ∃ e, Step x e y

theorem readsByEvent_clientRead : ReadsByEvent Exchange.clientRead := fun h => ⟨_, .clientRead h⟩

theorem readsByEvent_backendRead : ReadsByEvent Exchange.backendRead := fun h => ⟨_, .backendRead h⟩

section Reading

variable {read : Exchange → Option (Option Item × Exchange)} (reads : ReadsByEvent read)

include reads

theorem run_of_getD (x : Exchange) : ∃ es, Run x es ((read x).getD (none, x)).2 := by
  cases h : read x with
  | none => exact ⟨[], .refl⟩
  | some r =>
    obtain ⟨e, he⟩ := @reads x r.1 r.2 h
    exact ⟨[e], .single he⟩

theorem run_of_readWaiting (now : Nat) (x : Exchange) : ∃ es, Run x es (readWaiting read now x).2 := by
  obtain ⟨es, hes⟩ := run_of_getD reads x
  simp only [readWaiting, readSettled]
  split
  · rename_i item y h
    rw [h] at hes
    exact ⟨es, hes⟩
  · rename_i y h
    rw [h] at hes
    obtain ⟨fs, hfs⟩ := run_of_run now y
    obtain ⟨gs, hgs⟩ := run_of_getD reads (y.run now)
    exact ⟨_, (hes.trans hfs).trans hgs⟩

theorem run_of_readFully (now fuel : Nat) (x : Exchange) :
    ∃ es, Run x es (readFully (readWaiting read now) fuel x).2 := by
  induction fuel generalizing x with
  | zero => exact ⟨[], .refl⟩
  | succ fuel ih =>
    obtain ⟨es, hes⟩ := run_of_readWaiting reads now x
    unfold readFully
    split
    · rename_i item y h
      rw [h] at hes
      split
      · obtain ⟨fs, hfs⟩ := ih y
        exact ⟨_, hes.trans hfs⟩
      · exact ⟨es, hes⟩
    · rename_i y h
      rw [h] at hes
      exact ⟨es, hes⟩

theorem run_of_readOne (now : Nat) (x : Exchange) : ∃ es, Run x es (act.readOne now read x).2 := by
  unfold act.readOne
  split
  · exact ⟨[], .refl⟩
  · exact run_of_readWaiting reads now x

theorem run_of_readAll (now : Nat) (x : Exchange) : ∃ es, Run x es (act.readAll now read x).2 := by
  unfold act.readAll
  split
  · exact ⟨[], .refl⟩
  · exact run_of_readFully reads now _ x

end Reading

/-- An action that may find nothing to act on. -/
theorem run_of_changed {x : Exchange} {after : Option Exchange}
    (h : ∀ y, after = some y → ∃ e, Step x e y) : ∃ es, Run x es (act.changed x after).2 := by
  cases after with
  | none => exact ⟨[], .refl⟩
  | some y =>
    obtain ⟨e, he⟩ := h y rfl
    exact ⟨[e], .single he⟩

/-- Where the response body has no source, no item can be added to it. -/
theorem pushResponse_of_no_source {x : Exchange} (item : Item) (h : x.responseSource? = none) :
    x.pushResponse item = x := by
  have push_whole : ∀ body : Body, body.source? = none → body.push item = body := by
    intro body hb
    cases body with
    | whole rest => rfl
    | arriving source => cases hb
  unfold responseSource? at h
  unfold pushResponse
  split
  · rename_i t ht
    rw [ht] at h
    rw [push_whole _ h, ← ht]
  · rename_i hr
    rw [hr] at h
    dsimp only at h
    split
    · rename_i response hc ha
      simp only [hc, ha] at h
      rw [push_whole _ h, ← ha]
    · rename_i hn
      split
      · rename_i body hb
        split at h
        · rename_i hc ha
          exact absurd ha (hn _ hc)
        · simp only [hb] at h
          rw [push_whole _ h, ← hb]
      · rfl

theorem run_of_act (x : Exchange) (now : Nat) (a : Action) : ∃ es, Run x es (x.act now a).2 := by
  cases a with
  | arrive => exact ⟨[], .refl⟩
  | pushRequest item => exact ⟨_, .single (.pushRequest item)⟩
  | readResponse => exact run_of_readOne readsByEvent_clientRead now x
  | readWholeResponse => exact run_of_readAll readsByEvent_clientRead now x
  | leave => exact run_of_changed fun y h => ⟨_, .leave h⟩
  | resolve => exact run_of_changed fun y h => ⟨_, .allow h⟩
  | readRequest => exact run_of_readOne readsByEvent_backendRead now x
  | readWholeRequest => exact run_of_readAll readsByEvent_backendRead now x
  | dropRequest => exact run_of_changed fun y h => ⟨_, .backendDrop h⟩
  | answer response => exact run_of_changed fun y h => ⟨_, .answer h⟩
  | pushResponse item =>
    by_cases h : x.responseSource?.isSome
    · exact ⟨_, .single (.pushResponse item h)⟩
    · refine ⟨[], ?_⟩
      show Run x [] (x.pushResponse item)
      rw [pushResponse_of_no_source item (by simpa using h)]
      exact .refl

end Exchange

namespace Engine

/-- Every exchange of the second engine comes from the one with its number in the first engine by a run. -/
def Follows (e f : Engine) : Prop :=
  ∀ (r : Nat) (y : Exchange), f.exchanges[r]? = some y →
    ∃ (x : Exchange) (es : List Exchange.Event), e.exchanges[r]? = some x ∧ x.Run es y

theorem Follows.trans {e f g : Engine} (h : Follows e f) (k : Follows f g) : Follows e g := by
  intro r z hz
  obtain ⟨y, fs, hy, hyz⟩ := k r z hz
  obtain ⟨x, es, hx, hxy⟩ := h r y hy
  exact ⟨x, es ++ fs, hx, hxy.trans hyz⟩

theorem follows_settle (e : Engine) : Follows e e.settle := by
  intro r y hy
  simp only [settle, List.getElem?_map, Option.map_eq_some_iff] at hy
  obtain ⟨x, hx, rfl⟩ := hy
  obtain ⟨es, hes⟩ := x.run_of_run e.now
  exact ⟨x, es, hx, hes⟩

/-- One exchange goes on by a run and the others stay. -/
theorem follows_set {e f : Engine} {r : Nat} {x y : Exchange} {es : List Exchange.Event}
    (hx : e.exchanges[r]? = some x) (hxy : x.Run es y) (hf : f.exchanges = e.exchanges.set r y) : Follows e f := by
  intro s z hz
  rw [hf, List.getElem?_set] at hz
  split at hz
  · rename_i hrs
    subst hrs
    split at hz
    · obtain rfl : y = z := by simpa using hz
      exact ⟨x, es, hx, hxy⟩
    · cases hz
  · exact ⟨z, [], hz, .refl⟩

theorem follows_apply (e : Engine) (r : Nat) (a : Action) : Follows e (e.apply r a).2 := by
  unfold apply
  split
  · exact fun s z hz => ⟨z, [], hz, .refl⟩
  · rename_i x hx
    split
    · rename_i hidle
      exact follows_set hx (.single (.arrive e.ids hidle)) rfl
    · rename_i action _ _ _
      obtain ⟨es, hes⟩ := x.run_of_act e.now action
      exact follows_set hx hes rfl

/-- Whatever the engine does after an action, each of its exchanges goes by a run. -/
theorem follows_act (e : Engine) (r : Nat) (a : Action) : Follows e (e.act r a).2 :=
  (follows_apply e r a).trans (follows_settle _)

theorem follows_advance (e : Engine) (d : Duration) : Follows e (e.advance d) := by
  have later : Follows e { e with now := e.now + d.nanos } := fun r z hz => ⟨z, [], hz, .refl⟩
  exact later.trans (follows_settle _)

end Engine

end Gateway
