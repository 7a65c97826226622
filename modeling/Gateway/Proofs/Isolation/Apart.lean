import Gateway.Proofs.Isolation.Alone

/-!
# Exchanges do not interfere

An engine serves its exchanges in the order it is told (`Engine.serve`). Its parts may as well move in any other order:
`Engine.Run` is one, an event at a time, where each part reads the clock and the source of numbers as it finds them.

`Engine.undisturbed` compares two engines that have one exchange in common, among whatever others: where both are told the
same of it and time passes alike, and it gets the same id, nothing else shows in it. For runs of events the parts of the
exchange itself move in the same order in both.
-/

namespace Gateway

theorem filterMap_concat {α β : Type} (p : α → Option β) (as : List α) (a : α) :
    (as ++ [a]).filterMap p = as.filterMap p ++ (p a).toList := by
  rw [List.filterMap_append]
  cases h : p a <;> simp [h]

namespace Exchange

variable {x y z start : Exchange} {es fs : List Event} {e f : Event}

/-- Before its request arrives no part of an exchange can move. -/
theorem Fresh.blocked (fresh : x.Fresh) (now : Nat) : x.Blocked now := by
  obtain ⟨profile, resolver, head, tls, client, inbound, ready, answer, socket, takeover, rfl⟩ := fresh
  rfl

/-! ## What an event finds out -/

namespace Event

/-- What was read in an event; the inner `none` says that nothing was there. -/
def item? : Event → Option (Option Item)
  | clientRead item | backendRead item => some item
  | _ => none

/-- An event without what is found out by it: the numbers, and what was read. -/
def seen : Event → Event
  | arrived _ => arrived ⟨0⟩
  | clientRead _ => clientRead none
  | backendRead _ => backendRead none
  | e => e

/-- An event at another time. -/
def stampedAt (now : Nat) : Event → Event
  | handlerStepped _ => handlerStepped now
  | uploadStepped _ => uploadStepped now
  | relayStepped _ => relayStepped now
  | uploadMoved _ => uploadMoved now
  | relayMoved _ => relayMoved now
  | e => e

/-- An event without the time either. -/
def blind (e : Event) : Event := e.seen.stampedAt 0

/-- Whether an event reads the clock and the source of numbers as they are in an engine. -/
def ReadsIn (engine : Engine) : Event → Prop
  | arrived ids => ids = engine.ids
  | handlerStepped now | uploadStepped now | relayStepped now | uploadMoved now | relayMoved now => now = engine.now
  | _ => True

/-- The source of numbers after an event. -/
def idsAfter (x : Exchange) (ids : RequestIds) : Event → RequestIds
  | arrived _ => (x.arrive ids).2
  | _ => ids

theorem stampedAt_blind {engine : Engine} (reads : e.ReadsIn engine) : e.blind.stampedAt engine.now = e.seen := by
  cases e with
  | handlerStepped now | uploadStepped now | relayStepped now | uploadMoved now | relayMoved now =>
    cases reads
    rfl
  | _ => rfl

end Event

/-- What an event other than an arrival finds in an exchange and makes of it. -/
def outcome (x : Exchange) : Event → Option (Option (Option Item) × Exchange)
  | .clientRead _ => x.clientRead.map fun r => (some r.1, r.2)
  | .backendRead _ => x.backendRead.map fun r => (some r.1, r.2)
  | e => (x.perform e).map fun y => (none, y)

theorem Step.outcome (step : Step x e y) : (∃ ids, e = .arrived ids) ∨ x.outcome e.seen = some (e.item?, y) := by
  have performed := perform_of_step step
  cases step with
  | arrive ids => exact .inl ⟨ids, rfl⟩
  | clientRead h | backendRead h => exact .inr (by simp [Exchange.outcome, Event.seen, h, Event.item?])
  | _ => exact .inr (by simp [Exchange.outcome, Event.seen, Event.item?, performed])

theorem Event.arrived_of_seen (same : e.seen = f.seen) (h : ∃ ids, e = .arrived ids) : ∃ ids, f = .arrived ids := by
  obtain ⟨ids, rfl⟩ := h
  cases f with
  | arrived ids => exact ⟨ids, rfl⟩
  | _ => cases same

/-- An event is determined by what is seen of it and the id of the request. -/
theorem Step.unique (hy : Step x e y) (hz : Step x f z) (same : e.seen = f.seen)
    (id : y.context.requestId = z.context.requestId) : y = z ∧ e.item? = f.item? := by
  by_cases arrival : ∃ ids, e = .arrived ids
  · -- of the numbers an arrival leaves nothing but the id
    obtain ⟨ids', rfl⟩ := Event.arrived_of_seen same arrival
    obtain ⟨ids, rfl⟩ := arrival
    cases hy
    cases hz
    exact ⟨arrive_congr id, rfl⟩
  · have found := hy.outcome.resolve_left arrival
    have found' := hz.outcome.resolve_left (mt (Event.arrived_of_seen same.symm) arrival)
    rw [same, found', Option.some.injEq, Prod.mk.injEq] at found
    exact ⟨found.2.symm, found.1.symm⟩

/-- An event other than the arrival leaves the id of a request as it is. -/
theorem Step.keeps_id (step : Step x e y) : (∃ ids, e = .arrived ids) ∨ y.context.requestId = x.context.requestId := by
  cases step.passage with
  | arrived ids => exact .inl ⟨ids, rfl⟩
  | kept keeps =>
    have context : y.context = x.context := congrArg Premises.context keeps.premises
    exact .inr (by rw [context])
  | wentOn _ begun => exact .inr (step.begun begun).2

/-- Before its request has arrived, an exchange has the id it began with. -/
theorem Run.unnumbered (fresh : start.Fresh) (run : Run start es x) (idle : x.handler = .idle) :
    x.context.requestId = start.context.requestId := by
  cases run.known fresh with
  | unbegun _ premises => exact congrArg (Context.requestId ∘ Premises.context) premises
  | resolving _ handler => simp [handler] at idle
  | resolved _ past => simp [idle, HandlerPhase.isPast] at past

/-- A run is determined by what is seen of its events and the id of the request. -/
theorem Run.unique (fresh : start.Fresh) (hy : Run start es y) (hz : Run start fs z)
    (same : es.map Event.seen = fs.map Event.seen) (id : y.context.requestId = z.context.requestId) :
    y = z ∧ es.filterMap Event.item? = fs.filterMap Event.item? := by
  induction hy generalizing fs z with
  | refl =>
    obtain rfl : fs = [] := List.map_eq_nil_iff.1 same.symm
    exact ⟨hz.eq_of_nil.symm, rfl⟩
  | @snoc es x e y run step ih =>
    rw [List.map_append] at same
    obtain ⟨fs, last, rfl, before, now⟩ := List.map_eq_append_iff.1 same.symm
    obtain ⟨f, rest, rfl, seen, none⟩ := List.map_eq_cons_iff.1 now
    obtain rfl : rest = [] := List.map_eq_nil_iff.1 none
    obtain ⟨w, run', step'⟩ := hz.of_concat
    have earlier : x.context.requestId = w.context.requestId := by
      by_cases arrival : ∃ ids, e = .arrived ids
      · -- both had not begun
        obtain ⟨ids', rfl⟩ := Event.arrived_of_seen seen.symm arrival
        obtain ⟨ids, rfl⟩ := arrival
        cases step with
        | arrive _ idle =>
          cases step' with
          | arrive _ idle' => rw [run.unnumbered fresh idle, run'.unnumbered fresh idle']
      · rw [← step.keeps_id.resolve_left arrival, id,
          step'.keeps_id.resolve_left (mt (Event.arrived_of_seen seen) arrival)]
    obtain ⟨rfl, items⟩ := ih run' before.symm earlier
    obtain ⟨rfl, item⟩ := step.unique step' seen.symm id
    refine ⟨rfl, ?_⟩
    rw [List.filterMap_append, List.filterMap_append, items, List.filterMap_cons, List.filterMap_cons, item]

end Exchange

namespace Engine

/-! ## Events of an engine -/

/-- Something that happens in an engine: to the exchange of this number, or that time passes. -/
inductive Event where
  | on (r : Nat) (event : Exchange.Event)
  | passed (d : Duration)

/-- An engine before and after an event. -/
inductive Step : Engine → Event → Engine → Prop where
  | on {e : Engine} {r : Nat} {x y : Exchange} {event : Exchange.Event} (hx : e.exchanges[r]? = some x)
      (reads : event.ReadsIn e) (step : x.Step event y) :
      Step e (.on r event) { e with ids := event.idsAfter x e.ids, exchanges := e.exchanges.set r y }
  | pass {e : Engine} (d : Duration) : Step e (.passed d) { e with now := e.now + d.nanos }

/-- From one engine to another by a list of events. -/
inductive Run (start : Engine) : List Event → Engine → Prop where
  | refl : Run start [] start
  | snoc {es : List Event} {e f : Engine} {event : Event} (run : Run start es e) (step : Step e event f) :
      Run start (es ++ [event]) f

/-- What happens to the exchange of a number. -/
def Event.onto (r : Nat) : Event → Option Exchange.Event
  | on s event => if s = r then some event else none
  | passed _ => none

/-- What is said of the exchange of a number from outside: what happens to it, not what it finds, and that time
passes. -/
def Event.about (r : Nat) : Event → Option (Exchange.Event ⊕ Duration)
  | on s event => if s = r then some (.inl event.blind) else none
  | passed d => some (.inr d)

/-! ## Time -/

/-- What the clock shows after all that. -/
def clock : Nat → List (Exchange.Event ⊕ Duration) → Nat
  | now, [] => now
  | now, .inl _ :: rest => clock now rest
  | now, .inr d :: rest => clock (now + d.nanos) rest

/-- The events, each at the time it happens. -/
def stamped : Nat → List (Exchange.Event ⊕ Duration) → List Exchange.Event
  | _, [] => []
  | now, .inl event :: rest => event.stampedAt now :: stamped now rest
  | now, .inr d :: rest => stamped (now + d.nanos) rest

variable {said more : List (Exchange.Event ⊕ Duration)} {now : Nat}

theorem clock_append : clock now (said ++ more) = clock (clock now said) more := by
  induction said generalizing now with
  | nil => rfl
  | cons what rest ih =>
    cases what with
    | inl event => exact ih
    | inr d => exact ih

theorem stamped_append : stamped now (said ++ more) = stamped now said ++ stamped (clock now said) more := by
  induction said generalizing now with
  | nil => rfl
  | cons what rest ih =>
    cases what with
    | inl event => exact congrArg (event.stampedAt now :: ·) ih
    | inr d => exact ih

/-! ## One exchange among others -/

variable {e f : Engine} {es : List Event} {r s : Nat} {x y : Exchange}

/-- What a run of an engine is for one of its exchanges. -/
structure Goes (e : Engine) (r : Nat) (x : Exchange) (es : List Event) (f : Engine) (y : Exchange) : Prop where
  there : f.exchanges[r]? = some y
  run : x.Run (es.filterMap (Event.onto r)) y
  clock : f.now = clock e.now (es.filterMap (Event.about r))
  seen : (es.filterMap (Event.onto r)).map Exchange.Event.seen = stamped e.now (es.filterMap (Event.about r))

/-- One event more, by what it is for the exchange. -/
theorem Goes.snoc {g : Engine} {event : Event} {z : Exchange} (h : Goes e r x es f y)
    (there : g.exchanges[r]? = some z) (run : y.Run (event.onto r).toList z)
    (now : g.now = Engine.clock f.now (event.about r).toList)
    (seen : (event.onto r).toList.map Exchange.Event.seen = stamped f.now (event.about r).toList) :
    Goes e r x (es ++ [event]) g z := by
  refine ⟨there, ?_, ?_, ?_⟩
  · rw [filterMap_concat]
    exact h.run.trans run
  · rw [filterMap_concat, clock_append, ← h.clock, now]
  · rw [filterMap_concat, filterMap_concat, List.map_append, stamped_append, h.seen, ← h.clock, seen]

theorem Goes.step {g : Engine} {event : Event} (h : Goes e r x es f y) (step : Step f event g) :
    ∃ z, Goes e r x (es ++ [event]) g z := by
  cases step with
  | @on s w z event hw reads step =>
    by_cases self : s = r
    · subst self
      obtain rfl : y = w := Option.some.inj (h.there.symm.trans hw)
      have bound : s < f.exchanges.length := (List.getElem?_eq_some_iff.1 hw).1
      have onto : (Event.on s event).onto s = some event := if_pos rfl
      have about : (Event.on s event).about s = some (.inl event.blind) := if_pos rfl
      refine ⟨z, h.snoc (List.getElem?_set_self bound) ?_ ?_ ?_⟩
      · rw [onto]
        exact .single step
      · rw [about]
        rfl
      · -- the event reads the clock that the run has brought about
        rw [onto, about]
        exact congrArg (fun event => [event]) (Exchange.Event.stampedAt_blind reads).symm
    · have onto : (Event.on s event).onto r = none := if_neg self
      have about : (Event.on s event).about r = none := if_neg self
      refine ⟨y, h.snoc ((List.getElem?_set_ne self).trans h.there) ?_ ?_ ?_⟩
      · rw [onto]
        exact .refl
      · rw [about]
        rfl
      · rw [onto, about]
        rfl
  | pass d => exact ⟨y, h.snoc h.there .refl rfl rfl⟩

theorem Run.goes (run : Run e es f) (hx : e.exchanges[r]? = some x) : ∃ y, Goes e r x es f y := by
  induction run with
  | refl => exact ⟨x, hx, .refl, rfl, rfl⟩
  | snoc _ step ih =>
    obtain ⟨y, goes⟩ := ih
    exact goes.step step

/-! ## Two engines -/

/-- What is said of one exchange decides what it becomes and what is read from it, apart from the id its request is
given: where a neighbour is served after another, and where the parts of the engine move in any order. -/
theorem undisturbed {f : Engine} (fresh : x.Fresh) (hr : e.exchanges[r]? = some x) (hs : f.exchanges[s]? = some x)
    (clock : e.now = f.now) :
    (∀ os ps : List Order, os.filterMap (Order.about r) = ps.filterMap (Order.about s) →
      ∃ y z, (e.serve os).2.exchanges[r]? = some y ∧ (f.serve ps).2.exchanges[s]? = some z
        ∧ (y.context.requestId = z.context.requestId →
            y = z ∧ repliesTo r (e.serve os).1 = repliesTo s (f.serve ps).1))
    ∧ ∀ (es fs : List Event) (e' f' : Engine), Run e es e' → Run f fs f' →
      es.filterMap (Event.about r) = fs.filterMap (Event.about s) →
      ∃ y z, e'.exchanges[r]? = some y ∧ f'.exchanges[s]? = some z
        ∧ (y.context.requestId = z.context.requestId →
            y = z ∧ (es.filterMap (Event.onto r)).filterMap Exchange.Event.item?
              = (fs.filterMap (Event.onto s)).filterMap Exchange.Event.item?) := by
  constructor
  · -- both serve the exchange as it would be served alone
    intro os ps same
    obtain ⟨ids, replies, final⟩ := serve_alone hr (fresh.blocked e.now) os
    obtain ⟨ids', replies', final'⟩ := serve_alone hs (fresh.blocked f.now) ps
    rw [← same, ← clock] at replies' final'
    refine ⟨_, _, final, final', fun id => ?_⟩
    have unaffected := Exchange.alone_congr _ e.now x id
    exact ⟨congrArg Prod.snd unaffected, by rw [replies, replies', unaffected]⟩
  · -- in both the exchange has the same events, but for the numbers and what is read
    intro es fs e' f' run run' same
    obtain ⟨y, goes⟩ := run.goes hr
    obtain ⟨z, goes'⟩ := run'.goes hs
    have seen : (es.filterMap (Event.onto r)).map Exchange.Event.seen
        = (fs.filterMap (Event.onto s)).map Exchange.Event.seen := by
      rw [goes.seen, goes'.seen, same, clock]
    exact ⟨y, z, goes.there, goes'.there, goes.run.unique fresh goes'.run seen⟩

/-- A request is answered as it is without the one before it, which its client gives up. -/
theorem undisturbed_by_neighbour : ∃ (x : Exchange) (e f : Engine) (os ps : List Order) (es fs : List Event) (e' f' : Engine),
    x.Fresh ∧ e.exchanges = [x] ∧ f.exchanges = [x, x] ∧ Run e es e' ∧ Run f fs f'
    ∧ (e.serve os).2.exchanges[0]? = (f.serve ps).2.exchanges[1]?
    ∧ repliesTo 0 (e.serve os).1 = repliesTo 1 (f.serve ps).1
    ∧ e'.exchanges[0]? = f'.exchanges[1]? := by
  let x : Exchange := .towards (.forward ⟨"backend", 80, "/", ""⟩) (Headers.empty.insert .host .zero) (.buffered [])
  let e : Engine := ⟨⟨1⟩, 0, [x]⟩
  let f : Engine := ⟨⟨0⟩, 0, [x, x]⟩
  let os : List Order := [.act 0 .arrive, .act 0 .resolve, .pass (.ofSeconds 1), .act 0 (.answer (.ok (.bodiless .ok))),
    .act 0 .readWholeResponse]
  let ps : List Order := [.act 0 .arrive, .act 1 .arrive, .act 0 .resolve, .act 1 .resolve, .act 0 .leave,
    .pass (.ofSeconds 1), .act 1 (.answer (.ok (.bodiless .ok))), .act 1 .readWholeResponse]
  have fresh : x.Fresh := Exchange.fresh_towards _ _ _
  have ids : (e.serve os).2.exchanges[0]?.map (·.context.requestId)
      = (f.serve ps).2.exchanges[1]?.map (·.context.requestId) := by
    decide +kernel
  have run : Run e ([] ++ [.on 0 (.arrived ⟨1⟩)]) _ := .snoc .refl (.on rfl rfl (.arrive _ rfl))
  have run' : Run f (([] ++ [.on 0 (.arrived ⟨0⟩)]) ++ [.on 1 (.arrived ⟨1⟩)]) _ :=
    .snoc (.snoc .refl (.on rfl rfl (.arrive _ rfl))) (.on rfl rfl (.arrive _ rfl))
  obtain ⟨served, happened⟩ := undisturbed (e := e) (f := f) (r := 0) (s := 1) fresh rfl rfl rfl
  obtain ⟨y, z, hy, hz, same⟩ := served os ps rfl
  rw [hy, hz] at ids
  obtain ⟨rfl, replies⟩ := same (Option.some.inj ids)
  obtain ⟨v, w, hv, hw, same'⟩ := happened _ _ _ _ run run' rfl
  cases hv
  cases hw
  obtain ⟨final, -⟩ := same' (by decide +kernel)
  exact ⟨x, e, f, os, ps, _, _, _, _, fresh, rfl, rfl, run, run', hy.trans hz.symm, replies, congrArg some final⟩

end Engine

end Gateway
