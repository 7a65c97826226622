import Gateway.Proofs.Isolation.Apart
import Gateway.Proofs.RequestId
import Mathlib.Logic.Function.Basic

/-!
# Request numbers

Requests that bring no id take a number, from a source they share with each other and with whoever has a copy of it. A
request is taken in by steps: its fields are looked at; if they name no id, it takes a number; the number is put among its
fields. Other requests are taken in meanwhile, copies of the source are used, and everything else goes on. `Numbering` is
an engine in the midst of this. An engine that takes each request in at once is one of these (`run_of_engineRun`).

A number is taken in one step, so the numbers come in their order whoever takes them (`Counted`). All else a request needs
is its own, so what it looked at is still so when its number is put there (`Standing`).

The main theorem is `Numbering.Run.numbers_requests`.
-/

namespace Gateway

/-! ## Requests without an id -/

namespace Headers

variable {h : Headers}

/-- The first `x-request-id` is missing, empty or no text. -/
def Anonymous (h : Headers) : Prop :=
  ∀ v, h.get? .xRequestId = some v → v.bytes = [] ∨ ∃ b ∈ v.bytes, ¬ (b.toNat = 9 ∨ (32 ≤ b.toNat ∧ b.toNat ≤ 126))

theorem anonymous_iff : h.Anonymous ↔ h.givenId? = none := by
  rw [givenId?_eq, said?_eq, Option.map_eq_none_iff, readable?, Option.filter_eq_none_iff]
  refine forall₂_congr fun v _ => ?_
  simp only [HeaderValue.isReadable, Bool.and_eq_true, Bool.not_eq_true', List.isEmpty_eq_false_iff, List.all_eq_true,
    isTextByte_iff, not_and_or, not_not, not_forall, exists_prop, ne_eq]

end Headers

namespace RequestIds

variable {h : Headers}

theorem assign_of_anonymous (ids : RequestIds) (none : h.givenId? = none) :
    ids.assign h = (toString ids.upcoming.toNat, h.insert .xRequestId (.ofNat ids.upcoming.toNat), ids.take.2) := by
  rw [assign, none]
  rfl

theorem assign_of_given (ids : RequestIds) {id : String} (given : h.givenId? = some id) : ids.assign h = (id, h, ids) := by
  rw [assign, given]

end RequestIds

/-! ## One request -/

namespace Exchange

variable {x y z : Exchange} {ids : RequestIds} {e : Event}

/-- A request that is not taken in yet: its fields are those it came with. -/
structure Awaits (x y : Exchange) : Prop where
  idle : y.handler = .idle
  head : y.head = x.head

/-- A request that was taken in with the source as it was then. It keeps its id; the fields it got are those the resolver
finds. -/
structure TakenIn (x : Exchange) (ids : RequestIds) (y : Exchange) : Prop where
  begun : y.handler ≠ .idle
  id : y.context.requestId = (ids.assign x.head.headers).1
  fields : y.handler = .resolving → y.head.headers = (ids.assign x.head.headers).2.1

theorem Awaits.step (h : Awaits x y) (step : y.Step e z) (later : ∀ ids, e ≠ .arrived ids) : Awaits x z := by
  cases step.passage with
  | arrived ids => exact absurd rfl (later ids)
  | kept keeps => exact ⟨keeps.handler.trans h.idle, (congrArg Premises.head keeps.premises).trans h.head⟩
  | wentOn _ begun => exact absurd h.idle begun

theorem Awaits.arrive (h : Awaits x y) (ids : RequestIds) : TakenIn x ids (y.arrive ids).1 where
  begun := HandlerPhase.noConfusion
  id := by
    rw [← h.head]
    rfl
  fields := fun _ => by
    rw [← h.head]
    rfl

theorem TakenIn.step (h : TakenIn x ids y) (step : y.Step e z) : TakenIn x ids z := by
  obtain ⟨begun, same⟩ := step.begun h.begun
  refine ⟨begun, same.trans h.id, fun resolving => ?_⟩
  cases step.passage with
  | arrived _ idle => exact absurd idle h.begun
  | kept keeps =>
    have head : z.head = y.head := congrArg Premises.head keeps.premises
    rw [head]
    exact h.fields (keeps.handler.symm.trans resolving)
  | wentOn goesOn =>
    have past := goesOn.past
    rw [resolving] at past
    cases past

end Exchange

/-! ## Taking requests in, step by step -/

/-- How far a request is with being taken in. -/
inductive Numbering.Stage where
  /-- it was not looked at, or it is taken in -/
  | outside
  /-- it brought no id -/
  | anonymous
  /-- it took a number -/
  | drew (n : UInt64)

/-- An engine with the stages of its requests. -/
structure Numbering extends Engine where
  stage : Nat → Numbering.Stage

namespace Numbering

/-- An engine while no request is being taken in. -/
def resting (e : Engine) : Numbering := { e with stage := fun _ => .outside }

/-- What happens at one moment. -/
inductive Event where
  /-- the request brought an id, and is taken in with it -/
  | kept (r : Nat)
  | missed (r : Nat)
  | drew (r : Nat) (n : UInt64)
  /-- the number is put among the fields of the request, which is taken in with it -/
  | numbered (r : Nat)
  /-- somebody took a number from a copy of the source -/
  | taken (n : UInt64)
  | other (event : Engine.Event)

/-- An engine before and after that. -/
inductive Step : Numbering → Event → Numbering → Prop where
  | keep {d : Numbering} {r : Nat} {y : Exchange} (there : d.exchanges[r]? = some y) (idle : y.handler = .idle)
      (outside : d.stage r = .outside) (given : y.head.headers.givenId?.isSome = true) :
      Step d (.kept r) { d with exchanges := d.exchanges.set r (y.arrive d.ids).1 }
  | miss {d : Numbering} {r : Nat} {y : Exchange} (there : d.exchanges[r]? = some y) (idle : y.handler = .idle)
      (outside : d.stage r = .outside) (none : y.head.headers.givenId? = none) :
      Step d (.missed r) { d with stage := Function.update d.stage r .anonymous }
  | draw {d : Numbering} {r : Nat} (anonymous : d.stage r = .anonymous) :
      Step d (.drew r d.ids.take.1)
        { d with ids := d.ids.take.2, stage := Function.update d.stage r (.drew d.ids.take.1) }
  | number {d : Numbering} {r : Nat} {y : Exchange} {n : UInt64} (there : d.exchanges[r]? = some y)
      (drew : d.stage r = .drew n) :
      Step d (.numbered r)
        { d with exchanges := d.exchanges.set r (y.arrive ⟨n⟩).1, stage := Function.update d.stage r .outside }
  | take {d : Numbering} : Step d (.taken d.ids.take.1) { d with ids := d.ids.take.2 }
  | other {d : Numbering} {event : Engine.Event} {f : Engine} (step : Engine.Step d.toEngine event f)
      (later : ∀ r ids, event ≠ .on r (.arrived ids)) : Step d (.other event) { d with toEngine := f }

/-- From one engine to another by a list of events. -/
inductive Run (start : Numbering) : List Event → Numbering → Prop where
  | refl : Run start [] start
  | snoc {es : List Event} {d : Numbering} {e : Event} {d' : Numbering} (run : Run start es d) (step : Step d e d') :
      Run start (es ++ [e]) d'

/-- The number that is drawn, by a request or by anybody else. -/
def Event.number? : Event → Option UInt64
  | drew _ n | taken n => some n
  | _ => none

/-- The number that a request draws. -/
def Event.numberOf? (r : Nat) : Event → Option UInt64
  | drew s n => if s = r then some n else none
  | _ => none

/-- The numbers that were drawn, in their order. -/
def numbers (es : List Event) : List UInt64 := es.filterMap Event.number?

/-- The numbers that a request drew. -/
def numbersOf (r : Nat) (es : List Event) : List UInt64 := es.filterMap (Event.numberOf? r)

variable {start d d' : Numbering} {es fs : List Event} {e : Event} {r : Nat} {x y z : Exchange}

namespace Run

theorem single (step : Step d e d') : Run d [e] d' := .snoc .refl step

theorem trans (first : Run start es d) (second : Run d fs d') : Run start (es ++ fs) d' := by
  induction second with
  | refl => simpa using first
  | snoc _ step ih => rw [← List.append_assoc]; exact .snoc ih step

end Run

/-! ## The numbers in their order -/

/-- The numbers drawn are those from `seed` on, and the source is at the one after them. -/
structure Counted (seed : UInt64) (ns : List UInt64) (ids : RequestIds) : Prop where
  upcoming : ids.upcoming = seed + UInt64.ofNat ns.length
  each : ∀ k n, ns[k]? = some n → n = seed + UInt64.ofNat k

variable {seed : UInt64} {ns : List UInt64} {ids : RequestIds}

theorem Counted.take (h : Counted seed ns ids) : Counted seed (ns ++ [ids.take.1]) ids.take.2 where
  upcoming := by
    show ids.upcoming + 1 = _
    rw [h.upcoming, List.length_append, List.length_singleton, UInt64.ofNat_add, UInt64.add_assoc]
    rfl
  each := by
    intro k n drawn
    rcases Nat.lt_or_ge k ns.length with before | last
    · rw [List.getElem?_append_left before] at drawn
      exact h.each k n drawn
    · rw [List.getElem?_append_right last, List.getElem?_singleton] at drawn
      obtain ⟨same, number⟩ := Option.ite_none_right_eq_some.1 drawn
      obtain rfl : k = ns.length := by omega
      rw [← Option.some.inj number]
      exact h.upcoming

theorem Counted.step (h : Counted seed (numbers es) d.ids) (step : Step d e d') :
    Counted seed (numbers (es ++ [e])) d'.ids := by
  rw [numbers, filterMap_concat]
  -- without a number both lists and both sources are the same
  have kept {ids : RequestIds} (same : ids = d.ids) : Counted seed (numbers es ++ []) ids := by
    rw [List.append_nil, same]
    exact h
  cases step with
  | draw | take => exact h.take
  | keep | miss | number => exact kept rfl
  | other step later =>
    cases step with
    | @on s _ _ event =>
      cases event with
      | arrived ids => exact absurd rfl (later s ids)
      | _ => exact kept rfl
    | pass => exact kept rfl

theorem Run.counted (run : Run start es d) : Counted start.ids.upcoming (numbers es) d.ids := by
  induction run with
  | refl => exact ⟨(UInt64.add_zero _).symm, fun _ _ none => absurd none (by simp [numbers])⟩
  | snoc _ step ih => exact ih.step step

theorem Counted.toNat (h : Counted seed ns ids) {k : Nat} {n : UInt64} (drawn : ns[k]? = some n) :
    n.toNat = (seed.toNat + k) % UInt64.size := by
  rw [h.each k n drawn, UInt64.toNat_add, UInt64.toNat_ofNat', Nat.add_mod_mod]

/-- A number comes back after all others. -/
theorem Counted.ne (h : Counted seed ns ids) {i j : Nat} {n m : UInt64} (hn : ns[i]? = some n) (hm : ns[j]? = some m)
    (before : i < j) (near : j < i + UInt64.size) : n ≠ m := by
  rintro rfl
  have first := h.toNat hn
  have second := h.toNat hm
  simp only [UInt64.size] at first second near
  omega

/-! ## One request among the others -/

/-- How a request stands that began as `x`: what has become of it, its stage, and the numbers it drew. -/
inductive Standing (x y : Exchange) : Stage → List UInt64 → Prop where
  | untouched (awaits : x.Awaits y) : Standing x y .outside []
  | anonymous (awaits : x.Awaits y) (none : x.head.headers.givenId? = none) : Standing x y .anonymous []
  | drew {n : UInt64} (awaits : x.Awaits y) (none : x.head.headers.givenId? = none) : Standing x y (.drew n) [n]
  | numbered {n : UInt64} (none : x.head.headers.givenId? = none) (taken : x.TakenIn ⟨n⟩ y) : Standing x y .outside [n]
  | kept {ids : RequestIds} (given : x.head.headers.givenId?.isSome = true) (taken : x.TakenIn ids y) :
      Standing x y .outside []

/-- The request that began as `x` is one of an engine, and stands there as it should. -/
def Stands (d : Numbering) (es : List Event) (r : Nat) (x : Exchange) : Prop :=
  ∃ y, d.exchanges[r]? = some y ∧ Standing x y (d.stage r) (numbersOf r es)

theorem Standing.awaits {ns : List UInt64} (h : Standing x y .outside ns) (idle : y.handler = .idle) :
    x.Awaits y ∧ ns = [] := by
  cases h with
  | untouched awaits => exact ⟨awaits, rfl⟩
  | numbered _ taken | kept _ taken => exact absurd idle taken.begun

theorem Standing.step {stage : Stage} {ns : List UInt64} {event : Exchange.Event} (h : Standing x y stage ns)
    (step : y.Step event z) (later : ∀ ids, event ≠ .arrived ids) : Standing x z stage ns := by
  cases h with
  | untouched awaits => exact .untouched (awaits.step step later)
  | anonymous awaits none => exact .anonymous (awaits.step step later) none
  | drew awaits none => exact .drew (awaits.step step later) none
  | numbered none taken => exact .numbered none (taken.step step)
  | kept given taken => exact .kept given (taken.step step)

/-- An event at which the request draws no number. -/
theorem Standing.stands {stage : Stage} (standing : Standing x y stage (numbersOf r es))
    (there : d'.exchanges[r]? = some y) (staged : d'.stage r = stage) (undrawn : e.numberOf? r = none) :
    Stands d' (es ++ [e]) r x := by
  refine ⟨y, there, ?_⟩
  rw [numbersOf, filterMap_concat, undrawn, Option.toList_none, List.append_nil, staged]
  exact standing

/-- What happens to another request. -/
theorem Stands.beside (h : Stands d es r x) (there : d'.exchanges[r]? = d.exchanges[r]?)
    (staged : d'.stage r = d.stage r) (undrawn : e.numberOf? r = none) : Stands d' (es ++ [e]) r x := by
  obtain ⟨y, found, standing⟩ := h
  exact standing.stands (there.trans found) staged undrawn

/-- What a request is that the engine has. -/
theorem Stands.standing (h : Stands d es r x) (there : d.exchanges[r]? = some y) :
    Standing x y (d.stage r) (numbersOf r es) := by
  obtain ⟨z, found, standing⟩ := h
  obtain rfl : z = y := Option.some.inj (found.symm.trans there)
  exact standing

theorem Stands.step (h : Stands d es r x) (step : Step d e d') : Stands d' (es ++ [e]) r x := by
  have replaced {s : Nat} {w : Exchange} (there : d.exchanges[s]? = some w) (z : Exchange) :
      (d.exchanges.set s z)[s]? = some z := List.getElem?_set_self (List.getElem?_eq_some_iff.1 there).1
  cases step with
  | @keep s y there idle outside given =>
    by_cases self : s = r
    · subst self
      have standing := h.standing there
      rw [outside] at standing
      obtain ⟨awaits, none⟩ := standing.awaits idle
      have taken : Standing x (y.arrive d.ids).1 .outside (numbersOf s es) := by
        rw [none]
        exact .kept (awaits.head ▸ given) (awaits.arrive d.ids)
      exact taken.stands (replaced there _) outside rfl
    · exact h.beside (List.getElem?_set_ne self) rfl rfl
  | @miss s y there idle outside missing =>
    by_cases self : s = r
    · subst self
      have standing := h.standing there
      rw [outside] at standing
      obtain ⟨awaits, none⟩ := standing.awaits idle
      have seen : Standing x y .anonymous (numbersOf s es) := by
        rw [none]
        exact .anonymous awaits (awaits.head ▸ missing)
      exact seen.stands there (Function.update_self ..) rfl
    · exact h.beside rfl (Function.update_of_ne (Ne.symm self) ..) rfl
  | @draw s anonymous =>
    by_cases self : s = r
    · subst self
      obtain ⟨y, there, standing⟩ := h
      refine ⟨y, there, ?_⟩
      rw [anonymous] at standing
      rw [numbersOf, filterMap_concat, Event.numberOf?, if_pos rfl, ← numbersOf]
      show Standing x y (Function.update d.stage s _ s) _
      rw [Function.update_self]
      generalize numbersOf s es = ns at standing
      cases standing with
      | anonymous awaits none => exact .drew awaits none
    · exact h.beside rfl (Function.update_of_ne (Ne.symm self) ..) (if_neg self)
  | @number s y n there drew =>
    by_cases self : s = r
    · subst self
      have standing := h.standing there
      have taken : Standing x (y.arrive ⟨n⟩).1 .outside (numbersOf s es) := by
        rw [drew] at standing
        generalize numbersOf s es = ns at standing
        cases standing with
        | drew awaits none => exact .numbered none (awaits.arrive _)
      exact taken.stands (replaced there _) (Function.update_self ..) rfl
    · exact h.beside (List.getElem?_set_ne self) (Function.update_of_ne (Ne.symm self) ..) rfl
  | take => exact h.beside rfl rfl rfl
  | other step later =>
    cases step with
    | @on s y z event there _ step =>
      by_cases self : s = r
      · subst self
        have next := (h.standing there).step step fun ids same => later s ids (same ▸ rfl)
        exact next.stands (replaced there _) rfl rfl
      · exact h.beside (List.getElem?_set_ne self) rfl rfl
    | pass => exact h.beside rfl rfl rfl

theorem Run.stands (run : Run start es d) (h : Stands start [] r x) : Stands d es r x := by
  induction run with
  | refl => exact h
  | snoc _ step ih => exact ih.step step

/-! ## Every request can be taken in -/

/-- A request that is taken in by this event waits for the resolver then. -/
theorem Step.resolving (step : Step d e d') (takes : e = .kept r ∨ e = .numbered r) :
    ∃ y, d'.exchanges[r]? = some y ∧ y.handler = .resolving := by
  cases step with
  | @keep s _ there =>
    obtain rfl : s = r := by simpa using takes
    exact ⟨_, List.getElem?_set_self (List.getElem?_eq_some_iff.1 there).1, rfl⟩
  | @number s _ _ there =>
    obtain rfl : s = r := by simpa using takes
    exact ⟨_, List.getElem?_set_self (List.getElem?_eq_some_iff.1 there).1, rfl⟩
  | miss | draw | take | other => simp at takes

/-- The request is taken in, or can be. -/
def Completes (d : Numbering) (r : Nat) : Prop :=
  ∃ fs d' y, Run d fs d' ∧ d'.exchanges[r]? = some y ∧ y.handler ≠ .idle

theorem Completes.after (h : Completes d' r) (first : Step d e d') : Completes d r := by
  obtain ⟨fs, f, y, run, there, begun⟩ := h
  exact ⟨[e] ++ fs, f, y, (Run.single first).trans run, there, begun⟩

theorem Step.completes (step : Step d e d') (takes : e = .kept r ∨ e = .numbered r) : Completes d r := by
  obtain ⟨y, there, resolving⟩ := step.resolving takes
  refine ⟨[e], d', y, .single step, there, ?_⟩
  rw [resolving]
  exact HandlerPhase.noConfusion

theorem completes_of_drew {n : UInt64} (there : d.exchanges[r]? = some y) (drew : d.stage r = .drew n) : Completes d r :=
  (Step.number there drew).completes (.inr rfl)

theorem completes_of_anonymous (there : d.exchanges[r]? = some y) (anonymous : d.stage r = .anonymous) :
    Completes d r := by
  refine Completes.after ?_ (.draw anonymous)
  exact completes_of_drew there (Function.update_self ..)

theorem completes_of_idle (there : d.exchanges[r]? = some y) (idle : y.handler = .idle) (outside : d.stage r = .outside) :
    Completes d r := by
  cases given : y.head.headers.givenId? with
  | none =>
    refine Completes.after ?_ (.miss there idle outside given)
    exact completes_of_anonymous there (Function.update_self ..)
  | some id => exact (Step.keep there idle outside (by rw [given]; rfl)).completes (.inl rfl)

theorem Stands.completes (h : Stands d es r x) : Completes d r := by
  obtain ⟨y, there, standing⟩ := h
  generalize hs : d.stage r = stage at standing
  generalize numbersOf r es = ns at standing
  cases standing with
  | untouched awaits => exact completes_of_idle there awaits.idle hs
  | anonymous => exact completes_of_anonymous there hs
  | drew => exact completes_of_drew there hs
  | numbered _ taken | kept _ taken => exact ⟨[], d, y, .refl, there, taken.begun⟩

/-! ## Requests taken in at once -/

/-- An arrival is made of the steps of its request. -/
theorem run_of_engineStep {e f : Engine} {event : Engine.Event} (step : Engine.Step e event f) :
    ∃ es, Run (resting e) es (resting f) := by
  by_cases arrival : ∃ r ids, event = .on r (.arrived ids)
  · obtain ⟨r, ids, rfl⟩ := arrival
    cases step with
    | @on _ x _ _ there reads step =>
      obtain rfl : ids = e.ids := reads
      cases step with
      | arrive _ idle =>
        cases given : x.head.headers.givenId? with
        | some id =>
          have same : Exchange.Event.idsAfter x e.ids (.arrived e.ids) = e.ids :=
            congrArg (·.2.2) (e.ids.assign_of_given given)
          rw [same]
          exact ⟨_, .single (.keep (d := resting e) there idle rfl (by rw [given]; rfl))⟩
        | none =>
          have next : Exchange.Event.idsAfter x e.ids (.arrived e.ids) = e.ids.take.2 :=
            congrArg (·.2.2) (e.ids.assign_of_anonymous given)
          rw [next]
          have drawn := (Run.single (.miss (d := resting e) there idle rfl given)).snoc (.draw (Function.update_self ..))
          have put : Run (resting e) _
              { toEngine := { e with ids := e.ids.take.2, exchanges := e.exchanges.set r (x.arrive e.ids).1 }
                stage := Function.update (Function.update (Function.update (resting e).stage r .anonymous) r
                  (.drew e.ids.upcoming)) r .outside } := drawn.snoc (.number there (Function.update_self ..))
          have same : Function.update (resting e).stage r .outside = (resting e).stage := Function.update_eq_self r _
          rw [Function.update_idem, Function.update_idem, same] at put
          exact ⟨_, put⟩
  · exact ⟨_, .single (.other (d := resting e) step fun r ids same => arrival ⟨r, ids, same⟩)⟩

theorem run_of_engineRun {e f : Engine} {events : List Engine.Event} (run : Engine.Run e events f) :
    ∃ es, Run (resting e) es (resting f) := by
  induction run with
  | refl => exact ⟨[], .refl⟩
  | snoc _ step ih =>
    obtain ⟨es, before⟩ := ih
    obtain ⟨fs, after⟩ := run_of_engineStep step
    exact ⟨es ++ fs, before.trans after⟩

/-! ## Numbers and ids -/

/-- What a request that came with these fields goes by, and the numbers it drew. The fields it got are those the resolver
finds. -/
structure GoesBy (came : Headers) (y : Exchange) (ns : List UInt64) : Prop where
  /-- without an id it draws one number, before it is taken in, and has it as its only id -/
  anonymous : came.Anonymous → ns.length ≤ 1 ∧ (y.handler ≠ .idle →
    ∃ n, ns = [n] ∧ y.context.requestId = toString n.toNat
      ∧ (y.handler = .resolving → y.head.headers.values .xRequestId = [.ofNat n.toNat]
          ∧ ∀ m, m ≠ .xRequestId → y.head.headers.values m = came.values m))
  /-- with an id it draws none, and keeps its fields -/
  identified : ¬ came.Anonymous → ns = [] ∧ (y.handler ≠ .idle →
    (came.get? .xRequestId).map HeaderValue.bytes = some (utf8 y.context.requestId)
      ∧ (y.handler = .resolving → y.head.headers = came))

/-- Before it is taken in. -/
theorem goesBy_of_awaits {ns : List UInt64} (awaits : x.Awaits y) (few : ns.length ≤ 1)
    (anonymous : ¬ x.head.headers.Anonymous → ns = []) : GoesBy x.head.headers y ns where
  anonymous := fun _ => ⟨few, fun begun => absurd awaits.idle begun⟩
  identified := fun id => ⟨anonymous id, fun begun => absurd awaits.idle begun⟩

theorem Standing.goesBy {stage : Stage} {ns : List UInt64} (h : Standing x y stage ns) : GoesBy x.head.headers y ns := by
  cases h with
  | untouched awaits | anonymous awaits => exact goesBy_of_awaits awaits (Nat.zero_le _) fun _ => rfl
  | drew awaits none =>
    exact goesBy_of_awaits awaits (Nat.le_refl _) fun identified => absurd (Headers.anonymous_iff.2 none) identified
  | @numbered n none taken =>
    have assigned := RequestIds.assign_of_anonymous ⟨n⟩ none
    refine ⟨fun _ => ⟨Nat.le_refl _, fun _ => ⟨n, rfl, ?_, fun resolving => ?_⟩⟩,
      fun identified => absurd (Headers.anonymous_iff.2 none) identified⟩
    · rw [taken.id, assigned]
    · rw [taken.fields resolving, assigned]
      exact ⟨by rw [Headers.values_insert, if_pos rfl], fun m other => by rw [Headers.values_insert, if_neg other]⟩
  | @kept ids given taken =>
    obtain ⟨id, given⟩ := Option.isSome_iff_exists.1 given
    have assigned := ids.assign_of_given given
    obtain ⟨fixed, first⟩ := ids.assign_spec x.head.headers
    rw [assigned] at fixed first
    refine ⟨fun anonymous => ?_, fun _ => ⟨rfl, fun _ => ⟨?_, fun resolving => ?_⟩⟩⟩
    · rw [Headers.anonymous_iff, given] at anonymous
      cases anonymous
    · rw [first, Option.map_some, taken.id, assigned, fixed]
    · rw [taken.fields resolving, assigned]

/-- Whoever draws numbers in whichever order: they are the numbers from the first on, with zero after the last word, so
none comes twice within as many draws as there are words. A request draws a number exactly if its first `x-request-id` is
missing, empty or no text, and draws only one; the number is then its only id, and its other fields are as they were. Any
other request keeps all its fields and goes by the first id of them. While a request waits to be taken in, it can be. An
engine that takes each request in at once is a case of this. -/
theorem Run.numbers_requests {e : Engine} (idle : ∀ x ∈ e.exchanges, x.handler = .idle) (run : Run (resting e) es d) :
    (∀ k n, (numbers es)[k]? = some n → n.toNat = (e.ids.upcoming.toNat + k) % UInt64.size)
    ∧ (∀ i j n m, i < j → j < i + UInt64.size → (numbers es)[i]? = some n → (numbers es)[j]? = some m → n ≠ m)
    ∧ (∀ r x, e.exchanges[r]? = some x →
      (∃ y, d.exchanges[r]? = some y ∧ GoesBy x.head.headers y (numbersOf r es))
        ∧ (∀ event d', Step d event d' → event = .kept r ∨ event = .numbered r →
            ∃ y, d'.exchanges[r]? = some y ∧ y.handler = .resolving)
        ∧ Completes d r)
    ∧ ∀ events f, Engine.Run e events f → ∃ fs, Run (resting e) fs (resting f) := by
  refine ⟨fun k n drawn => run.counted.toNat drawn, fun i j n m before near hn hm => run.counted.ne hn hm before near, ?_,
    fun _ _ atOnce => run_of_engineRun atOnce⟩
  intro r x there
  have begins : Stands (resting e) [] r x := ⟨x, there, .untouched ⟨idle x (List.mem_of_getElem? there), rfl⟩⟩
  obtain ⟨y, there, standing⟩ := run.stands begins
  exact ⟨⟨y, there, standing.goesBy⟩, fun _ _ step => step.resolving, (run.stands begins).completes⟩

/-- Three requests at an engine whose next number is the last word: one without an id, one whose first is no text, and
one with two. -/
def crowd : Engine where
  ids := ⟨0xFFFFFFFFFFFFFFFF⟩
  now := 0
  exchanges := [.asking [], .asking [(.xRequestId, ⟨[195, 138], by decide⟩), (.xRequestId, .zero)],
    .asking [(.xRequestId, .zero), (.xRequestId, .thirteen)]]

/-- They are taken in at the same time, and a copy of the source is used in between. -/
theorem numbers_requests_crowd : ∃ es d, Run (resting crowd) es d ∧ numbers es = [0xFFFFFFFFFFFFFFFF, 0, 1]
    ∧ numbersOf 0 es = [1] ∧ numbersOf 1 es = [0xFFFFFFFFFFFFFFFF] ∧ numbersOf 2 es = []
    ∧ (∃ y, d.exchanges[1]? = some y ∧ y.head.headers.values .xRequestId = [.ofNat 0xFFFFFFFFFFFFFFFF])
    ∧ ∃ y, d.exchanges[2]? = some y ∧ y.head.headers.values .xRequestId = [.zero, .thirteen] := by
  have looked := (Run.single (.miss (d := resting crowd) (r := 0) rfl rfl rfl (by decide +kernel))).snoc
    (.miss (r := 1) rfl rfl rfl (by decide +kernel))
  have drawn := (looked.snoc (.draw (r := 1) rfl)).snoc .take
  have kept := drawn.snoc (.keep (r := 2) rfl rfl rfl (by decide +kernel))
  have run := ((kept.snoc (.draw (r := 0) rfl)).snoc (.number (r := 0) rfl rfl)).snoc (.number (r := 1) rfl rfl)
  have idle : ∀ x ∈ crowd.exchanges, x.handler = .idle := by decide +kernel
  obtain ⟨-, -, each, -⟩ := run.numbers_requests idle
  obtain ⟨⟨y, hy, numbered⟩, -⟩ := each 1 _ rfl
  obtain ⟨⟨z, hz, identified⟩, -⟩ := each 2 _ rfl
  refine ⟨_, _, run, rfl, rfl, rfl, rfl, ⟨y, hy, ?_⟩, z, hz, ?_⟩
  · cases hy
    obtain ⟨-, taken⟩ := numbered.anonymous (Headers.anonymous_iff.2 (by decide +kernel))
    obtain ⟨n, one, -, fields⟩ := taken HandlerPhase.noConfusion
    obtain rfl : 0xFFFFFFFFFFFFFFFF = n := List.head_eq_of_cons_eq one
    exact (fields rfl).1
  · cases hz
    obtain ⟨-, taken⟩ := identified.identified (mt Headers.anonymous_iff.1 (by decide +kernel))
    rw [(taken HandlerPhase.noConfusion).2 rfl]
    decide +kernel

end Numbering

end Gateway
