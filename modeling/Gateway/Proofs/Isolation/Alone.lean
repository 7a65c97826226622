import Gateway.Proofs.Isolation.Rest
import Gateway.Proofs.RequestId

/-!
# An exchange as if it were alone

An engine serves the exchanges it has in the order their neighbours act. `Exchange.alone` serves one exchange and knows
of no other: it is told what its own neighbours do and that time passes, and it is given the source of request numbers as
it will find it when its request arrives. `Engine.serve_alone` says that an exchange cannot tell the difference, whatever
the engine is told besides.

The number matters only through the id the request gets (`alone_congr`).
-/

namespace Gateway

/-- What an exchange is told: its neighbours act, or time passes. -/
inductive Exchange.Order where
  | act (a : Action)
  | pass (d : Duration)

/-- What an engine is told: a neighbour acts on the exchange of this number, or time passes. -/
inductive Engine.Order where
  | act (r : Nat) (a : Action)
  | pass (d : Duration)

/-- What is said of the exchange of a number. -/
def Engine.Order.about (r : Nat) : Engine.Order → Option Exchange.Order
  | act s a => if s = r then some (.act a) else none
  | pass d => some (.pass d)

theorem HeaderValue.eq_of_bytes {v w : HeaderValue} (same : v.bytes = w.bytes) : v = w := by
  cases v
  cases w
  cases same
  rfl

/-- Nothing shows of the numbers but the id. -/
theorem RequestIds.assign_congr {ids ids' : RequestIds} {h : Headers} (same : (ids.assign h).1 = (ids'.assign h).1) :
    (ids.assign h).2.1 = (ids'.assign h).2.1 := by
  unfold assign at same ⊢
  split
  · rfl
  · rename_i none
    simp only [none] at same
    have bytes := congrArg utf8 same
    rw [utf8_toString, utf8_toString] at bytes
    exact congrArg (h.insert .xRequestId) (HeaderValue.eq_of_bytes bytes)

namespace Exchange

variable {x y : Exchange} {now : Nat} {ids ids' : RequestIds}

/-! ## Once a request has arrived -/

theorem arrive_congr (same : (x.arrive ids).1.context.requestId = (x.arrive ids').1.context.requestId) :
    (x.arrive ids).1 = (x.arrive ids').1 := by
  have id : (ids.assign x.head.headers).1 = (ids'.assign x.head.headers).1 := same
  have fields := RequestIds.assign_congr id
  simp only [arrive, id, fields]

/-! ## Alone -/

/-- What an engine does with an exchange that is acted on, before anything else moves. -/
def meet (x : Exchange) (ids : RequestIds) (now : Nat) (a : Action) : Reply × Exchange :=
  match a, x.handler with
  | .arrive, .idle => (.done, (x.arrive ids).1)
  | a, _ => x.act now a

/-- Serves an exchange with no other beside it. -/
def alone (ids : RequestIds) : Nat → Exchange → List Order → List Reply × Exchange
  | _, x, [] => ([], x)
  | now, x, .act a :: os =>
    let (reply, y) := x.meet ids now a
    let (replies, z) := alone ids now (y.run now) os
    (reply :: replies, z)
  | now, x, .pass d :: os => alone ids (now + d.nanos) (x.run (now + d.nanos)) os

theorem meet_arrive (idle : x.handler = .idle) (ids : RequestIds) (now : Nat) :
    x.meet ids now .arrive = (.done, (x.arrive ids).1) := by
  simp only [meet, idle]

theorem meet_later {a : Action} (later : a = .arrive → x.handler = .idle → False) (ids : RequestIds) (now : Nat) :
    x.meet ids now a = x.act now a := by
  unfold meet
  split
  · rename_i idle
    exact (later rfl idle).elim
  · rfl

/-- A request arrives, or the numbers do not matter. -/
theorem meet_cases (x : Exchange) (now : Nat) (a : Action) :
    (x.handler = .idle ∧ ∀ ids, x.meet ids now a = (.done, (x.arrive ids).1)) ∨ ∀ ids, x.meet ids now a = x.act now a := by
  by_cases first : a = .arrive ∧ x.handler = .idle
  · obtain ⟨rfl, idle⟩ := first
    exact .inl ⟨idle, fun ids => meet_arrive idle ids now⟩
  · exact .inr fun ids => meet_later (fun arrives idle => first ⟨arrives, idle⟩) ids now

theorem run_of_meet (x : Exchange) (ids : RequestIds) (now : Nat) (a : Action) :
    ∃ es, Run x es (x.meet ids now a).2 := by
  rcases x.meet_cases now a with ⟨idle, arrives⟩ | acts
  · rw [arrives]
    exact ⟨_, .single (.arrive ids idle)⟩
  · rw [acts]
    exact x.run_of_act now a

theorem run_of_alone (ids : RequestIds) (os : List Order) (now : Nat) (x : Exchange) :
    ∃ es, Run x es (x.alone ids now os).2 := by
  induction os generalizing now x with
  | nil => exact ⟨[], .refl⟩
  | cons o os ih =>
    cases o with
    | act a =>
      obtain ⟨es, met⟩ := x.run_of_meet ids now a
      obtain ⟨fs, settled⟩ := run_of_run now (x.meet ids now a).2
      obtain ⟨gs, later⟩ := ih now ((x.meet ids now a).2.run now)
      exact ⟨_, (met.trans settled).trans later⟩
    | pass d =>
      obtain ⟨es, settled⟩ := run_of_run (now + d.nanos) x
      obtain ⟨fs, later⟩ := ih (now + d.nanos) (x.run (now + d.nanos))
      exact ⟨_, settled.trans later⟩

/-- A request that was acted on and has arrived, and everything else has gone on. -/
theorem begun_settled {es : List Event} (run : Run x es y) (begun : x.handler ≠ .idle) : (y.run now).handler ≠ .idle := by
  obtain ⟨fs, settled⟩ := run_of_run now y
  exact ((run.trans settled).begun begun).1

/-- After its arrival the numbers do not matter to a request. -/
theorem alone_of_begun (ids ids' : RequestIds) (os : List Order) (now : Nat) {x : Exchange} (begun : x.handler ≠ .idle) :
    x.alone ids now os = x.alone ids' now os := by
  induction os generalizing now x with
  | nil => rfl
  | cons o os ih =>
    cases o with
    | act a =>
      have same : x.meet ids now a = x.meet ids' now a := by
        rcases x.meet_cases now a with ⟨idle, -⟩ | acts
        · exact absurd idle begun
        · rw [acts, acts]
      obtain ⟨es, met⟩ := x.run_of_meet ids' now a
      simp only [alone, same, ih now (begun_settled met begun)]
    | pass d => exact ih (now + d.nanos) (begun_settled .refl begun)

/-- Other numbers than those an exchange finds at its first act come too late to show, or are the first to. -/
theorem alone_act (x : Exchange) (first later : RequestIds) (now : Nat) (a : Action) (os : List Order) :
    ∃ ids, x.alone ids now (.act a :: os)
      = ((x.meet first now a).1 :: (((x.meet first now a).2.run now).alone later now os).1,
          (((x.meet first now a).2.run now).alone later now os).2) := by
  rcases x.meet_cases now a with ⟨idle, arrives⟩ | acts
  · refine ⟨first, ?_⟩
    have begun : (x.arrive first).1.handler ≠ .idle := nofun
    simp only [alone, arrives, alone_of_begun later first os now (begun_settled .refl begun)]
  · refine ⟨later, ?_⟩
    simp only [alone, acts]

/-- Of the numbers nothing shows but the id the request has in the end. -/
theorem alone_congr (os : List Order) (now : Nat) (x : Exchange)
    (id : (x.alone ids now os).2.context.requestId = (x.alone ids' now os).2.context.requestId) :
    x.alone ids now os = x.alone ids' now os := by
  induction os generalizing now x with
  | nil => rfl
  | cons o os ih =>
    cases o with
    | act a =>
      rcases x.meet_cases now a with ⟨idle, arrives⟩ | acts
      · have kept (ids : RequestIds) :
            (x.alone ids now (.act a :: os)).2.context.requestId = (x.arrive ids).1.context.requestId := by
          obtain ⟨es, settled⟩ := run_of_run now (x.arrive ids).1
          obtain ⟨fs, later⟩ := run_of_alone ids os now ((x.arrive ids).1.run now)
          simp only [alone, arrives]
          exact ((settled.trans later).begun nofun).2
        rw [kept, kept] at id
        have begun : (x.arrive ids').1.handler ≠ .idle := nofun
        simp only [alone, arrives, arrive_congr id, alone_of_begun ids ids' os now (begun_settled .refl begun)]
      · simp only [alone, acts] at id ⊢
        rw [ih _ _ id]
    | pass d => exact ih _ _ id

end Exchange

/-! ## Among others -/

namespace Engine

variable {e : Engine} {r s : Nat} {x : Exchange}

/-- Serves what an engine is told. The replies name the exchange they are about. -/
def serve : Engine → List Order → List (Nat × Reply) × Engine
  | e, [] => ([], e)
  | e, .act r a :: os =>
    let (reply, f) := e.act r a
    let (replies, g) := serve f os
    ((r, reply) :: replies, g)
  | e, .pass d :: os => serve (e.advance d) os

/-- The replies about the exchange of a number. -/
def repliesTo (r : Nat) (replies : List (Nat × Reply)) : List Reply :=
  replies.filterMap fun reply => if reply.1 = r then some reply.2 else none

/-- An exchange is acted on as if it were alone, and all others are left as they are. -/
theorem apply_eq (hx : e.exchanges[r]? = some x) (a : Action) :
    ∃ ids, e.apply r a
      = ((x.meet e.ids e.now a).1, { ids, now := e.now, exchanges := e.exchanges.set r (x.meet e.ids e.now a).2 }) := by
  unfold apply
  simp only [hx]
  split
  · rename_i idle
    exact ⟨(x.arrive e.ids).2, by rw [Exchange.meet_arrive idle]⟩
  · rename_i later
    exact ⟨e.ids, by rw [Exchange.meet_later later]⟩

theorem act_eq (hx : e.exchanges[r]? = some x) (a : Action) :
    ∃ f, e.act r a = ((x.meet e.ids e.now a).1, f) ∧ f.now = e.now
      ∧ f.exchanges[r]? = some ((x.meet e.ids e.now a).2.run e.now) := by
  obtain ⟨ids, applied⟩ := apply_eq hx a
  have bound : r < e.exchanges.length := (List.getElem?_eq_some_iff.1 hx).1
  refine ⟨settle { ids, now := e.now, exchanges := e.exchanges.set r (x.meet e.ids e.now a).2 }, by rw [act, applied],
    rfl, ?_⟩
  simp only [settle, List.getElem?_map, List.getElem?_set_self bound, Option.map_some]

/-- An action on another exchange lets this one go on, and that is all. -/
theorem act_other (hx : e.exchanges[r]? = some x) (other : s ≠ r) (a : Action) :
    (e.act s a).2.now = e.now ∧ (e.act s a).2.exchanges[r]? = some (x.run e.now) := by
  cases hs : e.exchanges[s]? with
  | none =>
    have applied : e.apply s a = (.ignored, e) := by simp only [apply, hs]
    rw [act, applied]
    exact ⟨rfl, by simp [settle, hx]⟩
  | some y =>
    obtain ⟨ids, applied⟩ := apply_eq hs a
    rw [act, applied]
    exact ⟨rfl, by simp [settle, List.getElem?_set_ne other, hx]⟩

theorem advance_eq (hx : e.exchanges[r]? = some x) (d : Duration) :
    (e.advance d).now = e.now + d.nanos ∧ (e.advance d).exchanges[r]? = some (x.run (e.now + d.nanos)) :=
  ⟨rfl, by simp [advance, settle, hx]⟩

theorem repliesTo_cons (r s : Nat) (reply : Reply) (replies : List (Nat × Reply)) :
    repliesTo r ((s, reply) :: replies) = if s = r then reply :: repliesTo r replies else repliesTo r replies := by
  unfold repliesTo
  split
  · rename_i same
    simp [same]
  · rename_i other
    simp [other]

/-- An exchange at rest is served among others as if it were alone. -/
theorem serve_alone (hx : e.exchanges[r]? = some x) (rest : x.Blocked e.now) (os : List Order) :
    ∃ ids, repliesTo r (e.serve os).1 = (x.alone ids e.now (os.filterMap (Order.about r))).1
      ∧ (e.serve os).2.exchanges[r]? = some (x.alone ids e.now (os.filterMap (Order.about r))).2 := by
  induction os generalizing e x with
  | nil => exact ⟨e.ids, rfl, hx⟩
  | cons o os ih =>
    cases o with
    | pass d =>
      obtain ⟨now, went⟩ := advance_eq hx d
      have later := ih went (by rw [now]; exact x.blocked_run _)
      rwa [now] at later
    | act s a =>
      by_cases self : s = r
      · subst self
        obtain ⟨f, acted, now, went⟩ := act_eq hx a
        obtain ⟨ids, replies, final⟩ := ih went (by rw [now]; exact Exchange.blocked_run _ _)
        have told : (Order.act s a :: os).filterMap (Order.about s) = .act a :: os.filterMap (Order.about s) := by
          simp [Order.about]
        obtain ⟨all, same⟩ := x.alone_act e.ids ids e.now a (os.filterMap (Order.about s))
        rw [now] at replies final
        refine ⟨all, ?_, ?_⟩
        · simp only [told, serve, acted, repliesTo_cons, if_true, replies, same]
        · simp only [told, serve, acted, final, same]
      · -- this one may go on after an act on another, but it is at rest
        obtain ⟨now, went⟩ := act_other hx self a
        rw [Exchange.run_of_blocked rest] at went
        have told : (Order.act s a :: os).filterMap (Order.about r) = os.filterMap (Order.about r) := by
          simp [Order.about, self]
        obtain ⟨ids, replies, final⟩ := ih went (by rw [now]; exact rest)
        refine ⟨ids, ?_, ?_⟩
        · simp only [told, serve, repliesTo_cons, if_neg self, replies, now]
        · simp only [told, serve, final, now]

end Engine

end Gateway
