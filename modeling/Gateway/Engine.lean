import Gateway.Body.Reading
import Gateway.Exchange.Actions

/-!
# Engines

An engine serves many exchanges. They share the source of request numbers and the clock, and nothing else.

After an action everything that can move does, exchange by exchange, until every part must wait.
-/

namespace Gateway

/-- What a neighbour does to an exchange. -/
inductive Action where
  | arrive
  | pushRequest (item : Item)
  | readResponse
  | readWholeResponse
  | leave
  | resolve
  | readRequest
  | readWholeRequest
  | dropRequest
  | answer (response : Except Cause Response)
  | pushResponse (item : Item)

/-- What an action came to. -/
inductive Reply where
  | done
  /-- there was nothing to act on -/
  | ignored
  | read (item : Option Item)
  | readAll (items : List (Option Item))

namespace Exchange

/-- The number of reads after which a reader that goes on has met the end. -/
def readBound (x : Exchange) : Nat :=
  let queued : Option Transfer → Nat
    | some t => t.pump.readBound
    | none => 0
  x.potential + queued x.upload + queued x.relay + 4

/-- A read that waits for everything else. -/
def readWaiting (read : Exchange → Option (Option Item × Exchange)) (now : Nat) (x : Exchange) : Option Item × Exchange :=
  readSettled (fun x => (read x).getD (none, x)) (fun x => x.run now) x

/-- An action on an exchange, other than its arrival. -/
def act (x : Exchange) (now : Nat) : Action → Reply × Exchange
  | .arrive => (.ignored, x)
  | .pushRequest item => (if x.requestSource?.isSome then .done else .ignored, x.pushRequest item)
  | .readResponse => readOne clientRead x
  | .readWholeResponse => readAll clientRead x
  | .leave => changed x.dropClient
  | .resolve => changed x.allowResolve
  | .readRequest => readOne backendRead x
  | .readWholeRequest => readAll backendRead x
  | .dropRequest => changed x.backendDropBody
  | .answer response => changed (x.answerBackend response)
  | .pushResponse item => (if x.responseSource?.isSome then .done else .ignored, x.pushResponse item)
where
  changed : Option Exchange → Reply × Exchange
    | some y => (.done, y)
    | none => (.ignored, x)
  readOne (read : Exchange → Option (Option Item × Exchange)) (x : Exchange) : Reply × Exchange :=
    if (read x).isNone then (.ignored, x)
    else
      let (item, x) := readWaiting read now x
      (.read item, x)
  readAll (read : Exchange → Option (Option Item × Exchange)) (x : Exchange) : Reply × Exchange :=
    if (read x).isNone then (.ignored, x)
    else
      let (items, x) := readFully (readWaiting read now) x.readBound x
      (.readAll items, x)

end Exchange

/-- An engine with its exchanges. The clock counts nanoseconds. -/
structure Engine where
  ids : RequestIds
  now : Nat
  exchanges : List Exchange

namespace Engine

/-- Everything that can move does. -/
def settle (e : Engine) : Engine := { e with exchanges := e.exchanges.map fun x => x.run e.now }

/-- An action on the exchange with number `r`, before anything else moves. -/
def apply (e : Engine) (r : Nat) (a : Action) : Reply × Engine :=
  match e.exchanges[r]? with
  | none => (.ignored, e)
  | some x =>
    match a, x.handler with
    | .arrive, .idle =>
      let (x, ids) := x.arrive e.ids
      (.done, { e with ids, exchanges := e.exchanges.set r x })
    | a, _ =>
      let (reply, x) := x.act e.now a
      (reply, { e with exchanges := e.exchanges.set r x })

/-- An action on an exchange, and all that follows from it. -/
def act (e : Engine) (r : Nat) (a : Action) : Reply × Engine :=
  let (reply, e) := e.apply r a
  (reply, e.settle)

/-- Time passes, and all that follows from it. -/
def advance (e : Engine) (d : Duration) : Engine := { e with now := e.now + d.nanos }.settle

end Engine

end Gateway
