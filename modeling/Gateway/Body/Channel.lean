import Gateway.Body.Pipe

/-!
# Channels

What joins the two ends of a pipe. A channel hands messages over in the order they were sent. Each of its senders has one
place: a sender whose message was not received yet has to wait, and a new sender never has to. A cell hands over one
value, once. A demand is a mark that the receiving side sets and the sending side looks at.
-/

namespace Gateway

/-- Messages on their way from some senders to one receiver. -/
structure Channel (α : Type) where
  /-- what was not received, with the numbers of the senders -/
  waiting : List (Nat × α)
  /-- the senders that are there -/
  senders : List Nat
  /-- the number of the next sender -/
  next : Nat
  receiver : Bool
  /-- the receiver has met the end -/
  ended : Bool

namespace Channel

variable {α : Type}

/-- A channel with the sender 0. -/
def new : Channel α := ⟨[], [0], 1, true, false⟩

/-- Whether the place of a sender is free. -/
def readiness (c : Channel α) (sender : Nat) : Readiness :=
  if !c.receiver then .closed
  else if c.waiting.any (·.1 == sender) then .pending
  else .ready

theorem readiness_eq_ready {c : Channel α} {sender : Nat} (there : c.receiver = true)
    (free : (c.waiting.any fun sent => sent.1 == sender) = false) : c.readiness sender = .ready := by
  rw [readiness, if_neg (by simp [there]), if_neg (by simp [free])]

theorem readiness_eq_closed {c : Channel α} {sender : Nat} (gone : c.receiver = false) : c.readiness sender = .closed := by
  rw [readiness, if_pos (by simp [gone])]

/-- Sends a message if the place of its sender is free. -/
def send (c : Channel α) (sender : Nat) (message : α) : Readiness × Channel α :=
  match c.readiness sender with
  | .ready => (.ready, { c with waiting := c.waiting ++ [(sender, message)] })
  | r => (r, c)

/-- One more sender. -/
def addSender (c : Channel α) : Nat × Channel α :=
  (c.next, { c with senders := c.senders ++ [c.next], next := c.next + 1 })

/-- A sender leaves. What it has sent stays. -/
def dropSender (c : Channel α) (sender : Nat) : Channel α := { c with senders := c.senders.erase sender }

/-- Receives a message; `none` if there is none yet, `some none` if there will be none. -/
def receive (c : Channel α) : Option (Option α) × Channel α :=
  match c.waiting with
  | (_, message) :: rest => (some (some message), { c with waiting := rest })
  | [] => if c.senders.isEmpty then (some none, { c with ended := true }) else (none, c)

/-- The receiver leaves. -/
def closeReceiver (c : Channel α) : Channel α := { c with receiver := false }

end Channel

/-- A value on its way from one giver to one taker. -/
structure Cell (α : Type) where
  value : Option α
  /-- the giver is there, and has not given -/
  giver : Bool
  taker : Bool

namespace Cell

variable {α : Type}

def new : Cell α := ⟨none, true, true⟩

/-- Gives the value, which is lost without a taker; the flag says whether it is not. -/
def give (c : Cell α) (value : α) : Bool × Cell α :=
  if c.taker then (true, { c with value := some value, giver := false }) else (false, { c with giver := false })

/-- The giver leaves. -/
def dropGiver (c : Cell α) : Cell α := { c with giver := false }

/-- Takes the value; `none` if it was not given yet, `some none` if there will be none. -/
def take (c : Cell α) : Option (Option α) × Cell α :=
  match c.value with
  | some value => (some (some value), { c with value := none })
  | none => if c.giver then (none, c) else (some none, c)

/-- The taker leaves. -/
def closeTaker (c : Cell α) : Cell α := { c with taker := false }

end Cell

/-- What the receiving side of a pipe has let its sending side know. -/
inductive Demand where
  /-- it is gone -/
  | closed
  /-- it has asked for nothing yet -/
  | pending
  | ready
deriving Repr, DecidableEq

end Gateway
