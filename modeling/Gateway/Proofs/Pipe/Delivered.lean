import Gateway.Proofs.Pipe.Ends

/-!
# How much of an announced length was read

Both sides of a pipe can ask how much is missing: the reader how many bytes are to come, and whether none are; the writer
whether all of them were read, also when the reader has left. The reader tells from the length it counts down, the writer
from a flag that is set when that length comes to nothing (`PipeEnds`).

Whatever the two sides do, they are told what the announced length and the bytes that were read make of it
(`BodyLength.account`). What the pipe took and nobody read does not count.
-/

namespace Gateway

/-- What the two sides of a pipe are told. -/
structure PipeAccount where
  /-- the bytes to come, where they are known -/
  exactLength : Option Nat
  /-- the reader knows that none are -/
  isEnded : Bool
  /-- the writer knows that none are -/
  isDelivered : Bool
deriving DecidableEq

/-- What they should be told after some bytes were read. Without an announced length nobody knows anything. -/
def BodyLength.account : BodyLength → Nat → PipeAccount
  | known length, read => ⟨some (length - read), decide (length ≤ read), decide (length ≤ read)⟩
  | unknown, _ => ⟨none, false, false⟩

/-- Reading more leaves less to come, and what was delivered stays so. -/
theorem BodyLength.account_mono (l : BodyLength) {a b : Nat} (more : a ≤ b) :
    ((l.account a).isDelivered = true → (l.account b).isDelivered = true)
      ∧ ∀ n, (l.account a).exactLength = some n → ∃ m ≤ n, (l.account b).exactLength = some m := by
  cases l with
  | unknown => exact ⟨id, fun _ none => absurd none (by simp [account])⟩
  | known length =>
    refine ⟨fun all => ?_, fun n left => ⟨length - b, ?_, rfl⟩⟩
    · exact decide_eq_true (Nat.le_trans (of_decide_eq_true all) more)
    · rw [← Option.some.inj left]
      exact Nat.sub_le_sub_left more length

namespace PipeHistory

/-- The bytes that the reader was given. -/
def bytesRead (h : PipeHistory) : Nat := (chunks h.received).flatten.length

theorem bytesRead_append (h k : PipeHistory) : bytesRead (h ++ k) = h.bytesRead + k.bytesRead := by
  simp only [bytesRead, received, List.filterMap_append, chunks_append, List.flatten_append, List.length_append]

theorem bytesRead_single (op : PipeOp) (reply : PipeReply) :
    bytesRead [(op, reply)] = (chunks (item? (op, reply)).toList).flatten.length := by
  rw [bytesRead, ← List.nil_append [(op, reply)], received_snoc]
  rfl

/-- Only data counts. -/
theorem bytesRead_of_no_data {op : PipeOp} {reply : PipeReply} (dataless : ∀ chunk, reply ≠ .read (some (.data chunk))) :
    bytesRead [(op, reply)] = 0 := by
  have undata : chunks (item? (op, reply)).toList = [] := by
    unfold item?
    split
    · rename_i item same
      cases same
      match item with
      | none | some (.trailers _) | some (.failure _) | some .done => rfl
      | some (.data chunk) => exact absurd rfl (dataless chunk)
    · rfl
  rw [bytesRead_single, undata]
  rfl

end PipeHistory

/-! ## One pipe -/

namespace Pipe

def account (p : Pipe) : PipeAccount := ⟨p.exactLength, p.isEnded, p.isDelivered⟩

theorem account_eq {p : Pipe} {length : BodyLength} {read : Nat} (remaining : p.remaining = length.consume read) :
    p.account = length.account read := by
  unfold account exactLength isEnded isDelivered
  rw [remaining]
  cases length with
  | unknown => rfl
  | known length =>
    have none : (BodyLength.known (length - read) == .known 0) = decide (length ≤ read) := by
      rw [Bool.eq_iff_iff, beq_iff_eq, BodyLength.known.injEq, Nat.sub_eq_zero_iff_le, decide_eq_true_iff]
    simp only [BodyLength.consume, BodyLength.toOption, BodyLength.account, none]

/-- The writer does not touch the count. -/
theorem remaining_byWriter {p : Pipe} {after : PipeReply × Pipe} (same : after.2.remaining = p.remaining) :
    (perform.byWriter p after).2.remaining = p.remaining := by
  unfold perform.byWriter
  split
  · exact same
  · rfl

theorem remaining_send (p : Pipe) (chunk : Bytes) : (p.send chunk).2.remaining = p.remaining := by
  unfold send
  split <;> rfl

theorem remaining_sendTrailers (p : Pipe) (fields : Headers) : (p.sendTrailers fields).2.remaining = p.remaining := by
  unfold sendTrailers
  split
  · rfl
  · split <;> rfl

/-- An operation takes from the length what is read by it. -/
theorem remaining_perform (p : Pipe) (op : PipeOp) :
    (p.perform op).2.remaining = p.remaining.consume (PipeHistory.bytesRead [(op, (p.perform op).1)]) := by
  -- only a read can be given data
  have kept (unread : op ≠ .read) (same : (p.perform op).2.remaining = p.remaining) :
      (p.perform op).2.remaining = p.remaining.consume (PipeHistory.bytesRead [(op, (p.perform op).1)]) := by
    have none : PipeHistory.item? (op, (p.perform op).1) = none := by
      cases op with
      | read => exact absurd rfl unread
      | _ => rfl
    rw [PipeHistory.bytesRead_single, none, same]
    exact p.remaining.consume_zero.symm
  cases op with
  | ask => exact kept (by simp) (remaining_byWriter rfl)
  | send chunk => exact kept (by simp) (remaining_byWriter (p.remaining_send chunk))
  | sendTrailers fields => exact kept (by simp) (remaining_byWriter (p.remaining_sendTrailers fields))
  | sendFailure cause => exact kept (by simp) (remaining_byWriter (by rw [sendFailure_eq]))
  | abort => exact kept (by simp) (remaining_byWriter (by rw [abort_eq]))
  | closeWriter => exact kept (by simp) (remaining_byWriter rfl)
  | closeReader =>
    refine kept (by simp) ?_
    simp only [perform, perform.byReader]
    split <;> rfl
  | read =>
    rw [PipeHistory.bytesRead_single]
    simp only [perform, perform.byReader]
    split
    · exact (read_counts rfl).2
    · exact p.remaining.consume_zero.symm

theorem remaining_performAll (p : Pipe) (ops : List PipeOp) :
    (performAll perform p ops).2.remaining = p.remaining.consume (PipeHistory.bytesRead (performAll perform p ops).1) := by
  induction ops generalizing p with
  | nil => exact p.remaining.consume_zero.symm
  | cons op ops ih =>
    have counted := PipeHistory.bytesRead_append [(op, (p.perform op).1)] (performAll perform (p.perform op).2 ops).1
    simp only [performAll]
    rw [ih, remaining_perform, BodyLength.consume_consume, ← counted, List.singleton_append]

end Pipe

/-! ## Its two ends -/

namespace PipeEnds

def account (e : PipeEnds) : PipeAccount := ⟨e.exactLength, e.isEnded, e.isDelivered⟩

end PipeEnds

/-- The flag says the same as the count. -/
theorem Matches.account {e : PipeEnds} {p : Pipe} (m : Matches e p) : e.account = p.account := by
  unfold PipeEnds.account Pipe.account PipeEnds.exactLength PipeEnds.isEnded PipeEnds.isDelivered
  rw [m.remaining, m.delivered]
  rfl

/-- What the two ends are told, wherever their history has led. -/
theorem PipeEnds.account_performAll (length : BodyLength) (waits : Bool) (ops : List PipeOp) :
    (performAll perform (.new length waits) ops).2.account
      = length.account (PipeHistory.bytesRead (performAll perform (.new length waits) ops).1) := by
  obtain ⟨replies, last⟩ := (Matches.new length waits).performAll ops
  rw [last.account, replies]
  exact Pipe.account_eq (Pipe.remaining_performAll (.new length waits) ops)

/-- Whatever the two sides do, before and after either has left, they are told what was announced less what was read, and
that nothing is missing exactly if as much was read, or more. So nothing but data that is read counts, what was delivered
stays delivered, and the length to come never grows, however long a chunk is. -/
theorem pipe_accounts (length : BodyLength) (waits : Bool) (ops : List PipeOp) :
    let (h, ends) := performAll PipeEnds.perform (.new length waits) ops
    let (h', pipe) := performAll Pipe.perform (.new length waits) ops
    h = h' ∧ ends.account = length.account (PipeHistory.bytesRead h)
      ∧ pipe.account = length.account (PipeHistory.bytesRead h)
      ∧ (∀ op, (∀ chunk, (ends.perform op).1 ≠ .read (some (.data chunk))) → (ends.perform op).2.account = ends.account)
      ∧ ∀ more, let after := (performAll PipeEnds.perform ends more).2
          (ends.isDelivered = true → after.isDelivered = true)
            ∧ ∀ n, ends.exactLength = some n → ∃ m ≤ n, after.exactLength = some m := by
  obtain ⟨replies, last⟩ := (Matches.new length waits).performAll ops
  have told := PipeEnds.account_performAll length waits ops
  have later (more : List PipeOp) := PipeEnds.account_performAll length waits (ops ++ more)
  simp only [performAll_append, PipeHistory.bytesRead_append] at later
  refine ⟨replies, told, last.account.symm.trans told, fun op none => ?_, fun more => ?_⟩
  · have next := later [op]
    simp only [performAll] at next
    rw [next, PipeHistory.bytesRead_of_no_data none, Nat.add_zero, told]
  · show ((PipeEnds.account _).isDelivered = true → (PipeEnds.account _).isDelivered = true)
      ∧ ∀ n, (PipeEnds.account _).exactLength = some n → ∃ m ≤ n, (PipeEnds.account _).exactLength = some m
    rw [told, later more]
    exact length.account_mono (Nat.le_add_right _ _)

/-- An empty chunk and a failure count for nothing, nor does a chunk that waits; one that is longer than announced does,
and the writer learns of it when the reader has left. -/
example : (performAll PipeEnds.perform (.new (.known 2) false)
    [.send [], .read, .sendFailure .pipeAborted, .send [1, 2, 3]]).2.account = ⟨some 2, false, false⟩
    ∧ (performAll PipeEnds.perform (.new (.known 2) false)
      [.send [1, 2, 3], .read, .closeReader]).2.account = ⟨some 0, true, true⟩ := by decide

end Gateway
