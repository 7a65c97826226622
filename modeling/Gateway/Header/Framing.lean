import Gateway.Header.Map

/-!
# Message framing

The length of a streamed body as its header fields announce it: none when the last element of `transfer-encoding` is
`chunked`, otherwise the first `content-length` if that is a number below 2^64.
-/

namespace Gateway

/-- The announced length of a body. -/
inductive BodyLength where
  | known (bytes : Nat)
  | unknown
deriving Repr, DecidableEq, Inhabited

namespace BodyLength

/-- The length left after some bytes were taken. -/
def consume : BodyLength → Nat → BodyLength
  | known n, taken => known (n - taken)
  | unknown, _ => unknown

theorem consume_zero (l : BodyLength) : l.consume 0 = l := by cases l <;> rfl

theorem consume_consume (l : BodyLength) (a b : Nat) : (l.consume a).consume b = l.consume (a + b) := by
  cases l with
  | known n => simp only [consume, Nat.sub_sub]
  | unknown => rfl

/-- The length if it is known. -/
def toOption : BodyLength → Option Nat
  | known n => some n
  | unknown => none

end BodyLength

/-- The number a value is read as. -/
def HeaderValue.number? (v : HeaderValue) : Option Nat := v.text? >>= fun t => word? UInt64.size (trim t)

namespace Headers

/-- The elements of `transfer-encoding`, over all values that are text. -/
def transferCodings (h : Headers) : List (List Char) := (h.texts .transferEncoding).flatMap (fields ',')

/-- Whether `chunked` is the final transfer coding. -/
def isChunked (h : Headers) : Bool :=
  match h.transferCodings.getLast? with
  | some coding => sameText (trim coding) "chunked".toList
  | none => false

/-- The length the fields announce for the body. -/
def bodyLength (h : Headers) : BodyLength :=
  if h.isChunked then .unknown
  else
    match h.text? .contentLength with
    | some t =>
      match word? UInt64.size (trim t) with
      | some n => .known n
      | none => .unknown
    | none => .unknown

theorem bodyLength_eq_known_iff {source : Headers} {n : Nat} :
    source.bodyLength = .known n
      ↔ source.isChunked = false ∧ ∃ v, source.get? .contentLength = some v ∧ v.number? = some n := by
  unfold bodyLength Headers.text?
  cases hc : source.isChunked with
  | true => simp
  | false =>
    cases hg : source.get? .contentLength with
    | none => simp
    | some v =>
      simp only [HeaderValue.number?, Option.bind_eq_bind, Option.bind_some, Bool.false_eq_true, if_false, true_and,
        Option.some.injEq, exists_eq_left']
      cases ht : v.text? with
      | none => simp
      | some t => cases hw : word? UInt64.size (trim t) <;> simp [hw]

end Headers

end Gateway
