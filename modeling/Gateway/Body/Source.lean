import Gateway.Failure.Cause
import Gateway.Header.Framing

/-!
# Bodies as they are read

A body is read item by item: data, then perhaps trailers, then its end, or a failure at any point. A read that finds
nothing yet gives no item. A source is a body that still arrives: its items are queued by whoever sends them.
-/

namespace Gateway

/-- What a read of a body gives. -/
inductive Item where
  | data (bytes : Bytes)
  | trailers (fields : Headers)
  | failure (cause : Cause)
  | done
deriving DecidableEq

/-- A body that still arrives. -/
structure Source where
  /-- items that arrived and were not read -/
  items : List Item
  /-- the end is told as soon as it is the next item, without a read -/
  tellsEnd : Bool
  /-- items read, the end apart -/
  pulled : Nat
  /-- the end was read -/
  ended : Bool
  /-- nobody reads it any more -/
  released : Bool
deriving DecidableEq

namespace Source

/-- A source with some items queued. -/
def ofItems (items : List Item) (tellsEnd : Bool) : Source := ⟨items, tellsEnd, 0, false, false⟩

/-- One more item arrives; what arrives after the release is lost. -/
def push (s : Source) (item : Item) : Source :=
  if s.released then s else { s with items := s.items ++ [item] }

/-- Reads an item, if one is there. The end can be read again and again. -/
def read (s : Source) : Option Item × Source :=
  if s.ended then (some .done, s)
  else
    match s.items with
    | [] => (none, s)
    | .done :: rest => (some .done, { s with items := rest, ended := true })
    | item :: rest => (some item, { s with items := rest, pulled := s.pulled + 1 })

/-- Gives the source up. -/
def release (s : Source) : Source := { s with released := true }

/-- Whether the body is known to be over without another read. -/
def isEnded (s : Source) : Bool := s.tellsEnd && (s.ended || s.items.head? == some .done)

end Source

/-- A body: one known chunk, `none` once it was read, or one that still arrives. -/
inductive Body where
  | whole (rest : Option Bytes)
  | arriving (source : Source)
deriving DecidableEq

namespace Body

/-- The body without data. -/
def empty : Body := whole none

/-- The body of one chunk; an empty chunk is no data. -/
def full (bytes : Bytes) : Body := whole (if bytes.isEmpty then none else some bytes)

instance : Inhabited Body := ⟨empty⟩

/-- Reads an item, if one is there. -/
def read : Body → Option Item × Body
  | whole (some bytes) => (some (.data bytes), whole none)
  | whole none => (some .done, whole none)
  | arriving source => match source.read with | (item, source) => (item, arriving source)

/-- Whether the body is known to be over without another read. -/
def isEnded : Body → Bool
  | whole rest => rest.isNone
  | arriving source => source.isEnded

/-- The bytes still to come, where they are known. -/
def exactLength : Body → Option Nat
  | whole rest => some (rest.elim 0 List.length)
  | arriving _ => none

/-- The source of a body that still arrives. -/
def source? : Body → Option Source
  | whole _ => none
  | arriving source => some source

/-- One more item arrives. -/
def push (b : Body) (item : Item) : Body :=
  match b with
  | whole rest => whole rest
  | arriving source => arriving (source.push item)

/-- Gives the body up. -/
def release : Body → Body
  | whole rest => whole rest
  | arriving source => arriving source.release

/-- An upper bound of the items that can be read before a read finds nothing or the end. -/
def size : Body → Nat
  | whole _ => 2
  | arriving source => source.items.length + 1

end Body

end Gateway
