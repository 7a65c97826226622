import Gateway.Body.Pump

/-!
# Reading while others move

A reader that finds nothing lets everything else go on until it must wait, and looks once more. A read in full goes on
until the end, a failure, or a read that finds nothing even then.
-/

namespace Gateway

/-- One read; if nothing is there, everything else goes on by `settle` before a second one. -/
def readSettled {σ : Type} (read : σ → Option Item × σ) (settle : σ → σ) (s : σ) : Option Item × σ :=
  match read s with
  | (some item, s) => (some item, s)
  | (none, s) => read (settle s)

/-- Whether a reader goes on after an item. -/
def Item.isMore : Item → Bool
  | data _ | trailers _ => true
  | failure _ | done => false

/-- At most `fuel` reads, up to the first that gives no more. -/
def readFully {σ : Type} (read : σ → Option Item × σ) : Nat → σ → List (Option Item) × σ
  | 0, s => ([], s)
  | fuel + 1, s =>
    match read s with
    | (some item, s) =>
      if item.isMore then
        let (items, s) := readFully read fuel s
        (some item :: items, s)
      else ([some item], s)
    | (none, s) => ([none], s)

namespace Pump

/-- The reader of the pipe reads an item. -/
def read (p : Pump) : Option Item × Pump :=
  let (item, pipe) := p.pipe.read
  (item, { p with pipe })

/-- The reader of the pipe leaves. -/
def closeReader (p : Pump) : Pump := { p with pipe := p.pipe.closeReader }

/-- One more item of the body arrives. -/
def push (p : Pump) (item : Item) : Pump := { p with source := p.source.push item }

/-- After the pump ended the writer leaves; with `aborts` a failed pump lets its reader see that something is
missing. -/
def release (aborts : Bool) (p : Pump) : Pump :=
  match p.result? with
  | none => p
  | some result =>
    if !p.pipe.writer then p
    else if aborts && result.cause?.isSome then { p with pipe := p.pipe.abort }
    else { p with pipe := p.pipe.closeWriter }

/-- The number of reads after which a reader that goes on has met the end. -/
def readBound (p : Pump) : Nat := p.source.size + p.pipe.queue.length + 4

end Pump

end Gateway
