import Gateway.Toml.Value

/-!
# Building a table

Keys and headers add to a table step by step. Nothing may be defined twice: a key is set once, a table has one header,
dotted keys continue only what dotted keys began, and nothing is added to a value.
-/

namespace Gateway

namespace Toml

/-- Changes the table at a path below `es`. Tables that are missing are made: by dotted keys if `dotted`, otherwise as
implied by a header. `change` is told whether the table was made by dotted keys. In a list of tables the last one is
meant. -/
def descend (dotted : Bool) (change : Bool → Entries → Option Entries) (madeByDots : Bool) :
    List String → Entries → Option Entries
  | [], es => change madeByDots es
  | key :: path, es =>
    match es.get? key with
    | none =>
      (descend dotted change dotted path []).map fun sub =>
        es ++ [(key, .table (if dotted then .dotted else .implied) sub)]
    | some (.table .inlined _) => none
    | some (.table origin sub) =>
      if dotted ∧ origin = .header then none
      else (descend dotted change (origin == .dotted) path sub).map fun sub => es.set key (.table origin sub)
    | some (.tables elements) =>
      match elements.getLast? with
      | none => none
      | some last =>
        (descend dotted change false path last).map fun last => es.set key (.tables (elements.dropLast ++ [last]))
    | some _ => none

/-- Sets a key, given by its parts, to a value. -/
def insert (es : Entries) (key : List String) (v : Value) : Option Entries :=
  match key.getLast? with
  | none => none
  | some last =>
    let path := key.dropLast
    descend true (fun madeByDots es =>
      if madeByDots == path.isEmpty then none
      else if (es.get? last).isSome then none
      else some (es ++ [(last, v)])) false path es

/-- A document while it is read: the tables that are complete, and the one that keys are added to. -/
structure Draft where
  root : Entries
  current : Entries
  /-- where the current table belongs; empty for the document itself -/
  path : List String
  /-- the current table is one of a list -/
  listed : Bool

namespace Draft

def empty : Draft := { root := [], current := [], path := [], listed := false }

/-- Puts the current table in its place. -/
def close (d : Draft) : Option Entries :=
  match d.path.getLast? with
  | none => some d.current
  | some last =>
    descend false (fun _ es =>
      if d.listed then
        match es.get? last with
        | none => some (es ++ [(last, .tables [d.current])])
        | some (.tables elements) => some (es.set last (.tables (elements ++ [d.current])))
        | some _ => none
      else
        match es.get? last with
        | none => some (es ++ [(last, .table .header d.current)])
        | some _ => none) false d.path.dropLast d.root

/-- Whether the path below `es` leads to a table that may get a header of its own; then its entries so far. -/
def reopened? (es : Entries) (last : String) : Option Entries :=
  match es.get? last with
  | none => some []
  | some (.table .implied sub) => some sub
  | some _ => none

/-- The entries of the table at a path; none where there is no table. Missing tables are empty. -/
def lookAt : List String → Entries → Option Entries
  | [], es => some es
  | key :: path, es =>
    match es.get? key with
    | none => some []
    | some (.table .inlined _) => none
    | some (.table _ sub) => lookAt path sub
    | some (.tables elements) => elements.getLast? >>= lookAt path
    | some _ => none

/-- A header: the keys that follow belong to the table it names. -/
def openTable (d : Draft) (path : List String) : Option Draft := do
  let root ← d.close
  let last ← path.getLast?
  let siblings ← lookAt path.dropLast root
  let current ← reopened? siblings last
  let root ← descend false (fun _ es => some (es.erase last)) false path.dropLast root
  return { root, current, path, listed := false }

/-- A repeated header: the keys that follow belong to a new table of a list. -/
def openListed (d : Draft) (path : List String) : Option Draft := do
  let root ← d.close
  let last ← path.getLast?
  let root ← descend false (fun _ es =>
    match es.get? last with
    | none => some (es ++ [(last, .tables [])])
    | some (.tables _) => some es
    | some _ => none) false path.dropLast root
  return { root, current := [], path, listed := true }

/-- A key with its value. -/
def add (d : Draft) (key : List String) (v : Value) : Option Draft :=
  (insert d.current key v).map fun current => { d with current }

end Draft

end Toml

end Gateway
