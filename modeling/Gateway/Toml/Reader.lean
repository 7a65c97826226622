import Gateway.Toml.Scalar
import Gateway.Toml.Tree

/-!
# Reading a settings document

A document is a sequence of lines: keys with values, headers, comments. Arrays may go over several lines, inline tables
may not. Values are nested less than eighty deep.
-/

namespace Gateway

namespace Toml

mutual

/-- A value; `depth` counts the arrays and inline tables around it. -/
def readValue (depth : Nat) : Nat → List Char → Option (Value × List Char)
  | 0, _ => none
  | fuel + 1, cs =>
    match cs with
    | '[' :: rest =>
      if depth + 1 ≥ depthLimit then none
      else (readItems (depth + 1) fuel rest).map fun (items, rest) => (.array items, rest)
    | '{' :: rest =>
      if depth + 1 ≥ depthLimit then none
      else
        match skipBlanks rest with
        | '}' :: rest => some (.table .inlined [], rest)
        | _ => (readPairs (depth + 1) fuel [] rest).map fun (es, rest) => (.table .inlined es, rest)
    | 't' :: 'r' :: 'u' :: 'e' :: rest => some (.boolean true, rest)
    | 'f' :: 'a' :: 'l' :: 's' :: 'e' :: rest => some (.boolean false, rest)
    | c :: _ =>
      if c = '"' ∨ c = Char.ofNat 0x27 then (readString cs).map fun (s, rest) => (.string s, rest)
      else
        match skipDateTime? cs with
        | some rest => some (.date, rest)
        | none => readNumber cs
    | [] => none

/-- The rest of an array after its opening bracket or a comma. -/
def readItems (depth : Nat) : Nat → List Char → Option (List Value × List Char)
  | 0, _ => none
  | fuel + 1, cs =>
    match skipTrivia false cs with
    | ']' :: rest => some ([], rest)
    | cs => do
      let (v, rest) ← readValue depth fuel cs
      match skipTrivia false rest with
      | ',' :: rest => do
        let (vs, rest) ← readItems depth fuel rest
        return (v :: vs, rest)
      | ']' :: rest => return ([v], rest)
      | _ => none

/-- The pairs of an inline table after its opening brace or a comma, added to `es`. -/
def readPairs (depth : Nat) : Nat → Entries → List Char → Option (Entries × List Char)
  | 0, _, _ => none
  | fuel + 1, es, cs => do
    let (key, rest) ← readKey cs
    match rest with
    | '=' :: rest => do
      let (v, rest) ← readValue depth fuel (skipBlanks rest)
      let es ← insert es key v
      match skipBlanks rest with
      | ',' :: rest => readPairs depth fuel es rest
      | '}' :: rest => return (es, rest)
      | _ => none
    | _ => none

end

/-- A header after its first bracket. -/
def readHeader (d : Draft) (cs : List Char) : Option (Draft × List Char) :=
  match cs with
  | '[' :: rest => do
    let (path, rest) ← readKey rest
    match rest with
    | ']' :: ']' :: rest => return (← d.openListed path, ← lineEnd? rest)
    | _ => none
  | _ => do
    let (path, rest) ← readKey cs
    match rest with
    | ']' :: rest => return (← d.openTable path, ← lineEnd? rest)
    | _ => none

/-- A key with its value. -/
def readPair (d : Draft) (cs : List Char) : Option (Draft × List Char) := do
  let (key, rest) ← readKey cs
  match rest with
  | '=' :: rest => do
    let (v, rest) ← readValue 0 (2 * rest.length + 2) (skipBlanks rest)
    return (← d.add key v, ← lineEnd? rest)
  | _ => none

/-- The lines of a document. -/
def readLinesOf : Nat → Draft → List Char → Option Entries
  | 0, _, _ => none
  | fuel + 1, d, cs =>
    match skipBlanks cs with
    | [] => d.close
    | '#' :: rest => lineEnd? ('#' :: rest) >>= readLinesOf fuel d
    | '[' :: rest => readHeader d rest >>= fun (d, rest) => readLinesOf fuel d rest
    | '\n' :: rest => readLinesOf fuel d rest
    | '\r' :: rest =>
      match rest with
      | '\n' :: rest => readLinesOf fuel d rest
      | _ => none
    | cs => readPair d cs >>= fun (d, rest) => readLinesOf fuel d rest

/-- The table a text describes; a byte order mark in front is skipped. -/
def read? (cs : List Char) : Option Entries :=
  let cs := match cs with
    | '\uFEFF' :: rest => rest
    | _ => cs
  readLinesOf (cs.length + 1) .empty cs

end Toml

end Gateway
