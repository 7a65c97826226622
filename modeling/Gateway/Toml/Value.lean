/-!
# Values of a settings document

A document is a table of values. What a table came from decides who may still add to it: a table with a header of its own
is closed to dotted keys, one that only a longer header implies may still get its own header, one made by dotted keys
may be continued by dotted keys, and an inline table is complete as it stands.

Numbers with a fraction and dates are told apart from other values; no setting takes one, so their content is not kept.
-/

namespace Gateway

namespace Toml

/-- What a table came from. -/
inductive Origin where
  | header
  | implied
  | dotted
  | inlined
deriving Repr, DecidableEq

/-- A value. -/
inductive Value where
  | string (content : String)
  | integer (n : Int)
  | fraction
  | boolean (b : Bool)
  | date
  | array (items : List Value)
  | table (origin : Origin) (entries : List (String × Value))
  /-- tables under a repeated header, in order -/
  | tables (elements : List (List (String × Value)))
deriving Inhabited

/-- The entries of a table. -/
abbrev Entries := List (String × Value)

namespace Entries

/-- The value of a key. -/
def get? (es : Entries) (key : String) : Option Value := es.lookup key

/-- Replaces the value of a key, or adds it. -/
def set (es : Entries) (key : String) (v : Value) : Entries :=
  match es with
  | [] => [(key, v)]
  | (k, w) :: rest => if k = key then (key, v) :: rest else (k, w) :: set rest key v

/-- Drops a key. -/
def erase (es : Entries) (key : String) : Entries := es.filter fun e => e.1 ≠ key

end Entries

end Toml

end Gateway
