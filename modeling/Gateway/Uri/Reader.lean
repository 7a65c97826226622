import Gateway.Uri.Basic

/-!
# Reading request URIs

A text that starts with `/` is a path with an optional query. Any other text starts with a scheme and an authority, or
is an authority as a whole. An authority ends at the first of `/`, `?` and `#`; it may hold one pair of brackets, one
colon after the last `@` or `]`, and a percent sign only before an `@` or within brackets. A `#` ends the path or query
and drops what follows.
-/

namespace Gateway

namespace Uri

/-- Characters a scheme consists of. -/
def isSchemeChar (c : Char) : Bool := isAlphanumeric c || c == '+' || c == '-' || c == '.'

/-- Characters an authority consists of, the percent sign apart. -/
def isAuthorityChar (c : Char) : Bool :=
  isAlphanumeric c || "!$&'()*+,-.:;=@[]_~".toList.contains c

/-- Characters that end an authority. -/
def endsAuthority (c : Char) : Bool := c == '/' || c == '?' || c == '#'

/-- Characters of a path. Above ASCII all are allowed. -/
def isPathChar (c : Char) : Bool :=
  let n := c.toNat
  n == 0x21 || n == 0x22 || (0x24 ≤ n && n ≤ 0x3B) || n == 0x3D || (0x40 ≤ n && n ≤ 0x5F) || (0x61 ≤ n && n ≤ 0x7E)
    || 0x80 ≤ n

/-- Characters of a query. Above ASCII all are allowed. -/
def isQueryChar (c : Char) : Bool :=
  let n := c.toNat
  n == 0x21 || (0x24 ≤ n && n ≤ 0x3B) || n == 0x3D || (0x3F ≤ n && n ≤ 0x7E) || 0x80 ≤ n

/-! ## Scheme -/

/-- A scheme before `://`, and what follows it; the text must be longer than three characters. -/
def splitScheme? (cs : List Char) : Option (List Char × List Char) :=
  if cs.length ≤ 3 then none
  else
    let scheme := cs.takeWhile isSchemeChar
    match cs.drop scheme.length with
    | ':' :: '/' :: '/' :: rest => some (scheme, rest)
    | _ => none

/-- The scheme in its stored form: `http` and `https` in lower case. -/
def normalScheme (scheme : List Char) : List Char :=
  if lower scheme = "http".toList ∨ lower scheme = "https".toList then lower scheme else scheme

/-! ## Authority -/

/-- What an authority has shown so far. -/
structure AuthorityScan where
  /-- colons since the start, the last `@` or the closing bracket -/
  colons : Nat
  opened : Bool
  closed : Bool
  /-- a percent sign that neither userinfo nor brackets account for yet -/
  percent : Bool
  /-- the last character was `@` -/
  atEnd : Bool
deriving Repr, DecidableEq

namespace AuthorityScan

def start : AuthorityScan := ⟨0, false, false, false, false⟩

/-- One more character of an authority. -/
def next (s : AuthorityScan) (c : Char) : Except Flaw AuthorityScan :=
  if c = ':' then
    if s.colons ≥ 8 then .error .authority else .ok { s with colons := s.colons + 1, atEnd := false }
  else if c = '[' then
    if s.percent || s.opened then .error .authority else .ok { s with opened := true, atEnd := false }
  else if c = ']' then
    if !s.opened || s.closed then .error .authority
    else .ok { s with closed := true, colons := 0, percent := false, atEnd := false }
  else if c = '@' then .ok { s with colons := 0, percent := false, atEnd := true }
  else if c = '%' then .ok { s with percent := true, atEnd := false }
  else if isAuthorityChar c then .ok { s with atEnd := false }
  else .error .character

/-- Whether an authority may end here. -/
def accepts (s : AuthorityScan) : Bool :=
  s.opened == s.closed && decide (s.colons ≤ 1) && !s.atEnd && !s.percent

end AuthorityScan

/-- The authority at the start of a text, and the rest. -/
def readAuthority (s : AuthorityScan) : List Char → Except Flaw (List Char × List Char)
  | [] => if s.accepts then .ok ([], []) else .error .authority
  | c :: cs =>
    if endsAuthority c then
      if s.accepts then .ok ([], c :: cs) else .error .authority
    else
      match s.next c with
      | .error e => .error e
      | .ok s =>
        match readAuthority s cs with
        | .error e => .error e
        | .ok (authority, rest) => .ok (c :: authority, rest)

/-! ## Path and query -/

/-- A query up to a `#` or the end. -/
def readQuery : List Char → Except Flaw (List Char)
  | [] => .ok []
  | c :: cs =>
    if c = '#' then .ok []
    else if isQueryChar c then
      match readQuery cs with
      | .ok query => .ok (c :: query)
      | .error e => .error e
    else .error .character

/-- A path with an optional query, up to a `#` or the end. -/
def readPathAndQuery : List Char → Except Flaw (List Char × Option (List Char))
  | [] => .ok ([], none)
  | c :: cs =>
    if c = '#' then .ok ([], none)
    else if c = '?' then
      match readQuery cs with
      | .ok query => .ok ([], some query)
      | .error e => .error e
    else if isPathChar c then
      match readPathAndQuery cs with
      | .ok (path, query) => .ok (c :: path, query)
      | .error e => .error e
    else .error .character

/-! ## The whole URI -/

/-- A URI in absolute form after its scheme. -/
def readAbsolute (scheme rest : List Char) : Except Flaw Uri :=
  if rest.isEmpty then .error .empty
  else
    match readAuthority .start rest with
    | .error e => .error e
    | .ok (authority, rest) =>
      if authority.isEmpty then .error .format
      else
        match readPathAndQuery rest with
        | .error e => .error e
        | .ok (path, query) =>
          .ok {
            scheme := some (String.ofList scheme)
            authority := some (String.ofList authority)
            path := String.ofList path
            query := query.map String.ofList }

/-- A URI that is an authority as a whole. A lone character that ends an authority is reported as a character. -/
def readAuthorityForm (cs : List Char) : Except Flaw Uri :=
  match readAuthority .start cs with
  | .error e => .error e
  | .ok (authority, rest) =>
    if rest.isEmpty then
      .ok { scheme := none, authority := some (String.ofList authority), path := "", query := none }
    else .error (if cs.length = 1 then .character else .format)

/-- A URI that starts with `/`. -/
def readOriginForm (cs : List Char) : Except Flaw Uri :=
  match readPathAndQuery cs with
  | .error e => .error e
  | .ok (path, query) =>
    .ok { scheme := none, authority := none, path := String.ofList path, query := query.map String.ofList }

/-- The URI of a text. -/
def ofChars (cs : List Char) : Except Flaw Uri :=
  match cs with
  | [] => .error .empty
  | ['*'] => .ok { scheme := none, authority := none, path := "*", query := none }
  | '/' :: _ => readOriginForm cs
  | _ =>
    match splitScheme? cs with
    | some (scheme, rest) =>
      if scheme.length > 64 then .error .schemeTooLong else readAbsolute (normalScheme scheme) rest
    | none => readAuthorityForm cs

/-- The URI of a text of at most 65534 bytes. -/
def ofString (s : String) : Except Flaw Uri :=
  if s.utf8ByteSize > 65534 then .error .tooLong else ofChars s.toList

end Uri

end Gateway
