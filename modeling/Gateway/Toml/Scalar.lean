import Gateway.Address
import Gateway.Toml.Value

/-!
# Strings, numbers and dates of a settings document

Each reader takes a text and gives what it read with the rest, or nothing.
-/

namespace Gateway

namespace Toml

/-! ## Blanks, comments and line ends -/

/-- Characters above ASCII, allowed in comments and strings. -/
def isWide (c : Char) : Bool := decide (0x80 ≤ c.toNat)

/-- Characters of a comment: tab, the printable ones, and all above ASCII. -/
def isCommentChar (c : Char) : Bool := c == '\t' || (decide (0x20 ≤ c.toNat) && decide (c.toNat ≤ 0x7E)) || isWide c

/-- What follows a line end, if one is here. -/
def newline? : List Char → Option (List Char)
  | '\n' :: cs => some cs
  | '\r' :: '\n' :: cs => some cs
  | _ => none

/-- Skips blanks. -/
def skipBlanks (cs : List Char) : List Char := cs.dropWhile isBlank

/-- Skips blanks, line ends and comments; the flag says that a comment is being skipped. -/
def skipTrivia : Bool → List Char → List Char
  | _, [] => []
  | comment, c :: cs =>
    if comment && isCommentChar c then skipTrivia true cs
    else if c = '\n' then skipTrivia false cs
    else if c = '\r' ∧ cs.head? = some '\n' then skipTrivia false cs
    else if comment then c :: cs
    else if isBlank c then skipTrivia false cs
    else if c = '#' then skipTrivia true cs
    else c :: cs

/-- The end of a statement: blanks, perhaps a comment, and a line end or the end of the text. -/
def lineEnd? (cs : List Char) : Option (List Char) :=
  let cs := skipBlanks cs
  let cs := match cs with
    | '#' :: rest => rest.dropWhile isCommentChar
    | _ => cs
  match cs with
  | [] => some []
  | _ => newline? cs

/-! ## Strings -/

/-- The character a one-letter escape stands for. -/
def escaped? : Char → Option Char
  | 'b' => some '\x08'
  | 't' => some '\t'
  | 'n' => some '\n'
  | 'f' => some '\x0c'
  | 'r' => some '\r'
  | '"' => some '"'
  | '\\' => some '\\'
  | _ => none

/-- The character of a number written in hexadecimal; surrogates and numbers above U+10FFFF are none. -/
def scalar? (digits : List Char) : Option Char := do
  let values ← digits.mapM IpAddress.hexValue?
  let n := values.foldl (fun n v => n * 16 + v) 0
  if n < 0xD800 ∨ (0xE000 ≤ n ∧ n < 0x110000) then some (Char.ofNat n) else none

/-- The escape after a backslash. -/
def readEscape : List Char → Option (Char × List Char)
  | 'u' :: cs => if 4 ≤ cs.length then (scalar? (cs.take 4)).map fun c => (c, cs.drop 4) else none
  | 'U' :: cs => if 8 ≤ cs.length then (scalar? (cs.take 8)).map fun c => (c, cs.drop 8) else none
  | c :: cs => (escaped? c).map fun e => (e, cs)
  | [] => none

/-- Characters a string in double quotes may hold as they are. -/
def isBasicChar (c : Char) : Bool := isCommentChar c && c != '"' && c != '\\'

/-- Characters a string in single quotes may hold. -/
def isLiteralChar (c : Char) : Bool := isCommentChar c && c != Char.ofNat 0x27

/-- A string in double quotes after the first quote. -/
def readBasic : Nat → List Char → Option (List Char × List Char)
  | 0, _ => none
  | fuel + 1, cs =>
    match cs with
    | '"' :: rest => some ([], rest)
    | '\\' :: rest => do
      let (c, rest) ← readEscape rest
      let (s, rest) ← readBasic fuel rest
      return (c :: s, rest)
    | c :: rest => if isBasicChar c then (readBasic fuel rest).map fun (s, rest) => (c :: s, rest) else none
    | [] => none

/-- A string in single quotes after the first quote. -/
def readLiteral (cs : List Char) : Option (List Char × List Char) :=
  let s := cs.takeWhile isLiteralChar
  match cs.drop s.length with
  | c :: rest => if c = Char.ofNat 0x27 then some (s, rest) else none
  | [] => none

/-- Drops the line end that may follow the opening quotes of a string over several lines. -/
def skipFirstNewline (cs : List Char) : List Char := (newline? cs).getD cs

/-- A run of quotes in a string over several lines. Three close the string; up to two before them belong to it. The
answer holds the quotes that belong to the string, whether it closes, and the rest. -/
def readQuoteRun (quote : Char) (cs : List Char) : List Char × Bool × List Char :=
  let run := (cs.takeWhile (· == quote)).length
  if run < 3 then (List.replicate run quote, false, cs.drop run)
  else
    let taken := min run 5
    (List.replicate (taken - 3) quote, true, cs.drop taken)

/-- A string over several lines after its opening quotes. With `escapes` a backslash starts an escape, and one before a
line end skips all blanks and line ends that follow. -/
def readLines (quote : Char) (escapes : Bool) : Nat → List Char → Option (List Char × List Char)
  | 0, _ => none
  | fuel + 1, cs =>
    match cs with
    | [] => none
    | c :: rest =>
      if c = quote then
        match readQuoteRun quote cs with
        | (quotes, true, rest) => some (quotes, rest)
        | (quotes, false, rest) => (readLines quote escapes fuel rest).map fun (s, rest) => (quotes ++ s, rest)
      else if escapes && c == '\\' then
        match newline? (skipBlanks rest) with
        | some rest =>
          readLines quote escapes fuel (skipTriviaLines rest)
        | none => do
          let (e, rest) ← readEscape rest
          let (s, rest) ← readLines quote escapes fuel rest
          return (e :: s, rest)
      else
        match newline? cs with
        | some rest => (readLines quote escapes fuel rest).map fun (s, rest) => ('\n' :: s, rest)
        | none =>
          if isCommentChar c then (readLines quote escapes fuel rest).map fun (s, rest) => (c :: s, rest)
          else none
where
  /-- Skips blanks and line ends. -/
  skipTriviaLines : List Char → List Char
    | [] => []
    | c :: cs =>
      if isBlank c || c == '\n' then skipTriviaLines cs
      else if c = '\r' ∧ cs.head? = some '\n' then skipTriviaLines cs
      else c :: cs

/-- A string of any kind. -/
def readString (cs : List Char) : Option (String × List Char) :=
  let single := Char.ofNat 0x27
  let text (r : Option (List Char × List Char)) : Option (String × List Char) := r.map fun (s, rest) => (String.ofList s, rest)
  match cs with
  | '"' :: '"' :: '"' :: rest => text (readLines '"' true (rest.length + 1) (skipFirstNewline rest))
  | '"' :: rest => text (readBasic (rest.length + 1) rest)
  | c :: rest =>
    if c = single then
      match rest with
      | d :: e :: rest' =>
        if d = single ∧ e = single then text (readLines single false (rest'.length + 1) (skipFirstNewline rest'))
        else text (readLiteral rest)
      | _ => text (readLiteral rest)
    else none
  | [] => none

/-! ## Keys -/

/-- Characters of a key without quotes. -/
def isKeyChar (c : Char) : Bool := isAlphanumeric c || c == '-' || c == '_'

/-- One part of a key: bare, or a string on one line. -/
def readSimpleKey (cs : List Char) : Option (String × List Char) :=
  let text (r : Option (List Char × List Char)) : Option (String × List Char) := r.map fun (s, rest) => (String.ofList s, rest)
  match cs with
  | '"' :: rest => text (readBasic (rest.length + 1) rest)
  | c :: rest =>
    if c = Char.ofNat 0x27 then text (readLiteral rest)
    else
      let bare := cs.takeWhile isKeyChar
      if bare.isEmpty then none else some (String.ofList bare, cs.drop bare.length)
  | [] => none

/-- The parts of a key with dots between them. -/
def readKeyParts : Nat → List Char → Option (List String × List Char)
  | 0, _ => none
  | fuel + 1, cs => do
    let (part, rest) ← readSimpleKey (skipBlanks cs)
    match skipBlanks rest with
    | '.' :: rest => do
      let (parts, rest) ← readKeyParts fuel rest
      return (part :: parts, rest)
    | rest => return ([part], rest)

/-- The depth at which nesting is refused, of values and of keys. -/
def depthLimit : Nat := 80

/-- A key of fewer than eighty parts. -/
def readKey (cs : List Char) : Option (List String × List Char) := do
  let (parts, rest) ← readKeyParts (cs.length + 1) cs
  if parts.length < depthLimit then some (parts, rest) else none

/-! ## Numbers -/

/-- Further digits of a number; an underscore stands between digits only. -/
def moreDigits (isDigit : Char → Bool) : List Char → Option (List Char × List Char)
  | [] => some ([], [])
  | c :: cs =>
    if isDigit c then (moreDigits isDigit cs).map fun (ds, rest) => (c :: ds, rest)
    else if c = '_' then
      match cs with
      | d :: _ => if isDigit d then moreDigits isDigit cs else none
      | [] => none
    else some ([], c :: cs)

/-- The digits of a number, at least one. -/
def readDigits (isDigit : Char → Bool) (cs : List Char) : Option (List Char × List Char) :=
  match cs with
  | c :: _ => if isDigit c then moreDigits isDigit cs else none
  | [] => none

/-- Decimal digits without a zero in front, unless zero is all. -/
def readWhole (cs : List Char) : Option (List Char × List Char) :=
  match cs with
  | '0' :: rest => some (['0'], rest)
  | _ => readDigits Gateway.isDigit cs

/-- The number of digits. -/
def number (base : Nat) (ds : List Char) : Nat :=
  ds.foldl (fun n d => n * base + (IpAddress.hexValue? d).getD 0) 0

/-- An integer of 64 bits. -/
def word? (negative : Bool) (n : Nat) : Option Int :=
  if negative then if n ≤ 9223372036854775808 then some (-(n : Int)) else none
  else if n < 9223372036854775808 then some n else none

/-- Whether `digits · 10 ^ exponent` lies above all finite numbers of double precision, and so has no value. -/
def overflows (digits : Nat) (exponent : Int) : Bool :=
  let limit := (1 <<< 1024) - (1 <<< 970)
  if digits = 0 then false
  else
    let size : Int := (Nat.toDigits 10 digits).length + exponent
    if size > 310 then true
    else if size < 300 then false
    else if 0 ≤ exponent then decide (limit ≤ digits * Nat.pow 10 exponent.toNat)
    else decide (limit * Nat.pow 10 (-exponent).toNat ≤ digits)

/-- The exponent of a number, if it has one. -/
def readExponent (cs : List Char) : Option (Option Int × List Char) :=
  match cs with
  | c :: rest =>
    if c = 'e' ∨ c = 'E' then
      let (negative, rest) := match rest with
        | '-' :: r => (true, r)
        | '+' :: r => (false, r)
        | r => (false, r)
      (readDigits Gateway.isDigit rest).map fun (ds, rest) =>
        let n : Int := number 10 ds
        (some (if negative then -n else n), rest)
    else some (none, cs)
  | [] => some (none, [])

/-- A decimal number after its sign: an integer, or with a fraction or an exponent. -/
def readDecimal (negative : Bool) (cs : List Char) : Option (Value × List Char) := do
  let (whole, rest) ← readWhole cs
  let (fraction, rest) ← match rest with
    | '.' :: r => (readDigits Gateway.isDigit r).map fun (ds, r) => (some ds, r)
    | _ => some (none, rest)
  let (exponent, rest) ← readExponent rest
  if fraction.isNone && exponent.isNone then
    return (.integer (← word? negative (number 10 whole)), rest)
  else
    let digits := number 10 (whole ++ fraction.getD [])
    if !negative && overflows digits (exponent.getD 0 - (fraction.getD []).length) then none
    else return (.fraction, rest)

/-- A number. -/
def readNumber (cs : List Char) : Option (Value × List Char) :=
  let based (base : Nat) (isDigit : Char → Bool) (cs : List Char) : Option (Value × List Char) := do
    let (ds, rest) ← readDigits isDigit cs
    return (.integer (← word? false (number base ds)), rest)
  let signed (negative : Bool) (cs : List Char) : Option (Value × List Char) :=
    match cs with
    | 'i' :: 'n' :: 'f' :: rest => some (.fraction, rest)
    | 'n' :: 'a' :: 'n' :: rest => some (.fraction, rest)
    | _ => readDecimal negative cs
  match cs with
  | '0' :: 'x' :: rest => based 16 (fun c => (IpAddress.hexValue? c).isSome) rest
  | '0' :: 'o' :: rest => based 8 (fun c => decide ('0' ≤ c) && decide (c ≤ '7')) rest
  | '0' :: 'b' :: rest => based 2 (fun c => c == '0' || c == '1') rest
  | '+' :: rest => signed false rest
  | '-' :: rest => signed true rest
  | _ => signed false cs

/-! ## Dates and times -/

/-- A number of exactly `width` digits. -/
def readFixed (width : Nat) (cs : List Char) : Option (Nat × List Char) :=
  let ds := cs.take width
  if ds.length = width ∧ ds.all Gateway.isDigit then some (number 10 ds, cs.drop width) else none

/-- The number of days of a month. -/
def daysIn (year month : Nat) : Nat :=
  let leap := year % 4 = 0 ∧ (year % 100 ≠ 0 ∨ year % 400 = 0)
  if month = 2 then if leap then 29 else 28
  else if [4, 6, 9, 11].contains month then 30
  else 31

/-- What follows a date. -/
def skipDate? (cs : List Char) : Option (List Char) := do
  let (year, cs) ← readFixed 4 cs
  let cs ← match cs with | '-' :: r => some r | _ => none
  let (month, cs) ← readFixed 2 cs
  let cs ← match cs with | '-' :: r => some r | _ => none
  let (day, cs) ← readFixed 2 cs
  if 1 ≤ month ∧ month ≤ 12 ∧ 1 ≤ day ∧ day ≤ daysIn year month then some cs else none

/-- What follows a time of day. -/
def skipTime? (cs : List Char) : Option (List Char) := do
  let (hour, cs) ← readFixed 2 cs
  let cs ← match cs with | ':' :: r => some r | _ => none
  let (minute, cs) ← readFixed 2 cs
  let cs ← match cs with | ':' :: r => some r | _ => none
  let (second, cs) ← readFixed 2 cs
  if hour > 23 ∨ minute > 59 ∨ second > 60 then none
  else
    match cs with
    | '.' :: d :: r => if Gateway.isDigit d then some (r.dropWhile Gateway.isDigit) else none
    | '.' :: [] => none
    | _ => some cs

/-- What follows an offset from universal time; the text itself where there is none. -/
def skipOffset? (cs : List Char) : Option (List Char) :=
  match cs with
  | c :: rest =>
    if c = 'Z' ∨ c = 'z' then some rest
    else if c = '+' ∨ c = '-' then do
      let (hour, rest) ← readFixed 2 rest
      let rest ← match rest with | ':' :: r => some r | _ => none
      let (minute, rest) ← readFixed 2 rest
      if hour ≤ 23 ∧ minute ≤ 59 then some rest else none
    else some cs
  | [] => some []

/-- What follows a date, a time, or both with an offset. -/
def skipDateTime? (cs : List Char) : Option (List Char) :=
  match skipDate? cs with
  | some rest =>
    match rest with
    | c :: after =>
      if c = 'T' ∨ c = 't' ∨ c = ' ' then
        match skipTime? after with
        | some after => skipOffset? after
        | none => some rest
      else some rest
    | [] => some []
  | none => skipTime? cs

end Toml

end Gateway
