import Gateway.Text.Ascii

/-!
# Network addresses

IPv4 and IPv6 addresses with their texts, and the socket address of a client. An IPv6 address is shown with its first
longest run of at least two zero groups left out. An IPv6 address that embeds an IPv4 address (`::ffff:a.b.c.d`) is the
same client as that IPv4 address.
-/

namespace Gateway

/-- An IPv4 address by its octets, or an IPv6 address by its eight groups. -/
inductive IpAddress where
  | v4 (a b c d : UInt8)
  | v6 (groups : List UInt16)
deriving Repr, DecidableEq

namespace IpAddress

/-- The IPv4 address an IPv6 address embeds, any other address itself. -/
def canonical : IpAddress → IpAddress
  | v6 [0, 0, 0, 0, 0, 0xFFFF, x, y] =>
    v4 (UInt8.ofNat (x.toNat / 256)) (UInt8.ofNat (x.toNat % 256)) (UInt8.ofNat (y.toNat / 256))
      (UInt8.ofNat (y.toNat % 256))
  | a => a

/-! ## Text -/

/-- The number of zero groups at the start. -/
def zeroRun (gs : List UInt16) : Nat := (gs.takeWhile (· == 0)).length

/-- Position and length of the first longest run of zero groups. -/
def longestZeroRun : List UInt16 → Nat × Nat
  | [] => (0, 0)
  | g :: gs =>
    let here := zeroRun (g :: gs)
    let (start, length) := longestZeroRun gs
    if here ≥ length then (0, here) else (start + 1, length)

/-- Groups in hexadecimal, with colons between them. -/
def groupsText (gs : List UInt16) : String :=
  ":".intercalate (gs.map fun g => String.ofList (Nat.toDigits 16 g.toNat))

/-- The text of an address. -/
def text : IpAddress → String
  | v4 a b c d => ".".intercalate ([a, b, c, d].map fun o => toString o.toNat)
  | v6 gs =>
    let (start, length) := longestZeroRun gs
    if length < 2 then groupsText gs
    else groupsText (gs.take start) ++ "::" ++ groupsText (gs.drop (start + length))

/-! ## Reading -/

/-- The value of a hexadecimal digit. -/
def hexValue? (c : Char) : Option Nat :=
  if isDigit c then some (digitValue c)
  else if 'a' ≤ c ∧ c ≤ 'f' then some (c.toNat - 'a'.toNat + 10)
  else if 'A' ≤ c ∧ c ≤ 'F' then some (c.toNat - 'A'.toNat + 10)
  else none

/-- An octet: one to three digits without a zero in front, below 256. -/
def readOctet? (cs : List Char) : Option (UInt8 × List Char) :=
  let digits := (cs.takeWhile isDigit).take 4
  match decimal? digits with
  | some n =>
    if digits.length ≤ 3 ∧ n < 256 ∧ (digits.head? ≠ some '0' ∨ digits.length = 1) then
      some (UInt8.ofNat n, cs.drop digits.length)
    else none
  | none => none

/-- An IPv4 address at the start of a text, and the rest. -/
def readV4? (cs : List Char) : Option (IpAddress × List Char) := do
  let (a, cs) ← readOctet? cs
  let cs ← match cs with | '.' :: r => some r | _ => none
  let (b, cs) ← readOctet? cs
  let cs ← match cs with | '.' :: r => some r | _ => none
  let (c, cs) ← readOctet? cs
  let cs ← match cs with | '.' :: r => some r | _ => none
  let (d, cs) ← readOctet? cs
  return (v4 a b c d, cs)

/-- A group of one to four hexadecimal digits, and the rest. -/
def readGroup? (cs : List Char) : Option (UInt16 × List Char) :=
  let digits := cs.takeWhile fun c => (hexValue? c).isSome
  if digits.isEmpty || digits.length > 4 then none
  else some (UInt16.ofNat (digits.foldl (fun n c => n * 16 + (hexValue? c).getD 0) 0), cs.drop digits.length)

/-- At most `limit` groups with colons between them, and the rest. An IPv4 address counts for the last two groups; the
flag says that one was read. `first` is set before the first group, which has no colon in front. -/
def readGroups (first : Bool) : Nat → List Char → List UInt16 × Bool × List Char
  | 0, cs => ([], false, cs)
  | limit + 1, cs =>
    let start := if first then some cs else match cs with | ':' :: r => some r | _ => none
    match start with
    | none => ([], false, cs)
    | some body =>
      match (if limit ≥ 1 then readV4? body else none) with
      | some (v4 a b c d, rest) =>
        ([UInt16.ofNat (a.toNat * 256 + b.toNat), UInt16.ofNat (c.toNat * 256 + d.toNat)], true, rest)
      | _ =>
        match readGroup? body with
        | none => ([], false, cs)
        | some (g, rest) =>
          let (gs, embedded, rest) := readGroups false limit rest
          (g :: gs, embedded, rest)

/-- An IPv6 address at the start of a text, and the rest. -/
def readV6? (cs : List Char) : Option (IpAddress × List Char) :=
  let (front, embedded, rest) := readGroups true 8 cs
  if front.length = 8 then some (v6 front, rest)
  else if embedded then none
  else
    match rest with
    | ':' :: ':' :: rest =>
      let (back, _, rest) := readGroups true (7 - front.length) rest
      some (v6 (front ++ List.replicate (8 - front.length - back.length) 0 ++ back), rest)
    | _ => none

end IpAddress

/-- The address of one end of a connection. -/
structure SocketAddress where
  ip : IpAddress
  service : UInt16
deriving Repr, DecidableEq

namespace SocketAddress

/-- The service number after a colon, up to the end of the text. -/
def readService? : List Char → Option UInt16
  | ':' :: digits => do
    let n ← decimal? digits
    if n < 65536 then some (UInt16.ofNat n) else none
  | _ => none

/-- A scope number after a percent sign is read over. -/
def skipScope? : List Char → Option (List Char)
  | '%' :: cs => do
    let digits := cs.takeWhile isDigit
    let n ← decimal? digits
    if n < UInt32.size then some (cs.drop digits.length) else none
  | cs => some cs

/-- The socket address a text spells: `1.2.3.4:80`, `[::1]:80` or `[fe80::1%2]:80`. -/
def ofString? (s : String) : Option SocketAddress :=
  match s.toList with
  | '[' :: cs => do
    let (ip, rest) ← IpAddress.readV6? cs
    let rest ← skipScope? rest
    match rest with
    | ']' :: rest => return ⟨ip, ← readService? rest⟩
    | _ => none
  | cs => do
    let (ip, rest) ← IpAddress.readV4? cs
    return ⟨ip, ← readService? rest⟩

/-- The text of a socket address; an IPv6 address is put in brackets. -/
def text (a : SocketAddress) : String :=
  let ip := match a.ip with
    | .v4 .. => a.ip.text
    | .v6 _ => "[" ++ a.ip.text ++ "]"
  ip ++ ":" ++ toString a.service.toNat

/-- The text of the client at this address, as it is told to a backend. -/
def clientHost (a : SocketAddress) : String := a.ip.canonical.text

end SocketAddress

end Gateway
