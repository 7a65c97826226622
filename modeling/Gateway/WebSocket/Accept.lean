import Gateway.Header.Value

/-!
# The answer to a websocket key

The accepting side proves that it read the handshake: it appends a fixed text to the key of the request, takes the SHA-1
digest, and answers with the base64 form of the digest.
-/

namespace Gateway

namespace Sha1

/-- The five words of a digest. -/
structure State where
  a : UInt32
  b : UInt32
  c : UInt32
  d : UInt32
  e : UInt32
deriving Repr, DecidableEq

def initial : State := ⟨0x67452301, 0xEFCDAB89, 0x98BADCFE, 0x10325476, 0xC3D2E1F0⟩

/-- Rotation to the left. -/
def rotate (x : UInt32) (n : UInt32) : UInt32 := (x <<< n) ||| (x >>> (32 - n))

/-- The `n` low bytes of a number, the highest first. -/
def bigEndian : Nat → Nat → Bytes
  | 0, _ => []
  | n + 1, x => UInt8.ofNat (x >>> (8 * n)) :: bigEndian n x

/-- A message with its padding: the bit `1`, zeros up to 56 bytes of a block, and the length in bits. -/
def padded (message : Bytes) : Bytes :=
  message ++ 0x80 :: List.replicate ((119 - message.length % 64) % 64) 0 ++ bigEndian 8 (message.length * 8)

/-- The words of a block. -/
def words : Bytes → List UInt32
  | a :: b :: c :: d :: rest =>
    (a.toUInt32 <<< 24 ||| b.toUInt32 <<< 16 ||| c.toUInt32 <<< 8 ||| d.toUInt32) :: words rest
  | _ => []

/-- Function and constant of a round. -/
def mix (s : State) (round : Nat) : UInt32 × UInt32 :=
  if round < 20 then ((s.b &&& s.c) ||| (~~~s.b &&& s.d), 0x5A827999)
  else if round < 40 then (s.b ^^^ s.c ^^^ s.d, 0x6ED9EBA1)
  else if round < 60 then ((s.b &&& s.c) ||| (s.b &&& s.d) ||| (s.c &&& s.d), 0x8F1BBCDC)
  else (s.b ^^^ s.c ^^^ s.d, 0xCA62C1D6)

/-- The rounds from `round` on. The schedule holds the last sixteen words, the oldest first. -/
def rounds : Nat → Nat → List UInt32 → State → State
  | 0, _, _, s => s
  | fuel + 1, round, schedule, s =>
    let w := schedule.headD 0
    let fresh := rotate (schedule.getD 13 0 ^^^ schedule.getD 8 0 ^^^ schedule.getD 2 0 ^^^ w) 1
    let (f, k) := mix s round
    let next : State := ⟨rotate s.a 5 + f + s.e + k + w, s.a, rotate s.b 30, s.c, s.d⟩
    rounds fuel (round + 1) (schedule.tail ++ [fresh]) next

/-- The state after one more block. -/
def absorb (s : State) (block : List UInt32) : State :=
  let t := rounds 80 0 block s
  ⟨s.a + t.a, s.b + t.b, s.c + t.c, s.d + t.d, s.e + t.e⟩

/-- The state after all blocks of sixteen words. -/
def absorbAll : Nat → State → List UInt32 → State
  | 0, s, _ => s
  | blocks + 1, s, ws => absorbAll blocks (absorb s (ws.take 16)) (ws.drop 16)

/-- The digest of a message, twenty bytes. -/
def digest (message : Bytes) : Bytes :=
  let ws := words (padded message)
  let s := absorbAll (ws.length / 16) initial ws
  [s.a, s.b, s.c, s.d, s.e].flatMap fun w => bigEndian 4 w.toNat

end Sha1

namespace Base64

/-- The character of six bits. -/
def digit (n : Nat) : Char :=
  ("ABCDEFGHIJKLMNOPQRSTUVWXYZabcdefghijklmnopqrstuvwxyz0123456789+/".toList)[n % 64]?.getD 'A'

/-- The base64 form of bytes, padded to a multiple of four characters. -/
def encode : Bytes → List Char
  | a :: b :: c :: rest =>
    let n := a.toNat * 65536 + b.toNat * 256 + c.toNat
    digit (n / 262144) :: digit (n / 4096) :: digit (n / 64) :: digit n :: encode rest
  | [a, b] =>
    let n := a.toNat * 1024 + b.toNat * 4
    [digit (n / 4096), digit (n / 64), digit n, '=']
  | [a] =>
    let n := a.toNat * 16
    [digit (n / 64), digit n, '=', '=']
  | [] => []

end Base64

namespace WebSocket

/-- The text that is appended to a key. -/
def keySuffix : Bytes := charBytes "258EAFA5-E914-47DA-95CA-C5AB0DC85B11".toList

/-- The answer to a key. -/
def acceptText (key : Bytes) : List Char := Base64.encode (Sha1.digest (key ++ keySuffix))

/-- The answer to a key as a field value. -/
def accept? (key : Bytes) : Option HeaderValue := HeaderValue.ofBytes? (charBytes (acceptText key))

end WebSocket

end Gateway
