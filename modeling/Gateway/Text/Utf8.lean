/-!
# Bytes and UTF-8

Field values and bodies are bytes. Text becomes bytes by its UTF-8 form; bytes become text either strictly,
where every malformed sequence is an error, or with U+FFFD in place of every malformed part.

Both readers share `scan?`, which looks at the next scalar value of a byte sequence. Where the bytes are malformed
it tells how many bytes the malformed part has: the longest start of a well-formed sequence, and at least one.
-/

namespace Gateway

/-- Bytes of a message. -/
abbrev Bytes := List UInt8

/-- The UTF-8 form of a text. -/
def utf8 (s : String) : Bytes := s.toList.flatMap String.utf8EncodeChar

/-- The bytes of a character are not the start of those of another one. -/
theorem utf8EncodeChar_append_inj {c d : Char} {bs cs : Bytes}
    (h : String.utf8EncodeChar c ++ bs = String.utf8EncodeChar d ++ cs) : c = d ∧ bs = cs := by
  have decoded (x : Char) (rest : Bytes) :
      (String.utf8EncodeChar x ++ rest).toByteArray.utf8DecodeChar? 0 = some x := by
    rw [List.toByteArray_append]
    exact ByteArray.utf8DecodeChar?_utf8EncodeChar_append
  have same : some c = some d := by rw [← decoded c bs, h, decoded d cs]
  obtain rfl := Option.some.inj same
  exact ⟨rfl, List.append_cancel_left h⟩

/-- The bytes of a text begin with those of another exactly if its characters do. -/
theorem utf8_prefix_iff {s t : String} : utf8 s <+: utf8 t ↔ s.toList <+: t.toList := by
  unfold utf8
  generalize s.toList = cs
  generalize t.toList = ds
  constructor
  · intro h
    induction cs generalizing ds with
    | nil => exact List.nil_prefix
    | cons c cs ih =>
      obtain ⟨rest, hr⟩ := h
      rw [List.flatMap_cons, List.append_assoc] at hr
      cases ds with
      | nil => exact absurd (List.append_eq_nil_iff.1 hr).1 String.utf8EncodeChar_ne_nil
      | cons d ds =>
        rw [List.flatMap_cons] at hr
        obtain ⟨rfl, same⟩ := utf8EncodeChar_append_inj hr
        exact (List.prefix_cons_inj c).2 (ih ds ⟨rest, same⟩)
  · rintro ⟨rest, rfl⟩
    rw [List.flatMap_append]
    exact List.prefix_append _ _

/-- What follows the first `n` bytes of a text, `none` if these end within a character or beyond the text. -/
def dropBytes? (n : Nat) (cs : List Char) : Option (List Char) :=
  match n, cs with
  | 0, cs => some cs
  | _ + 1, [] => none
  | n + 1, c :: cs => if c.utf8Size ≤ n + 1 then dropBytes? (n + 1 - c.utf8Size) cs else none
termination_by structural cs

theorem dropBytes?_append (cs rest : List Char) :
    dropBytes? (cs.flatMap String.utf8EncodeChar).length (cs ++ rest) = some rest := by
  induction cs with
  | nil => cases rest <;> rfl
  | cons c cs ih =>
    have positive := c.utf8Size_pos
    rw [List.flatMap_cons, List.length_append, String.length_utf8EncodeChar, List.cons_append]
    obtain ⟨n, hn⟩ : ∃ n, c.utf8Size + (cs.flatMap String.utf8EncodeChar).length = n + 1 :=
      Nat.exists_eq_succ_of_ne_zero (by omega)
    have left : n + 1 - c.utf8Size = (cs.flatMap String.utf8EncodeChar).length := by omega
    rw [hn, dropBytes?, if_pos (by omega), left, ih]

/-- Characters as bytes; meant for text whose characters are all below U+0100. -/
def charBytes (cs : List Char) : Bytes := cs.map fun c => UInt8.ofNat c.toNat

/-- Bytes as the characters of the same number. -/
def byteChars (bs : Bytes) : List Char := bs.map fun b => Char.ofNat b.toNat

/-- ASCII text has one byte for each character. -/
theorem utf8_ofList_ascii (cs : List Char) (h : ∀ c ∈ cs, c.toNat < 128) : utf8 (String.ofList cs) = charBytes cs := by
  rw [utf8, String.toList_ofList]
  induction cs with
  | nil => rfl
  | cons c cs ih =>
    obtain ⟨hc, hcs⟩ := List.forall_mem_cons.1 h
    have one : String.utf8EncodeChar c = [UInt8.ofNat c.toNat] := if_pos (Nat.le_of_lt_succ hc)
    rw [List.flatMap_cons, one, ih hcs]
    rfl

theorem toNat_ofNat_byte (b : UInt8) : (Char.ofNat b.toNat).toNat = b.toNat := by
  have valid : b.toNat.isValidChar := .inl (Nat.lt_trans b.toNat_lt (by decide))
  rw [Char.ofNat, dif_pos valid]
  rfl

theorem charBytes_byteChars (bs : Bytes) : charBytes (byteChars bs) = bs := by
  simp [charBytes, byteChars, Function.comp_def, toNat_ofNat_byte]

namespace Utf8

/-- What stands at the start of a byte sequence. -/
inductive Scan where
  /-- a scalar value that takes `length` bytes -/
  | scalar (c : Char) (length : Nat)
  /-- `length` bytes that belong to no well-formed sequence -/
  | malformed (length : Nat)
deriving Repr, DecidableEq

/-- Continuation bytes `10xxxxxx`. -/
def isContinuation (b : UInt8) : Bool := 0x80 ≤ b && b ≤ 0xBF

/-- The second byte a lead byte allows: surrogates, overlong forms and values above U+10FFFF are excluded here. -/
def isSecond (lead b : UInt8) : Bool :=
  if lead == 0xE0 then 0xA0 ≤ b && b ≤ 0xBF
  else if lead == 0xED then 0x80 ≤ b && b ≤ 0x9F
  else if lead == 0xF0 then 0x90 ≤ b && b ≤ 0xBF
  else if lead == 0xF4 then 0x80 ≤ b && b ≤ 0x8F
  else isContinuation b

/-- The six payload bits of a continuation byte. -/
def payload (b : UInt8) : Nat := b.toNat % 64

/-- The next scalar value or malformed part; `none` at the end. -/
def scan? : Bytes → Option Scan
  | [] => none
  | b :: rest =>
    if b < 0x80 then some (.scalar (Char.ofNat b.toNat) 1)
    else if 0xC2 ≤ b && b ≤ 0xDF then
      match rest with
      | b1 :: _ =>
        if isContinuation b1 then some (.scalar (Char.ofNat (b.toNat % 32 * 64 + payload b1)) 2)
        else some (.malformed 1)
      | [] => some (.malformed 1)
    else if 0xE0 ≤ b && b ≤ 0xEF then
      match rest with
      | b1 :: rest1 =>
        if isSecond b b1 then
          match rest1 with
          | b2 :: _ =>
            if isContinuation b2 then
              some (.scalar (Char.ofNat (b.toNat % 16 * 4096 + payload b1 * 64 + payload b2)) 3)
            else some (.malformed 2)
          | [] => some (.malformed 2)
        else some (.malformed 1)
      | [] => some (.malformed 1)
    else if 0xF0 ≤ b && b ≤ 0xF4 then
      match rest with
      | b1 :: rest1 =>
        if isSecond b b1 then
          match rest1 with
          | b2 :: rest2 =>
            if isContinuation b2 then
              match rest2 with
              | b3 :: _ =>
                if isContinuation b3 then
                  some (.scalar (Char.ofNat (b.toNat % 8 * 262144 + payload b1 * 4096 + payload b2 * 64 + payload b3)) 4)
                else some (.malformed 3)
              | [] => some (.malformed 3)
            else some (.malformed 2)
          | [] => some (.malformed 2)
        else some (.malformed 1)
      | [] => some (.malformed 1)
    else some (.malformed 1)

/-- The number of bytes a scan covers. -/
def Scan.length : Scan → Nat
  | .scalar _ n => n
  | .malformed n => n

/-- The scans that make up a byte sequence, in order. The bytes bound the recursion: `skip` counts the bytes of the
current scan that are still to be passed over. -/
def scansFrom (skip : Nat) : Bytes → List Scan
  | [] => []
  | b :: rest =>
    match skip with
    | n + 1 => scansFrom n rest
    | 0 =>
      match scan? (b :: rest) with
      | some s => s :: scansFrom (s.length - 1) rest
      | none => []

/-- The scans that make up a byte sequence, in order. -/
def scans (bs : Bytes) : List Scan := scansFrom 0 bs

/-- The text of well-formed bytes, `none` if any part is malformed. -/
def decode? (bs : Bytes) : Option (List Char) :=
  (scans bs).mapM fun
    | .scalar c _ => some c
    | .malformed _ => none

/-- The text of bytes with U+FFFD for every malformed part. -/
def decodeLossy (bs : Bytes) : List Char :=
  (scans bs).map fun
    | .scalar c _ => c
    | .malformed _ => '\uFFFD'

end Utf8

end Gateway
