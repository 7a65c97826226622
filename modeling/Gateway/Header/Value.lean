import Gateway.Text.Ascii
import Gateway.Text.Utf8

/-!
# Field values

A field value is a sequence of bytes: tab, 32 to 126, and 128 to 255. Only values of tab and 32 to 126 are text; every
rule that looks into a value skips the others.
-/

namespace Gateway

/-- Bytes a field value may hold. -/
def isFieldByte (b : UInt8) : Bool := b == 9 || (32 ≤ b && b != 127)

/-- Bytes of a value that is text. -/
def isTextByte (b : UInt8) : Bool := b == 9 || (32 ≤ b && b < 127)

theorem isFieldByte_iff {b : UInt8} :
    isFieldByte b = true ↔ b.toNat = 9 ∨ (32 ≤ b.toNat ∧ b.toNat ≤ 126) ∨ 128 ≤ b.toNat := by
  simp only [isFieldByte, Bool.or_eq_true, beq_iff_eq, Bool.and_eq_true, decide_eq_true_eq, bne_iff_ne, ne_eq,
    UInt8.le_iff_toNat_le, ← UInt8.toNat_inj, UInt8.reduceToNat]
  omega

theorem isTextByte_iff {b : UInt8} : isTextByte b = true ↔ b.toNat = 9 ∨ (32 ≤ b.toNat ∧ b.toNat ≤ 126) := by
  simp only [isTextByte, Bool.or_eq_true, beq_iff_eq, Bool.and_eq_true, decide_eq_true_eq, UInt8.le_iff_toNat_le,
    UInt8.lt_iff_toNat_lt, ← UInt8.toNat_inj, UInt8.reduceToNat]
  omega

/-- A field value. -/
structure HeaderValue where
  bytes : Bytes
  valid : bytes.all isFieldByte = true
deriving DecidableEq

namespace HeaderValue

/-- The value of allowed bytes. -/
def ofBytes? (bs : Bytes) : Option HeaderValue :=
  if h : bs.all isFieldByte = true then some ⟨bs, h⟩ else none

/-- The value whose bytes are the UTF-8 form of a text. -/
def ofString? (s : String) : Option HeaderValue := ofBytes? (utf8 s)

theorem ofBytes?_eq_some_iff {bs : Bytes} {v : HeaderValue} : ofBytes? bs = some v ↔ v.bytes = bs := by
  unfold ofBytes?
  constructor
  · intro h
    split at h
    · cases h; rfl
    · cases h
  · rintro rfl
    rw [dif_pos v.valid]

theorem ofBytes?_isSome (bs : Bytes) : (ofBytes? bs).isSome = bs.all isFieldByte := by
  unfold ofBytes?
  split <;> simp_all

theorem ofString?_eq_some_iff {s : String} {v : HeaderValue} : ofString? s = some v ↔ v.bytes = utf8 s :=
  ofBytes?_eq_some_iff

/-- The characters of a value that is text. -/
def text? (v : HeaderValue) : Option (List Char) :=
  if v.bytes.all isTextByte then some (byteChars v.bytes) else none

/-- Decimal digits are allowed in values. -/
theorem digitChar_isFieldByte (d : Nat) (h : d < 10) :
    isFieldByte (UInt8.ofNat (Nat.digitChar d).toNat) = true := by
  have all : ∀ k : Fin 10, isFieldByte (UInt8.ofNat (Nat.digitChar k).toNat) = true := by decide
  exact all ⟨d, h⟩

theorem toDigitsCore_isFieldByte (fuel n : Nat) (acc : List Char)
    (hacc : (charBytes acc).all isFieldByte = true) :
    (charBytes (Nat.toDigitsCore 10 fuel n acc)).all isFieldByte = true := by
  induction fuel generalizing n acc with
  | zero => simpa [Nat.toDigitsCore] using hacc
  | succ fuel ih =>
    have hcons : (charBytes (Nat.digitChar (n % 10) :: acc)).all isFieldByte = true := by
      simp only [charBytes, List.map_cons, List.all_cons, Bool.and_eq_true]
      exact ⟨digitChar_isFieldByte _ (Nat.mod_lt _ (by decide)), hacc⟩
    unfold Nat.toDigitsCore
    dsimp only
    split
    · exact hcons
    · exact ih _ _ hcons

/-- The decimal digits of a number as a value. -/
def ofNat (n : Nat) : HeaderValue :=
  ⟨charBytes (decimalDigits n), toDigitsCore_isFieldByte _ _ _ rfl⟩

/-- One value after another. -/
def append (a b : HeaderValue) : HeaderValue :=
  ⟨a.bytes ++ b.bytes, by rw [List.all_append, a.valid, b.valid]; rfl⟩

def keepAlive : HeaderValue := ⟨charBytes "keep-alive".toList, by decide⟩
def close : HeaderValue := ⟨charBytes "close".toList, by decide⟩
def upgrade : HeaderValue := ⟨charBytes "upgrade".toList, by decide⟩
def upgradeToken : HeaderValue := ⟨charBytes "Upgrade".toList, by decide⟩
def websocket : HeaderValue := ⟨charBytes "websocket".toList, by decide⟩
def thirteen : HeaderValue := ⟨charBytes "13".toList, by decide⟩
def zero : HeaderValue := ⟨charBytes "0".toList, by decide⟩
def http : HeaderValue := ⟨charBytes "http".toList, by decide⟩
def https : HeaderValue := ⟨charBytes "https".toList, by decide⟩
def plainText : HeaderValue := ⟨charBytes "text/plain;charset=UTF-8".toList, by decide⟩

end HeaderValue

end Gateway
