/-!
# ASCII text

Text that arrives on the wire is worked on as a list of characters. This module holds the classes of
ASCII characters the message grammar is written with, and the list operations on such text: lowering,
trimming of blanks, fields between separators, decimal numbers.

Lowering changes the letters `A` to `Z` and nothing else, so it may be applied to any text.
-/

namespace Gateway

/-- Digits `0` to `9`. -/
def isDigit (c : Char) : Bool := decide ('0' ≤ c) && decide (c ≤ '9')

/-- Letters `A` to `Z` and `a` to `z`. -/
def isLetter (c : Char) : Bool :=
  (decide ('A' ≤ c) && decide (c ≤ 'Z')) || (decide ('a' ≤ c) && decide (c ≤ 'z'))

/-- Letters and digits. -/
def isAlphanumeric (c : Char) : Bool := isLetter c || isDigit c

/-- Characters a token may consist of: field names, methods. -/
def isTokenChar (c : Char) : Bool :=
  isAlphanumeric c || "!#$%&'*+-.^_`|~".toList.contains c

/-- Space and tab, the blanks around list elements in field values. -/
def isBlank (c : Char) : Bool := c == ' ' || c == '\t'

/-- A character of a class is none that is not of it. -/
theorem ne_of_class {p : Char → Bool} {c d : Char} (hc : p c = true) (hd : p d = false) : c ≠ d := by
  rintro rfl
  rw [hc] at hd
  cases hd

theorem isBlank_eq_false {c : Char} (space : c ≠ ' ') (tab : c ≠ '\t') : isBlank c = false := by
  simp [isBlank, space, tab]

/-- Letters `A` to `Z` become `a` to `z`. -/
def lowerChar (c : Char) : Char :=
  if 'A' ≤ c ∧ c ≤ 'Z' then Char.ofNat (c.toNat + 32) else c

/-- Text in lower case. -/
def lower (cs : List Char) : List Char := cs.map lowerChar

/-- Equality of text that ignores case. -/
def sameText (xs ys : List Char) : Bool := lower xs == lower ys

/-- Text without the blanks at its start. -/
def trimStart (cs : List Char) : List Char := cs.dropWhile isBlank

/-- Text without the blanks at its end. -/
def trimEnd (cs : List Char) : List Char := (cs.reverse.dropWhile isBlank).reverse

/-- Text without the blanks around it. -/
def trim (cs : List Char) : List Char := trimEnd (trimStart cs)

@[simp] theorem trim_nil : trim [] = [] := rfl

@[simp] theorem lower_nil : lower [] = [] := rfl

@[simp] theorem lower_cons (c : Char) (cs : List Char) :
    lower (c :: cs) = lowerChar c :: lower cs := rfl

theorem exists_upper {c : Char} (h : 'A' ≤ c ∧ c ≤ 'Z') : ∃ n : Fin 26, c = Char.ofNat (65 + n) := by
  have low : 65 ≤ c.toNat := UInt32.le_iff_toNat_le.1 h.1
  have high : c.toNat ≤ 90 := UInt32.le_iff_toNat_le.1 h.2
  refine ⟨⟨c.toNat - 65, by omega⟩, ?_⟩
  rw [show 65 + (c.toNat - 65) = c.toNat by omega, Char.ofNat_toNat]

theorem lowerChar_lowerChar (c : Char) : lowerChar (lowerChar c) = lowerChar c := by
  by_cases upper : 'A' ≤ c ∧ c ≤ 'Z'
  · obtain ⟨n, rfl⟩ := exists_upper upper
    clear upper
    revert n
    decide
  · have same : lowerChar c = c := if_neg upper
    rw [same, same]

/-- Text in lower case stays as it is. -/
theorem lower_lower (cs : List Char) : lower (lower cs) = lower cs := by
  simp [lower, lowerChar_lowerChar]

@[simp] theorem length_lower (cs : List Char) : (lower cs).length = cs.length := by
  simp [lower]

/-! ## Fields between separators -/

/-- The fields of a text between the characters `sep`; there is one more field than separators. -/
def fields (sep : Char) : List Char → List (List Char)
  | [] => [[]]
  | c :: cs =>
    if c = sep then [] :: fields sep cs
    else match fields sep cs with
      | [] => [[c]]
      | f :: fs => (c :: f) :: fs

theorem fields_ne_nil (sep : Char) (cs : List Char) : fields sep cs ≠ [] := by
  cases cs with
  | nil => simp [fields]
  | cons c cs =>
    unfold fields
    split
    · simp
    · split <;> simp

/-- Text up to the first `sep`, and what follows it if there is one. -/
def cutAt (sep : Char) : List Char → List Char × Option (List Char)
  | [] => ([], none)
  | c :: cs =>
    if c = sep then ([], some cs)
    else match cutAt sep cs with
      | (before, after) => (c :: before, after)

/-- What is cut apart is the whole text, with the separator between. -/
theorem cutAt_joined (sep : Char) (cs : List Char) :
    (cutAt sep cs).1 ++ (match (cutAt sep cs).2 with | some after => sep :: after | none => []) = cs := by
  induction cs with
  | nil => rfl
  | cons c cs ih =>
    unfold cutAt
    split
    · next same => rw [same, List.nil_append]
    · exact congrArg (c :: ·) ih

theorem isPrefix_cutAt (sep : Char) (cs : List Char) : (cutAt sep cs).1 <+: cs := ⟨_, cutAt_joined sep cs⟩

/-! ## Decimal numbers -/

/-- The value of a digit. -/
def digitValue (c : Char) : Nat := c.toNat - '0'.toNat

/-- The number a text of digits denotes; no sign, and at least one digit. -/
def decimal? (cs : List Char) : Option Nat :=
  if cs.isEmpty || !cs.all isDigit then none
  else some (cs.foldl (fun n c => n * 10 + digitValue c) 0)

/-- A number below a bound; one plus sign in front of the digits is accepted. -/
def word? (bound : Nat) (cs : List Char) : Option Nat :=
  let digits := match cs with
    | '+' :: ds => ds
    | ds => ds
  match decimal? digits with
  | some n => if n < bound then some n else none
  | none => none

/-- The decimal digits of a number. -/
def decimalDigits (n : Nat) : List Char := Nat.toDigits 10 n

end Gateway
