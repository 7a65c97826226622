import Gateway.Address
import Mathlib.Data.List.TakeWhile

/-!
# The text of an IPv6 address

The reader of IPv6 addresses takes hexadecimal digits, dots and colons from the front of a text, and at most eight
colons: one less than there are groups, or one more where `::` stands for none. The main lemma is
`IpAddress.front_of_readV6?`; of each reader below it is said what it takes (`Front`).
-/

namespace Gateway

namespace IpAddress

variable {cs rest : List Char}

/-- Characters in the text of an IPv6 address. -/
def InLiteral (c : Char) : Prop := (hexValue? c).isSome = true ∨ c = '.' ∨ c = ':'

/-- The front that a reader took, with nothing but such characters and so many colons. -/
structure Front (cs rest front : List Char) (colons : Nat) : Prop where
  split : cs = front ++ rest
  chars : ∀ c ∈ front, InLiteral c
  count : front.count ':' = colons

theorem Front.nil (cs : List Char) : Front cs cs [] 0 where
  split := rfl
  chars := List.forall_mem_nil _
  count := rfl

theorem Front.append {mid front front' : List Char} {n n' : Nat} (h : Front cs mid front n)
    (h' : Front mid rest front' n') : Front cs rest (front ++ front') (n + n') where
  split := by rw [h.split, h'.split, List.append_assoc]
  chars := List.forall_mem_append.2 ⟨h.chars, h'.chars⟩
  count := by rw [List.count_append, h.count, h'.count]

theorem Front.colon (cs : List Char) : Front (':' :: cs) cs [':'] 1 where
  split := rfl
  chars := List.forall_mem_singleton.2 (.inr (.inr rfl))
  count := rfl

theorem Front.dot (cs : List Char) : Front ('.' :: cs) cs ['.'] 0 where
  split := rfl
  chars := List.forall_mem_singleton.2 (.inr (.inl rfl))
  count := rfl

theorem front_of_digits {digits : List Char} (start : digits <+: cs) (hex : ∀ c ∈ digits, (hexValue? c).isSome = true) :
    Front cs (cs.drop digits.length) digits 0 where
  split := List.prefix_iff_eq_append.1 start |>.symm
  chars := fun c hc => .inl (hex c hc)
  count := List.count_eq_zero.2 fun colon => absurd (hex _ colon) (by decide)

theorem hexValue?_of_isDigit {c : Char} (h : isDigit c = true) : (hexValue? c).isSome = true := by
  rw [hexValue?, if_pos h]
  rfl

theorem front_of_readOctet? {o : UInt8} (h : readOctet? cs = some (o, rest)) : ∃ front, Front cs rest front 0 := by
  unfold readOctet? at h
  dsimp only at h
  split at h
  · split at h
    · cases h
      refine ⟨_, front_of_digits ((List.take_prefix _ _).trans (List.takeWhile_prefix _)) fun c hc => ?_⟩
      exact hexValue?_of_isDigit (List.mem_takeWhile_imp (List.mem_of_mem_take hc))
    · cases h
  · cases h

theorem front_of_dot {α : Type} {a : α} {next : List Char → Option α}
    (h : (match cs with
      | '.' :: r => (some r).bind next
      | _ => none.bind next) = some a) : ∃ rest, Front cs rest ['.'] 0 ∧ next rest = some a := by
  split at h
  · exact ⟨_, .dot _, h⟩
  · cases h

theorem front_of_readV4? {a : IpAddress} (h : readV4? cs = some (a, rest)) : ∃ front, Front cs rest front 0 := by
  unfold readV4? at h
  simp only [Option.bind_eq_bind] at h
  obtain ⟨⟨_, cs₁⟩, first, h⟩ := Option.bind_eq_some_iff.1 h
  obtain ⟨cs₂, dot₁, h⟩ := front_of_dot h
  obtain ⟨⟨_, cs₃⟩, second, h⟩ := Option.bind_eq_some_iff.1 h
  obtain ⟨cs₄, dot₂, h⟩ := front_of_dot h
  obtain ⟨⟨_, cs₅⟩, third, h⟩ := Option.bind_eq_some_iff.1 h
  obtain ⟨cs₆, dot₃, h⟩ := front_of_dot h
  obtain ⟨⟨_, cs₇⟩, fourth, h⟩ := Option.bind_eq_some_iff.1 h
  cases h
  obtain ⟨_, first⟩ := front_of_readOctet? first
  obtain ⟨_, second⟩ := front_of_readOctet? second
  obtain ⟨_, third⟩ := front_of_readOctet? third
  obtain ⟨_, fourth⟩ := front_of_readOctet? fourth
  exact ⟨_, first.append (dot₁.append (second.append (dot₂.append (third.append (dot₃.append fourth)))))⟩

theorem front_of_readGroup? {g : UInt16} (h : readGroup? cs = some (g, rest)) : ∃ front, Front cs rest front 0 := by
  unfold readGroup? at h
  dsimp only at h
  split at h
  · cases h
  · cases h
    refine ⟨_, front_of_digits (List.takeWhile_prefix _) fun c hc => ?_⟩
    exact List.mem_takeWhile_imp (p := fun c => (hexValue? c).isSome) hc

/-- Each group but the first has a colon in front; an embedded IPv4 address stands for two groups and has one. -/
theorem front_of_readGroups {first embedded : Bool} {limit : Nat} {gs : List UInt16}
    (h : readGroups first limit cs = (gs, embedded, rest)) :
    ∃ front colons, Front cs rest front colons ∧ gs.length ≤ limit ∧ colons ≤ gs.length - first.toNat
      ∧ gs.length ≤ colons + 1 + first.toNat := by
  induction limit generalizing first gs cs embedded rest with
  | zero =>
    cases h
    exact ⟨[], 0, .nil cs, Nat.le_refl _, Nat.zero_le _, Nat.zero_le _⟩
  | succ limit ih =>
    unfold readGroups at h
    dsimp only at h
    split at h
    · cases h
      exact ⟨[], 0, .nil cs, Nat.zero_le _, Nat.zero_le _, Nat.zero_le _⟩
    next body start =>
    have one := Bool.toNat_le first
    -- the colon in front of the group, if it is not the first
    obtain ⟨colon, before⟩ : ∃ front, Front cs body front (1 - first.toNat) := by
      cases first with
      | true =>
        cases start
        exact ⟨[], .nil cs⟩
      | false =>
        rw [if_neg Bool.false_ne_true] at start
        split at start
        · cases start
          exact ⟨_, .colon _⟩
        · cases start
    split at h
    · next a b c d rest' read =>
      cases h
      split at read
      · obtain ⟨address, taken⟩ := front_of_readV4? read
        refine ⟨_, _, before.append taken, ?_⟩
        simp only [List.length_cons, List.length_nil]
        omega
      · cases read
    · split at h
      · cases h
        exact ⟨[], 0, .nil cs, Nat.zero_le _, Nat.zero_le _, Nat.zero_le _⟩
      · next g rest' read =>
        cases h
        obtain ⟨group, taken⟩ := front_of_readGroup? read
        obtain ⟨front, colons, behind, bound, upper, lower⟩ := @ih _ _ false _ _ rfl
        refine ⟨_, _, before.append (taken.append behind), ?_⟩
        rw [Bool.toNat_false] at upper lower
        rw [List.length_cons]
        omega

/-- An IPv6 address has between one colon and eight. -/
theorem front_of_readV6? {a : IpAddress} (h : readV6? cs = some (a, rest)) :
    ∃ front colons, Front cs rest front colons ∧ 0 < colons ∧ colons ≤ 8 := by
  unfold readV6? at h
  generalize start : readGroups true 8 cs = groups at h
  obtain ⟨gs, embedded, rest'⟩ := groups
  obtain ⟨front, colons, taken, bound, upper, lower⟩ := front_of_readGroups start
  rw [Bool.toNat_true] at upper lower
  dsimp only at h
  split at h
  · next whole =>
    cases h
    exact ⟨front, colons, taken, by omega, by omega⟩
  split at h
  · cases h
  split at h
  · next rest' =>
    generalize behind : readGroups true (7 - gs.length) rest' = groups at h
    obtain ⟨gs', embedded', rest''⟩ := groups
    obtain ⟨back, colons', taken', bound', upper', -⟩ := front_of_readGroups behind
    cases h
    rw [Bool.toNat_true] at upper'
    exact ⟨_, _, taken.append ((Front.colon _).append ((Front.colon _).append taken')), by omega, by omega⟩
  · cases h

end IpAddress

end Gateway
