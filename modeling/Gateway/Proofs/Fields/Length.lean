import Gateway.Header.Framing
import Gateway.Proofs.Fields.Elements
import Mathlib.Data.List.Forall2
import Mathlib.Data.Nat.Digits.Defs

/-!
# Where a message ends by its fields

The grammar has a streamed body end by its last transfer coding, empty elements apart, and otherwise by a first
`content-length` of digits alone (`Headers.Announces`). The fields are read more simply than that: an element behind the
last comma counts even if it is empty, and a plus sign may stand before the digits. The two come to the same unless a
message is misread in one of these two ways (`Headers.Misread`).

The main theorem is `Headers.bodyLength_grammar`: what is read, for all fields, and when it is what the grammar says.
-/

namespace Gateway

/-! ## Numbers -/

/-- Decimal digits and the number they denote, the most significant digit first. -/
structure Denotes (ds : List Char) (n : Nat) : Prop where
  some : ds ≠ []
  digits : ∀ c ∈ ds, isDigit c = true
  value : Nat.ofDigits 10 (ds.reverse.map digitValue) = n

theorem foldl_digits (ds : List Char) :
    ds.foldl (fun n c => n * 10 + digitValue c) 0 = Nat.ofDigits 10 (ds.reverse.map digitValue) := by
  induction ds using List.reverseRecOn with
  | nil => rfl
  | append_singleton ds d ih =>
    rw [List.foldl_concat, ih, List.reverse_concat, List.map_cons, Nat.ofDigits_cons, Nat.mul_comm, Nat.add_comm]

theorem decimal?_eq_some_iff {ds : List Char} {n : Nat} : decimal? ds = some n ↔ Denotes ds n := by
  unfold decimal?
  rw [foldl_digits]
  constructor
  · intro h
    split at h
    · cases h
    · next digits =>
      simp only [Bool.or_eq_true, List.isEmpty_iff, Bool.not_eq_true', Bool.not_eq_false, not_or] at digits
      exact ⟨digits.1, List.all_eq_true.1 digits.2, Option.some.inj h⟩
  · rintro ⟨some, digits, rfl⟩
    rw [if_neg]
    simp [some, List.all_eq_true.2 digits]

theorem word?_signed {bound : Nat} (ds : List Char) : word? bound ('+' :: ds) = (decimal? ds).filter (· < bound) := by
  rw [word?]
  cases decimal? ds <;> simp [Option.filter]

theorem word?_of_unsigned {bound : Nat} {cs : List Char} (unsigned : ∀ ds, cs ≠ '+' :: ds) :
    word? bound cs = (decimal? cs).filter (· < bound) := by
  rw [word?.eq_def]
  split
  · next ds => exact absurd rfl (unsigned ds)
  · dsimp only
    cases decimal? cs <;> simp [Option.filter]

/-- A plus sign makes no difference. -/
theorem word?_eq_some_iff {bound n : Nat} {cs : List Char} :
    word? bound cs = some n ↔ n < bound ∧ ∃ ds, Denotes ds n ∧ (cs = ds ∨ cs = '+' :: ds) := by
  by_cases signed : ∃ ds, cs = '+' :: ds
  · obtain ⟨ds, rfl⟩ := signed
    rw [word?_signed, Option.filter_eq_some_iff, decimal?_eq_some_iff, decide_eq_true_eq, and_comm]
    refine and_congr_right fun _ => ⟨fun denotes => ⟨ds, denotes, .inr rfl⟩, ?_⟩
    rintro ⟨ds', denotes, rfl | same⟩
    · exact absurd (denotes.digits '+' List.mem_cons_self) (by decide)
    · rwa [List.tail_eq_of_cons_eq same]
  · rw [word?_of_unsigned (not_exists.1 signed), Option.filter_eq_some_iff, decimal?_eq_some_iff, decide_eq_true_eq,
      and_comm]
    refine and_congr_right fun _ => ⟨fun denotes => ⟨cs, denotes, .inl rfl⟩, ?_⟩
    rintro ⟨ds', denotes, rfl | rfl⟩
    · exact denotes
    · exact absurd ⟨ds', rfl⟩ signed

theorem isBlank_of_isDigit {c : Char} (h : isDigit c = true) : isBlank c = false :=
  isBlank_eq_false (ne_of_class h (by decide)) (ne_of_class h (by decide))

theorem Denotes.solid {ds : List Char} {n : Nat} (h : Denotes ds n) : Solid ds where
  some := h.some
  clean := fun c hc => isBlank_of_isDigit (h.digits c hc)

theorem Denotes.solid_signed {ds : List Char} {n : Nat} (h : Denotes ds n) : Solid ('+' :: ds) where
  some := List.cons_ne_nil _ _
  clean := List.forall_mem_cons.2 ⟨by decide, h.solid.clean⟩

namespace HeaderValue

variable {v : HeaderValue} {n : Nat}

/-- Text of digits, with blanks around them, for a number below 2^64. -/
def IsLength (v : HeaderValue) (n : Nat) : Prop := n < 2 ^ 64 ∧ ∃ t ds, v.text? = some t ∧ Padded ds t ∧ Denotes ds n

/-- The same with a plus sign before the digits. -/
def IsSigned (v : HeaderValue) (n : Nat) : Prop :=
  n < 2 ^ 64 ∧ ∃ t ds, v.text? = some t ∧ Padded ('+' :: ds) t ∧ Denotes ds n

theorem number?_eq_some_iff : v.number? = some n ↔ v.IsLength n ∨ v.IsSigned n := by
  unfold number? IsLength IsSigned
  rw [Option.bind_eq_bind, Option.bind_eq_some_iff]
  constructor
  · rintro ⟨t, text, read⟩
    obtain ⟨below, ds, denotes, digits | signed⟩ := word?_eq_some_iff.1 read
    · exact .inl ⟨below, t, ds, text, digits ▸ padded_trim t, denotes⟩
    · exact .inr ⟨below, t, ds, text, signed ▸ padded_trim t, denotes⟩
  · rintro (⟨below, t, ds, text, padded, denotes⟩ | ⟨below, t, ds, text, padded, denotes⟩)
    · exact ⟨t, text, word?_eq_some_iff.2 ⟨below, ds, denotes, .inl (trim_of_padded denotes.solid padded)⟩⟩
    · exact ⟨t, text, word?_eq_some_iff.2 ⟨below, ds, denotes, .inr (trim_of_padded denotes.solid_signed padded)⟩⟩

/-- A value with a plus sign is no length. -/
theorem not_isLength_of_isSigned {m : Nat} (signed : v.IsSigned m) : ¬ v.IsLength n := by
  obtain ⟨-, t, ds, text, padded, denotes⟩ := signed
  rintro ⟨-, t', ds', text', padded', denotes'⟩
  obtain rfl := Option.some.inj (text.symm.trans text')
  have same := (trim_of_padded denotes'.solid padded').symm.trans (trim_of_padded denotes.solid_signed padded)
  exact absurd (denotes'.digits '+' (same ▸ List.mem_cons_self)) (by decide)

end HeaderValue

namespace Headers

variable {h : Headers}

/-! ## Transfer codings -/

/-- The elements of `transfer-encoding` over all its values that are text, in order. -/
def ListsCodings (h : Headers) (codings : List (List Char)) : Prop :=
  ∃ lists, List.Forall₂ (Elements ',') (h.texts .transferEncoding) lists ∧ codings = lists.flatten

/-- An element that says `chunked`, in any case. -/
def IsChunkedCoding (element : List Char) : Prop := ∃ spelt, Padded spelt element ∧ lower spelt = "chunked".toList

/-- The last element that is not empty says `chunked`. -/
def EndsChunked (h : Headers) : Prop :=
  ∃ before coding after, h.ListsCodings (before ++ coding :: after) ∧ IsChunkedCoding coding ∧ ∀ e ∈ after, Padded [] e

/-- The last element is empty. -/
def EndsEmpty (h : Headers) : Prop := ∃ before e, h.ListsCodings (before ++ [e]) ∧ Padded [] e

theorem listsCodings_iff {codings : List (List Char)} : h.ListsCodings codings ↔ h.transferCodings = codings := by
  have elements {ts : List (List Char)} {lists : List (List (List Char))} :
      List.Forall₂ (Elements ',') ts lists ↔ ts.map (fields ',') = lists := by
    rw [show Elements ',' = fun t es => fields ',' t = es from funext₂ fun _ _ => propext elements_iff,
      ← List.forall₂_map_left_iff (R := Eq) (f := fields ','), List.forall₂_eq_eq_eq]
  unfold ListsCodings transferCodings
  simp only [elements, exists_eq_left', List.flatMap_def]
  exact eq_comm

theorem solid_chunked : Solid "chunked".toList where
  some := List.cons_ne_nil _ _
  clean := by
    simp only [← Bool.not_eq_true', ← List.all_eq_true]
    decide

theorem isChunkedCoding_iff {element : List Char} :
    IsChunkedCoding element ↔ sameText (trim element) "chunked".toList = true := by
  rw [sameText, beq_iff_eq, show lower "chunked".toList = "chunked".toList by decide]
  exact (lower_trim_eq_iff solid_chunked).symm

theorem not_isChunkedCoding_of_empty {element : List Char} (empty : Padded [] element) : ¬ IsChunkedCoding element := by
  rintro ⟨spelt, padded, chunked⟩
  have solid : Solid spelt := .of_lower (chunked ▸ solid_chunked)
  obtain ⟨c, hc⟩ := List.exists_mem_of_ne_nil spelt solid.some
  obtain ⟨before, after, rfl, -⟩ := padded
  obtain ⟨before', after', blanks, blank⟩ := empty
  rw [List.append_nil] at blanks
  refine absurd (blank c ?_) (by simp [solid.clean c hc])
  rw [← blanks]
  exact List.mem_append_left _ (List.mem_append_right _ hc)

/-- The element behind the last comma decides, also if it is empty. -/
theorem isChunked_iff : h.isChunked = true ↔ h.EndsChunked ∧ ¬ h.EndsEmpty := by
  have last {coding : List Char} : h.transferCodings.getLast? = some coding
      ↔ ∃ before, h.ListsCodings (before ++ [coding]) := by
    simp only [listsCodings_iff, List.getLast?_eq_some_iff]
  constructor
  · intro chunked
    unfold isChunked at chunked
    split at chunked
    · next coding ends =>
      rw [← isChunkedCoding_iff] at chunked
      obtain ⟨before, codings⟩ := last.1 ends
      refine ⟨⟨before, coding, [], codings, chunked, by simp⟩, ?_⟩
      rintro ⟨before', e, codings', empty⟩
      obtain rfl := Option.some.inj (ends.symm.trans (last.2 ⟨before', codings'⟩))
      exact not_isChunkedCoding_of_empty empty chunked
    · cases chunked
  · rintro ⟨⟨before, coding, after, codings, chunked, empty⟩, solid⟩
    cases after using List.reverseRecOn with
    | nil =>
      rw [isChunked, last.2 ⟨before, codings⟩]
      exact isChunkedCoding_iff.1 chunked
    | append_singleton after e =>
      refine absurd ⟨before ++ coding :: after, e, ?_, empty e (by simp)⟩ solid
      rwa [List.append_assoc, List.cons_append]

/-! ## Length -/

/-- The length of the body by the grammar. -/
def Announces (h : Headers) : BodyLength → Prop
  | .known n => ¬ h.EndsChunked ∧ ∃ v, h.get? .contentLength = some v ∧ v.IsLength n
  | .unknown => h.EndsChunked ∨ ∀ v n, h.get? .contentLength = some v → ¬ v.IsLength n

/-- The fields that are read against the grammar: the first `content-length` counts behind `chunked` and an empty
element, and it counts with a plus sign. -/
def Misread (h : Headers) : Prop :=
  ∃ v n, h.get? .contentLength = some v
    ∧ (h.EndsChunked ∧ h.EndsEmpty ∧ (v.IsLength n ∨ v.IsSigned n) ∨ ¬ h.EndsChunked ∧ v.IsSigned n)

theorem bodyLength_eq_known_iff_of_grammar {n : Nat} :
    h.bodyLength = .known n ↔ ¬ (h.EndsChunked ∧ ¬ h.EndsEmpty)
      ∧ ∃ v, h.get? .contentLength = some v ∧ (v.IsLength n ∨ v.IsSigned n) := by
  rw [bodyLength_eq_known_iff, ← isChunked_iff, Bool.not_eq_true]
  simp only [HeaderValue.number?_eq_some_iff]

theorem announces_bodyLength_iff : h.Announces h.bodyLength ↔ ¬ h.Misread := by
  constructor
  · rintro announced ⟨v, n, first, ⟨ends, empty, number⟩ | ⟨plain, signed⟩⟩
    · rw [bodyLength_eq_known_iff_of_grammar.2 ⟨fun c => c.2 empty, v, first, number⟩] at announced
      exact announced.1 ends
    · rw [bodyLength_eq_known_iff_of_grammar.2 ⟨fun c => plain c.1, v, first, .inr signed⟩] at announced
      obtain ⟨-, w, first', length⟩ := announced
      obtain rfl := Option.some.inj (first.symm.trans first')
      exact HeaderValue.not_isLength_of_isSigned signed length
  · intro right
    cases read : h.bodyLength with
    | known n =>
      obtain ⟨unchunked, v, first, number⟩ := bodyLength_eq_known_iff_of_grammar.1 read
      have plain : ¬ h.EndsChunked := fun ends =>
        right ⟨v, n, first, .inl ⟨ends, not_not.1 fun solid => unchunked ⟨ends, solid⟩, number⟩⟩
      exact ⟨plain, v, first, number.resolve_right fun signed => right ⟨v, n, first, .inr ⟨plain, signed⟩⟩⟩
    | unknown =>
      refine or_iff_not_imp_left.2 fun plain v n first length => ?_
      have known := bodyLength_eq_known_iff_of_grammar.2 ⟨fun c => plain c.1, v, first, .inl length⟩
      rw [read] at known
      cases known

/-- What is read of every message, and when it is what the grammar has: `chunked` counts unless an empty element stands
behind it, a plus sign counts as none, and only a message that is misread so has another length. -/
theorem bodyLength_grammar (h : Headers) :
    (h.isChunked = true ↔ h.EndsChunked ∧ ¬ h.EndsEmpty)
    ∧ (∀ n, h.bodyLength = .known n ↔ ¬ (h.EndsChunked ∧ ¬ h.EndsEmpty)
        ∧ ∃ v, h.get? .contentLength = some v ∧ (v.IsLength n ∨ v.IsSigned n))
    ∧ (h.Announces h.bodyLength ↔ ¬ h.Misread) :=
  ⟨isChunked_iff, fun _ => bodyLength_eq_known_iff_of_grammar, announces_bodyLength_iff⟩

/-- A comma behind `chunked` hides it, and `+5` is read as five. -/
theorem bodyLength_against_grammar :
    let comma : Headers := ⟨[(.transferEncoding, ⟨charBytes "chunked,".toList, by decide⟩)]⟩
    let plus : Headers := ⟨[(.contentLength, ⟨charBytes "+5".toList, by decide⟩)]⟩
    comma.EndsChunked ∧ comma.isChunked = false ∧ plus.bodyLength = .known 5 ∧ ¬ plus.Announces plus.bodyLength := by
  intro comma plus
  refine ⟨⟨[], "chunked".toList, [[]], listsCodings_iff.2 (by decide), isChunkedCoding_iff.2 (by decide), ?_⟩, by decide,
    by decide, ?_⟩
  · exact List.forall_mem_singleton.2 (padded_trim [])
  · rw [announces_bodyLength_iff, not_not]
    refine ⟨⟨charBytes "+5".toList, by decide⟩, 5, by decide, .inr ⟨?_, by decide, "+5".toList, "5".toList, by decide,
      padded_trim "+5".toList, decimal?_eq_some_iff.1 (by decide)⟩⟩
    rintro ⟨before, coding, after, codings, -⟩
    rw [listsCodings_iff, show plus.transferCodings = [] by decide] at codings
    cases before <;> cases codings

end Headers

end Gateway
