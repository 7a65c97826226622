import Gateway.Header.EndToEnd
import Gateway.Proofs.Fields.Elements

/-!
# What the end-to-end filter leaves

What a merge leaves of a name depends on the name alone: nothing if it concerns the connection of the source, also
where the destination held it before, and otherwise all its values, those of the destination first. So a second filter
finds nothing to drop, and filtering in place is the same as merging into nothing.

The main theorem is `Headers.mergeEndToEnd_law`.
-/

namespace Gateway

namespace Headers

/-- A `connection` value that is text lists a name, in any case and with blanks around it. -/
def ListsName (h : Headers) (n : HeaderName) : Prop :=
  ∃ v ∈ h.values .connection, ∃ t es, v.text? = some t ∧ Elements ',' t es
    ∧ ∃ e ∈ es, ∃ spelt, Padded spelt e ∧ lower spelt = n.chars

/-- A name may not be passed on from a message with the fields `h`. -/
def Hop (h : Headers) (n : HeaderName) : Prop := n ∈ hopByHopNames ∨ h.ListsName n

variable {h source : Headers} {n : HeaderName}

/-- No blank is a character of a name. -/
theorem solid_chars (n : HeaderName) : Solid n.chars where
  some := n.chars_ne_nil
  clean := fun c hc => by
    have valid := n.valid
    simp only [isFieldName, Bool.and_eq_true, List.all_eq_true] at valid
    have token : isTokenChar c = true := (valid.1.2 c hc).1
    exact isBlank_eq_false (ne_of_class token (by decide)) (ne_of_class token (by decide))

theorem lists_chars_iff : h.Lists n.chars ↔ h.ListsName n := by
  unfold Lists ListsName
  simp only [lower_trim_eq_iff (solid_chars n), elements_iff, exists_eq_left', exists_and_left]

theorem isEndToEnd_iff_not_hop : h.isEndToEnd n = true ↔ ¬ h.Hop n := by
  rw [isEndToEnd_iff, lists_chars_iff, Hop, not_or]

/-! ## A second filter -/

/-- Where no name is listed, the fixed names alone are dropped. -/
theorem endToEnd_eq_self (passable : ∀ e ∈ h.entries, e.1 ∉ hopByHopNames) : h.filterNames h.isEndToEnd = h := by
  have unlisted : h.connectionOptions = [] := by
    have none : h.values .connection = [] := by
      unfold values
      rw [List.map_eq_nil_iff, List.filter_eq_nil_iff]
      intro e he same
      refine passable e he ?_
      rw [of_decide_eq_true same]
      decide
    simp [connectionOptions, texts, none]
  refine congrArg Headers.mk (List.filter_eq_self.2 fun e he => ?_)
  simp [isEndToEnd, unlisted, passable e he]

/-- What is left after a filter may be passed on by any message. -/
theorem passable_filterNames (h source : Headers) :
    ∀ e ∈ (h.filterNames source.isEndToEnd).entries, e.1 ∉ hopByHopNames :=
  fun _ he => ((isEndToEnd_iff _ _).1 (List.mem_filter.1 he).2).1

theorem empty_mergeEndToEnd (h : Headers) : empty.mergeEndToEnd h = h.endToEnd := by
  rw [mergeEndToEnd_eq, endToEnd_eq]
  rfl

/-! ## The law -/

/-- A merge leaves nothing of what concerns the connection of the source, and all values of everything else. To merge
the result into nothing gives it again; to filter in place is to merge into nothing, and once is enough. -/
theorem mergeEndToEnd_law (h source : Headers) :
    (∀ n, source.Hop n → (h.mergeEndToEnd source).values n = [])
      ∧ (∀ n, ¬ source.Hop n → (h.mergeEndToEnd source).values n = h.values n ++ source.values n)
      ∧ empty.mergeEndToEnd (h.mergeEndToEnd source) = h.mergeEndToEnd source
      ∧ source.endToEnd = empty.mergeEndToEnd source
      ∧ source.endToEnd.endToEnd = source.endToEnd := by
  refine ⟨fun n hop => ?_, fun n passes => ?_, ?_, (empty_mergeEndToEnd source).symm, ?_⟩
  · rw [values_mergeEndToEnd, if_neg]
    exact fun passes => isEndToEnd_iff_not_hop.1 passes hop
  · rw [values_mergeEndToEnd, if_pos (isEndToEnd_iff_not_hop.2 passes)]
  · rw [empty_mergeEndToEnd, endToEnd_eq, mergeEndToEnd_eq]
    exact endToEnd_eq_self (passable_filterNames _ _)
  · rw [endToEnd_eq source.endToEnd, endToEnd_eq source]
    exact endToEnd_eq_self (passable_filterNames _ _)

end Headers

end Gateway
