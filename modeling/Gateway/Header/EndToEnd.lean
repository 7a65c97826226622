import Gateway.Header.Map

/-!
# End-to-end fields

Some fields concern one connection only: a fixed list of names, and every name a `connection` value lists. They are
never passed on. `Connection` values list names between commas; blanks around a name and empty elements do not count,
case is ignored, and values that are not text are skipped.

`mergeEndToEnd` adds the fields of one message to another and then drops, one name after another, what concerns the
connection of the first; `endToEnd` drops it in place. Both come to one filter by name: `mergeEndToEnd_eq`,
`endToEnd_eq`.
-/

namespace Gateway

namespace Headers

/-- The names that always concern one connection only. -/
def hopByHopNames : List HeaderName := [
  .connection, .keepAlive, .proxyAuthenticate, .proxyAuthorization, .te, .trailer, .transferEncoding, .upgrade,
  .upgradeInsecureRequests]

/-- The texts of these names, and of the names HTTP/2 gives to the parts of a first line, which no field can have. -/
def hopByHopTexts : List (List Char) :=
  hopByHopNames.map HeaderName.chars ++ [":method", ":path", ":scheme", ":authority"].map String.toList

/-- The elements of `connection` values, in lower case. -/
def connectionOptions (h : Headers) : List (List Char) :=
  (((h.texts .connection).flatMap (fields ',')).map fun f => lower (trim f)).filter fun f => !f.isEmpty

/-- Whether a name may be passed on to the next hop of a message with the fields `h`. -/
def isEndToEnd (h : Headers) (n : HeaderName) : Bool :=
  !hopByHopNames.contains n && !h.connectionOptions.contains n.chars

/-- Drops every value of the name a text spells; a text that spells no name drops nothing. -/
def removeText (h : Headers) (t : List Char) : Headers :=
  match HeaderName.ofChars? t with
  | some n => h.remove n
  | none => h

/-- Drops what some texts name, one text after another. What that comes to is said by `removeTexts_eq`. -/
@[irreducible] def removeTexts (h : Headers) (ts : List (List Char)) : Headers := ts.foldl removeText h

/-- Adds the fields of `source` to `h`, and drops every name that concerns the connection of `source`, also where `h`
held it before. -/
def mergeEndToEnd (h source : Headers) : Headers :=
  ((h.addAll source).removeTexts source.connectionOptions).removeTexts hopByHopTexts

/-- Drops every name that concerns the connection. -/
def endToEnd (h : Headers) : Headers := (h.removeTexts h.connectionOptions).removeTexts hopByHopTexts

/-- Some `connection` value that is text lists a word. -/
def Lists (h : Headers) (word : List Char) : Prop :=
  ∃ v ∈ h.values .connection, ∃ t, v.text? = some t ∧ ∃ f ∈ fields ',' t, lower (trim f) = word

theorem mem_connectionOptions {h : Headers} {word : List Char} (hw : word ≠ []) :
    word ∈ h.connectionOptions ↔ h.Lists word := by
  unfold connectionOptions Lists texts
  simp only [List.mem_filter, List.mem_map, List.mem_flatMap, List.mem_filterMap]
  constructor
  · rintro ⟨⟨f, ⟨t, ⟨v, hv, ht⟩, hf⟩, rfl⟩, -⟩
    exact ⟨v, hv, t, ht, f, hf, rfl⟩
  · rintro ⟨v, hv, t, ht, f, hf, rfl⟩
    exact ⟨⟨f, ⟨t, ⟨v, hv, ht⟩, hf⟩, rfl⟩, by simpa using hw⟩

theorem isEndToEnd_iff (h : Headers) (n : HeaderName) :
    h.isEndToEnd n = true ↔ n ∉ hopByHopNames ∧ ¬ h.Lists n.chars := by
  rw [← mem_connectionOptions n.chars_ne_nil]
  simp [isEndToEnd]

/-! ## Dropping name by name -/

theorem removeTexts_eq (h : Headers) (ts : List (List Char)) :
    h.removeTexts ts = h.filterNames fun n => !(ts.filterMap HeaderName.ofChars?).contains n := by
  unfold removeTexts
  induction ts generalizing h with
  | nil => exact congrArg Headers.mk (List.filter_eq_self.2 (by simp)).symm
  | cons t ts ih =>
    rw [List.foldl_cons, ih]
    unfold removeText
    cases spelt : HeaderName.ofChars? t with
    | none => rw [List.filterMap_cons_none spelt]
    | some n =>
      rw [List.filterMap_cons_some spelt]
      show (h.remove n).filterNames _ = _
      rw [remove, filterNames_filterNames]
      congr 1
      funext m
      simp [Bool.and_comm]

/-- The names HTTP/2 adds spell no field. -/
theorem filterMap_hopByHopTexts : hopByHopTexts.filterMap HeaderName.ofChars? = hopByHopNames := by decide +kernel

theorem mem_filterMap_connectionOptions {h : Headers} {n : HeaderName} :
    n ∈ h.connectionOptions.filterMap HeaderName.ofChars? ↔ n.chars ∈ h.connectionOptions := by
  -- options are in lower case already
  have lowered {t : List Char} (ht : t ∈ h.connectionOptions) : lower t = t := by
    obtain ⟨f, -, rfl⟩ := List.mem_map.1 (List.mem_filter.1 ht).1
    exact lower_lower _
  rw [List.mem_filterMap]
  constructor
  · rintro ⟨t, ht, spelt⟩
    rwa [HeaderName.ofChars?_eq_some_iff.1 spelt, lowered ht]
  · exact fun ht => ⟨_, ht, HeaderName.ofChars?_eq_some_iff.2 (lowered ht).symm⟩

/-- In whatever order the names are dropped, what may be passed on is left. -/
theorem removeTexts_hop (h source : Headers) :
    (h.removeTexts source.connectionOptions).removeTexts hopByHopTexts = h.filterNames source.isEndToEnd := by
  rw [removeTexts_eq, removeTexts_eq, filterNames_filterNames, filterMap_hopByHopTexts]
  congr 1
  funext n
  rw [isEndToEnd]
  congr 2
  rw [Bool.eq_iff_iff, List.contains_iff_mem, List.contains_iff_mem]
  exact mem_filterMap_connectionOptions

theorem mergeEndToEnd_eq (h source : Headers) :
    h.mergeEndToEnd source = (h.addAll source).filterNames source.isEndToEnd := removeTexts_hop _ _

theorem endToEnd_eq (h : Headers) : h.endToEnd = h.filterNames h.isEndToEnd := removeTexts_hop _ _

theorem values_mergeEndToEnd (h source : Headers) (n : HeaderName) :
    (h.mergeEndToEnd source).values n
      = if source.isEndToEnd n then h.values n ++ source.values n else [] := by
  rw [mergeEndToEnd_eq, values_filterNames, values_addAll]

theorem values_endToEnd (h : Headers) (n : HeaderName) :
    h.endToEnd.values n = if h.isEndToEnd n then h.values n else [] := by
  rw [endToEnd_eq, values_filterNames]

end Headers

end Gateway
