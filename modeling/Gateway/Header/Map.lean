import Gateway.Header.Name
import Gateway.Header.Value

/-!
# Header fields of a message

The fields of a message are a multimap: one name may have several values, and their order is kept. Entries are held in
the order they were added; no rule of the gateway depends on how entries of different names are ordered, so the view of
a map is `values`, the list of values of each name.

Each operation is described by what it does to the view: `values_append`, `values_remove`, `values_insert`,
`values_addAll`.
-/

namespace Gateway

/-- The header fields of a message, in the order they were added. -/
structure Headers where
  entries : List (HeaderName × HeaderValue)
deriving DecidableEq, Inhabited

namespace Headers

/-- No fields. -/
def empty : Headers := ⟨[]⟩

/-- The values of a name, in order. -/
def values (h : Headers) (n : HeaderName) : List HeaderValue :=
  (h.entries.filter fun e => e.1 = n).map (·.2)

/-- The first value of a name. -/
def get? (h : Headers) (n : HeaderName) : Option HeaderValue := (h.values n).head?

/-- Whether a name has a value. -/
def contains (h : Headers) (n : HeaderName) : Bool := !(h.values n).isEmpty

/-- One more value for a name. -/
def append (h : Headers) (n : HeaderName) (v : HeaderValue) : Headers := ⟨h.entries ++ [(n, v)]⟩

/-- Only the fields whose name passes `keep`. -/
def filterNames (h : Headers) (keep : HeaderName → Bool) : Headers := ⟨h.entries.filter fun e => keep e.1⟩

/-- Drops every value of a name. -/
def remove (h : Headers) (n : HeaderName) : Headers := h.filterNames fun m => m ≠ n

/-- Makes `v` the only value of a name. -/
def insert (h : Headers) (n : HeaderName) (v : HeaderValue) : Headers := (h.remove n).append n v

/-- The fields of `h` followed by those of `more`. -/
def addAll (h more : Headers) : Headers := ⟨h.entries ++ more.entries⟩

/-- The first value of a name as text. -/
def text? (h : Headers) (n : HeaderName) : Option (List Char) := h.get? n >>= HeaderValue.text?

/-- The values of a name that are text. -/
def texts (h : Headers) (n : HeaderName) : List (List Char) := (h.values n).filterMap HeaderValue.text?

/-! ## The view of each operation -/

@[simp] theorem values_empty (n : HeaderName) : empty.values n = [] := rfl

theorem values_append (h : Headers) (n m : HeaderName) (v : HeaderValue) :
    (h.append n v).values m = if n = m then h.values m ++ [v] else h.values m := by
  by_cases hnm : n = m <;> simp [append, values, hnm]

theorem values_filterNames (h : Headers) (keep : HeaderName → Bool) (m : HeaderName) :
    (h.filterNames keep).values m = if keep m then h.values m else [] := by
  unfold filterNames values
  rw [List.filter_filter]
  split
  · rename_i hk
    congr 1
    apply List.filter_congr
    rintro ⟨k, v⟩ _
    by_cases hkm : k = m
    · subst hkm; simp [hk]
    · simp [hkm]
  · rename_i hk
    rw [List.map_eq_nil_iff, List.filter_eq_nil_iff]
    rintro ⟨k, v⟩ _
    by_cases hkm : k = m
    · subst hkm; simp [hk]
    · simp [hkm]

theorem filterNames_filterNames (h : Headers) (p q : HeaderName → Bool) :
    (h.filterNames p).filterNames q = h.filterNames fun n => q n && p n := by
  simp [filterNames, List.filter_filter]

theorem values_remove (h : Headers) (n m : HeaderName) :
    (h.remove n).values m = if m = n then [] else h.values m := by
  unfold remove
  rw [values_filterNames]
  by_cases hmn : m = n <;> simp [hmn]

theorem values_insert (h : Headers) (n m : HeaderName) (v : HeaderValue) :
    (h.insert n v).values m = if m = n then [v] else h.values m := by
  unfold insert
  rw [values_append, values_remove]
  by_cases hmn : m = n
  · simp [hmn]
  · simp [hmn, Ne.symm hmn]

theorem values_addAll (h more : Headers) (m : HeaderName) :
    (h.addAll more).values m = h.values m ++ more.values m := by
  simp [addAll, values, List.filter_append]

theorem get?_eq (h : Headers) (n : HeaderName) : h.get? n = (h.values n).head? := rfl

theorem contains_eq (h : Headers) (n : HeaderName) : h.contains n = !(h.values n).isEmpty := rfl

end Headers

end Gateway
