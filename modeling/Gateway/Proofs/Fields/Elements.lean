import Gateway.Text.Ascii
import Mathlib.Data.List.DropRight

/-!
# Lists within field values

A field value may list several elements, with a separator between them and blanks around them. What such a list is, is
said here without a reader: the elements are what gives the text when it is joined again (`Elements`), and a word may
have blanks around it (`Padded`). The readers `fields` and `trim` find just that: `elements_iff`, `padded_trim`,
`trim_of_padded`.
-/

namespace Gateway

/-! ## Blanks around a word -/

/-- A word with nothing but blanks around it. -/
def Padded (word t : List Char) : Prop :=
  ∃ before after, t = before ++ word ++ after ∧ ∀ c ∈ before ++ after, isBlank c = true

/-- A word without blanks, which is not empty. -/
structure Solid (word : List Char) : Prop where
  some : word ≠ []
  clean : ∀ c ∈ word, isBlank c = false

theorem padded_trim (t : List Char) : Padded (trim t) t := by
  refine ⟨t.takeWhile isBlank, (trimStart t).rtakeWhile isBlank, ?_, fun c hc => ?_⟩
  · rw [List.append_assoc]
    show t = t.takeWhile isBlank ++ ((trimStart t).rdropWhile isBlank ++ (trimStart t).rtakeWhile isBlank)
    rw [List.rdropWhile_append_rtakeWhile]
    exact List.takeWhile_append_dropWhile.symm
  · rcases List.mem_append.1 hc with hc | hc
    · exact List.mem_takeWhile_imp hc
    · exact List.mem_rtakeWhile_imp hc

/-- Trimming finds the word again. -/
theorem trim_of_padded {word t : List Char} (solid : Solid word) (h : Padded word t) : trim t = word := by
  obtain ⟨before, after, rfl, blank⟩ := h
  have start : trimStart (before ++ word ++ after) = word ++ after := by
    obtain ⟨c, cs, rfl⟩ := List.exists_cons_of_ne_nil solid.some
    rw [trimStart, List.append_assoc, List.dropWhile_append_of_pos fun c hc => blank c (List.mem_append_left _ hc)]
    exact List.dropWhile_cons_of_neg (by simp [solid.clean c List.mem_cons_self])
  have last : word.rdropWhile isBlank = word :=
    List.rdropWhile_eq_self_iff.2 fun hw => by simp [solid.clean _ (List.getLast_mem hw)]
  rw [trim, start]
  show (word ++ after).rdropWhile isBlank = word
  rw [List.rdropWhile, List.reverse_append, List.dropWhile_append_of_pos]
  · exact last
  · exact fun c hc => blank c (List.mem_append_right _ (List.mem_reverse.1 hc))

theorem isBlank_lowerChar (c : Char) : isBlank (lowerChar c) = isBlank c := by
  by_cases upper : 'A' ≤ c ∧ c ≤ 'Z'
  · obtain ⟨n, rfl⟩ := exists_upper upper
    clear upper
    revert n
    decide
  · rw [lowerChar, if_neg upper]

theorem Solid.of_lower {word : List Char} (solid : Solid (lower word)) : Solid word where
  some := fun h => solid.some (congrArg lower h)
  clean := fun c hc => (isBlank_lowerChar c).symm.trans (solid.clean _ (List.mem_map_of_mem hc))

/-- Trimming finds a word that is spelt in any case. -/
theorem lower_trim_eq_iff {word t : List Char} (solid : Solid word) :
    lower (trim t) = word ↔ ∃ spelt, Padded spelt t ∧ lower spelt = word := by
  constructor
  · exact fun h => ⟨trim t, padded_trim t, h⟩
  · rintro ⟨spelt, padded, rfl⟩
    rw [trim_of_padded solid.of_lower padded]

/-! ## Elements between separators -/

/-- The elements of a text that lists them with a separator between them. -/
structure Elements (sep : Char) (t : List Char) (es : List (List Char)) : Prop where
  joined : [sep].intercalate es = t
  clean : ∀ e ∈ es, sep ∉ e
  some : es ≠ []

theorem fields_eq_splitOn (sep : Char) (t : List Char) : fields sep t = t.splitOn sep := by
  induction t with
  | nil => rfl
  | cons c cs ih =>
    rw [fields, List.splitOn_cons_eq_if_modifyHead, ← ih]
    by_cases h : c = sep
    · simp [h]
    · obtain ⟨f, fs, hf⟩ := List.exists_cons_of_ne_nil (fields_ne_nil sep cs)
      simp [h, hf]

theorem not_mem_of_mem_fields {sep : Char} {t e : List Char} (h : e ∈ fields sep t) : sep ∉ e := by
  induction t generalizing e with
  | nil =>
    rw [List.mem_singleton.1 h]
    exact List.not_mem_nil
  | cons c cs ih =>
    unfold fields at h
    split at h
    · rcases List.mem_cons.1 h with rfl | h
      · exact List.not_mem_nil
      · exact ih h
    · next other =>
      split at h
      · next none => exact absurd none (fields_ne_nil sep cs)
      · next f fs first =>
        rw [first] at ih
        rcases List.mem_cons.1 h with rfl | h
        · rw [List.mem_cons, not_or]
          exact ⟨fun same => other same.symm, ih List.mem_cons_self⟩
        · exact ih (List.mem_cons_of_mem _ h)

/-- The fields of a text are the elements it lists, and no others. -/
theorem elements_iff {sep : Char} {t : List Char} {es : List (List Char)} : Elements sep t es ↔ fields sep t = es := by
  constructor
  · rintro ⟨rfl, clean, some⟩
    rw [fields_eq_splitOn]
    exact List.splitOn_intercalate sep clean some
  · rintro rfl
    refine ⟨?_, fun e => not_mem_of_mem_fields, fields_ne_nil sep t⟩
    rw [fields_eq_splitOn]
    exact List.intercalate_splitOn sep

end Gateway
