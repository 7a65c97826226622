import Gateway.Route
import Mathlib.Data.List.Nodup

/-!
# Which route serves a path

Routes are tried in an order, by the bytes of their mount points, and the first that fits is taken. What comes of it is
said here without any of that: `Route.Serves` says of characters when a path lies under a mount point, and
`IsFirstLongest` which of the routes that serve a path is meant.

The main theorem is `RouteTable.find_longest`.
-/

namespace Gateway

/-! ## Bytes of a path -/

/-- Only a slash begins with its byte. -/
theorem eq_slash_of_head {c : Char} {bs : Bytes} (h : (String.utf8EncodeChar c ++ bs).head? = some Route.slash) :
    c = '/' := by
  obtain ⟨rest, hr⟩ := List.head?_eq_some_iff.1 h
  have same : String.utf8EncodeChar c ++ bs = String.utf8EncodeChar '/' ++ rest := hr
  exact (utf8EncodeChar_append_inj same).1

namespace Route

/-- A path lies under a mount point: it is the mount point, or goes on behind it with a slash. -/
def Serves (r : Route) (path : List Char) : Prop := path = r.mount.toList ∨ r.mount.toList ++ ['/'] <+: path

variable {r s : Route} {path : List Char}

theorem Serves.mount_prefix (h : r.Serves path) : r.mount.toList <+: path := by
  rcases h with rfl | under
  · exact List.prefix_rfl
  · exact (List.prefix_append _ _).trans under

/-- The byte behind the mount point is the first one of what follows. -/
theorem getElem?_extent (r : Route) (rest : List Char) :
    (utf8 (String.ofList (r.mount.toList ++ rest)))[r.extent]? = (rest.flatMap String.utf8EncodeChar).head? := by
  have bytes : utf8 (String.ofList (r.mount.toList ++ rest)) = utf8 r.mount ++ rest.flatMap String.utf8EncodeChar := by
    simp [utf8]
  rw [bytes, extent, List.getElem?_append_right (Nat.le_refl _), Nat.sub_self, List.head?_eq_getElem?]

/-- The bytes tell what the characters would. -/
theorem covers_iff : r.covers (utf8 (String.ofList path)) = true ↔ r.Serves path := by
  unfold covers
  rw [Bool.and_eq_true, List.isPrefixOf_iff_prefix, utf8_prefix_iff, String.toList_ofList]
  constructor
  · rintro ⟨⟨rest, rfl⟩, next⟩
    rw [getElem?_extent] at next
    cases rest with
    | nil => exact .inl (List.append_nil _)
    | cons c rest =>
      right
      obtain ⟨b, bs, hb⟩ := List.exists_cons_of_ne_nil (@String.utf8EncodeChar_ne_nil c)
      have first : ((c :: rest).flatMap String.utf8EncodeChar).head? = some b := by
        rw [List.flatMap_cons, hb]
        rfl
      rw [first, Option.all_some, beq_iff_eq] at next
      rw [next, List.flatMap_cons] at first
      obtain rfl := eq_slash_of_head first
      exact ⟨rest, by simp⟩
  · rintro (rfl | ⟨rest, rfl⟩)
    · refine ⟨List.prefix_rfl, ?_⟩
      have behind := getElem?_extent r []
      rw [List.append_nil] at behind
      rw [behind]
      rfl
    · rw [List.append_assoc]
      refine ⟨List.prefix_append _ _, ?_⟩
      rw [getElem?_extent]
      rfl

/-- Two mount points a path lies under are the same if they are of one length. -/
theorem Serves.mount_eq (hr : r.Serves path) (hs : s.Serves path) (same : r.extent = s.extent) : r.mount = s.mount := by
  have bytes {q : Route} (hq : q.Serves path) : utf8 q.mount <+: utf8 (String.ofList path) :=
    utf8_prefix_iff.2 (by rw [String.toList_ofList]; exact hq.mount_prefix)
  have forth : utf8 r.mount <+: utf8 s.mount := List.prefix_of_prefix_length_le (bytes hr) (bytes hs) (Nat.le_of_eq same)
  have back : utf8 s.mount <+: utf8 r.mount := List.prefix_of_prefix_length_le (bytes hs) (bytes hr) (Nat.le_of_eq same.symm)
  have chars : r.mount.toList = s.mount.toList :=
    (utf8_prefix_iff.1 forth).eq_of_length_le (utf8_prefix_iff.1 back).length_le
  exact String.toList_inj.1 chars

end Route

/-- Of the routes that serve a path, this one is the first of those with the longest mount point. -/
structure IsFirstLongest (routes : List Route) (path : List Char) (r : Route) : Prop where
  serves : r.Serves path
  first : ∃ before after, routes = before ++ r :: after
    ∧ (∀ s ∈ before, s.Serves path → s.extent < r.extent) ∧ ∀ s ∈ after, s.Serves path → s.extent ≤ r.extent

namespace IsFirstLongest

variable {routes others : List Route} {path : List Char} {r s : Route}

theorem mem (h : IsFirstLongest routes path r) : r ∈ routes := by
  obtain ⟨before, after, rfl, -⟩ := h.first
  exact List.mem_append_right _ List.mem_cons_self

theorem longest (h : IsFirstLongest routes path r) (hs : s ∈ routes) (serves : s.Serves path) : s.extent ≤ r.extent := by
  obtain ⟨before, after, rfl, shorter, notLonger⟩ := h.first
  rcases List.mem_append.1 hs with earlier | here
  · exact Nat.le_of_lt (shorter s earlier serves)
  · rcases List.mem_cons.1 here with rfl | later
    · exact Nat.le_refl _
    · exact notLonger s later serves

/-- Where no mount point is given twice, the order of the routes does not matter. -/
theorem eq_of_perm (hr : IsFirstLongest routes path r) (hs : IsFirstLongest others path s) (perm : others.Perm routes)
    (distinct : (routes.map Route.mount).Nodup) : s = r := by
  have member : s ∈ routes := perm.mem_iff.1 hs.mem
  have forth := hr.longest member hs.serves
  have back := hs.longest (perm.mem_iff.2 hr.mem) hr.serves
  exact List.inj_on_of_nodup_map distinct member hr.mem (hs.serves.mount_eq hr.serves (Nat.le_antisymm forth back))

end IsFirstLongest

/-- After a stable sort by size, the largest first, what is found first is the first of the largest. -/
theorem find?_mergeSort_size {α : Type} (size : α → Nat) (p : α → Bool) {l : List α} {a : α}
    (h : (l.mergeSort fun x y => decide (size y ≤ size x)).find? p = some a) :
    ∃ before after, l = before ++ a :: after ∧ (∀ b ∈ before, p b = true → size b < size a)
      ∧ ∀ b ∈ after, p b = true → size b ≤ size a := by
  have trans (x y z : α) (hxy : decide (size y ≤ size x) = true) (hyz : decide (size z ≤ size y) = true) :
      decide (size z ≤ size x) = true := by
    simp only [decide_eq_true_eq] at *
    omega
  have total (x y : α) : (decide (size y ≤ size x) || decide (size x ≤ size y)) = true := by
    simp only [Bool.or_eq_true, decide_eq_true_eq]
    omega
  induction l with
  | nil =>
    rw [List.mergeSort_nil] at h
    cases h
  | cons c l ih =>
    have sorted := List.pairwise_mergeSort trans total (c :: l)
    -- the sort puts `c` behind what is larger, and leaves the rest in its order
    obtain ⟨front, back, hcons, hrest, larger⟩ := List.mergeSort_cons trans total c l
    rw [hcons] at h sorted
    rw [hrest] at ih
    rw [List.find?_append] at h ih
    cases found : front.find? p with
    -- what was found among the larger ones stays, with `c` one of those it beats
    | some b =>
      rw [found, Option.some_or] at h ih
      obtain ⟨before, after, rfl, smaller, notLarger⟩ := ih h
      have above := larger a (List.mem_of_find?_eq_some (by rw [found]; exact h))
      refine ⟨c :: before, after, rfl, ?_, notLarger⟩
      intro d hd fits
      rcases List.mem_cons.1 hd with rfl | hd
      · simpa using above
      · exact smaller d hd fits
    | none =>
      rw [found, Option.none_or] at h ih
      by_cases fits : p c = true
      · rw [List.find?_cons_of_pos fits] at h
        obtain rfl := Option.some.inj h
        refine ⟨[], l, rfl, fun d hd => absurd hd List.not_mem_nil, ?_⟩
        intro d hd hp
        have member : d ∈ front ++ back := by
          rw [← hrest]
          exact List.mem_mergeSort.2 hd
        rcases List.mem_append.1 member with hf | hb
        · exact absurd hp (List.find?_eq_none.1 found d hf)
        · have behind := List.rel_of_pairwise_cons (List.pairwise_append.1 sorted).2.1 hb
          simpa using behind
      · rw [List.find?_cons_of_neg fits] at h
        obtain ⟨before, after, rfl, smaller, notLarger⟩ := ih h
        refine ⟨c :: before, after, rfl, ?_, notLarger⟩
        intro d hd hp
        rcases List.mem_cons.1 hd with rfl | hd
        · exact absurd hp fits
        · exact smaller d hd hp

/-- The path of a path and query: what stands before the first `?`. -/
def pathOf (pathAndQuery : String) : List Char := pathAndQuery.toList.takeWhile (· ≠ '?')

theorem cutAt_fst (sep : Char) (cs : List Char) : (cutAt sep cs).1 = cs.takeWhile (· ≠ sep) := by
  induction cs with
  | nil => rfl
  | cons c cs ih =>
    unfold cutAt
    by_cases h : c = sep
    · rw [if_pos h, List.takeWhile_cons_of_neg (by simpa using h)]
    · rw [if_neg h, List.takeWhile_cons_of_pos (by simpa using h), ← ih]

namespace RouteTable

variable {t u : RouteTable} {pathAndQuery : String} {r : Route}

theorem select_eq_find? (t : RouteTable) (pathAndQuery : String) :
    t.select pathAndQuery = t.ordered.find? fun r => r.covers (utf8 (String.ofList (pathOf pathAndQuery))) := by
  unfold select
  rw [cutAt_fst]
  rfl

theorem isFirstLongest_of_select (h : t.select pathAndQuery = some r) :
    IsFirstLongest t.routes (pathOf pathAndQuery) r := by
  rw [select_eq_find?] at h
  have serves := Route.covers_iff.1 (List.find?_eq_some_iff_append.1 h).1
  obtain ⟨before, after, split, shorter, notLonger⟩ := find?_mergeSort_size Route.extent _ h
  refine ⟨serves, before, after, split, ?_, ?_⟩
  · intro s hs under
    exact shorter s hs (Route.covers_iff.2 under)
  · intro s hs under
    exact notLonger s hs (Route.covers_iff.2 under)

theorem select_isSome_iff : (t.select pathAndQuery).isSome ↔ ∃ r ∈ t.routes, r.Serves (pathOf pathAndQuery) := by
  rw [select_eq_find?, List.find?_isSome]
  simp only [ordered, List.mem_mergeSort, Route.covers_iff]

/-- A mount point that is cut off leaves the rest of the text, character for character. -/
theorem lookUp_of_select (h : t.select pathAndQuery = some r) : ∃ suffix, pathAndQuery = r.mount ++ suffix
    ∧ t.lookUp pathAndQuery = .ok (some { r.target with uri := r.target.uri ++ suffix }) := by
  have under : r.mount.toList <+: pathAndQuery.toList :=
    (isFirstLongest_of_select h).serves.mount_prefix.trans (List.takeWhile_prefix _)
  obtain ⟨rest, hrest⟩ := under
  refine ⟨String.ofList rest, ?_, ?_⟩
  · rw [← String.toList_inj, String.toList_append, String.toList_ofList, hrest]
  · have cut : dropBytes? r.extent pathAndQuery.toList = some rest := by
      rw [← hrest]
      exact dropBytes?_append r.mount.toList rest
    simp only [lookUp, h, cut]
    rfl

theorem lookUp_of_select_none (h : t.select pathAndQuery = none) : t.lookUp pathAndQuery = .ok none := by
  simp only [lookUp, h]

/-- Every look-up cuts between two characters. -/
theorem lookUp_eq_ok (t : RouteTable) (pathAndQuery : String) : t.lookUp pathAndQuery = .ok (t.find pathAndQuery) := by
  unfold find
  cases h : t.select pathAndQuery with
  | none => rw [lookUp_of_select_none h]
  | some r =>
    obtain ⟨suffix, -, found⟩ := lookUp_of_select h
    rw [found]

theorem find_of_select (h : t.select pathAndQuery = some r) : ∃ suffix, pathAndQuery = r.mount ++ suffix
    ∧ t.find pathAndQuery = some { r.target with uri := r.target.uri ++ suffix } := by
  obtain ⟨suffix, whole, found⟩ := lookUp_of_select h
  refine ⟨suffix, whole, ?_⟩
  rw [lookUp_eq_ok] at found
  exact Except.ok.inj found

theorem find_of_select_none (h : t.select pathAndQuery = none) : t.find pathAndQuery = none := by
  have found := lookUp_of_select_none h
  rw [lookUp_eq_ok] at found
  exact Except.ok.inj found

theorem find_isSome_iff : (t.find pathAndQuery).isSome ↔ ∃ r ∈ t.routes, r.Serves (pathOf pathAndQuery) := by
  rw [← select_isSome_iff]
  cases h : t.select pathAndQuery with
  | none =>
    rw [find_of_select_none h]
    exact Iff.rfl
  | some r =>
    obtain ⟨suffix, -, found⟩ := find_of_select h
    rw [found]
    exact Iff.rfl

/-- What is found is what the first of the longest mount points says. -/
theorem exists_of_find {target : Target} (h : t.find pathAndQuery = some target) :
    ∃ r suffix, IsFirstLongest t.routes (pathOf pathAndQuery) r ∧ pathAndQuery = r.mount ++ suffix
      ∧ target = { r.target with uri := r.target.uri ++ suffix } := by
  cases selected : t.select pathAndQuery with
  | none =>
    rw [find_of_select_none selected] at h
    cases h
  | some r =>
    obtain ⟨suffix, whole, found⟩ := find_of_select selected
    rw [found] at h
    exact ⟨r, suffix, isFirstLongest_of_select selected, whole, (Option.some.inj h).symm⟩

theorem find_eq_of_perm (distinct : (t.routes.map Route.mount).Nodup) (perm : u.routes.Perm t.routes) :
    u.find pathAndQuery = t.find pathAndQuery := by
  have same : (u.find pathAndQuery).isSome = (t.find pathAndQuery).isSome := by
    rw [Bool.eq_iff_iff, find_isSome_iff, find_isSome_iff]
    simp only [perm.mem_iff]
  cases ht : t.find pathAndQuery with
  | none =>
    rw [ht] at same
    exact Option.not_isSome_iff_eq_none.1 (by rw [same]; exact Bool.false_ne_true)
  | some target =>
    rw [ht] at same
    obtain ⟨other, hu⟩ := Option.isSome_iff_exists.1 same
    obtain ⟨r, suffix, longest, whole, rfl⟩ := exists_of_find ht
    obtain ⟨s, rest, longest', whole', rfl⟩ := exists_of_find hu
    obtain rfl := longest.eq_of_perm longest' perm distinct
    have behind : rest = suffix := by
      have chars : s.mount.toList ++ rest.toList = s.mount.toList ++ suffix.toList := by
        rw [← String.toList_append, ← whole', whole, String.toList_append]
      exact String.toList_inj.1 (List.append_cancel_left chars)
    rw [hu, behind]

/-- A look-up has no bad offset. It finds a target exactly if some route serves the path; then it is the target of the
first of the routes with the longest mount point that serve it, and all that stands behind the mount point follows the
path of the target. With distinct mount points the order of the routes does not matter. -/
theorem find_longest (t : RouteTable) (pathAndQuery : String) :
    t.lookUp pathAndQuery = .ok (t.find pathAndQuery)
      ∧ ((t.find pathAndQuery).isSome ↔ ∃ r ∈ t.routes, r.Serves (pathOf pathAndQuery))
      ∧ (∀ target, t.find pathAndQuery = some target → ∃ r suffix,
          IsFirstLongest t.routes (pathOf pathAndQuery) r ∧ pathAndQuery = r.mount ++ suffix
            ∧ target = { r.target with uri := r.target.uri ++ suffix })
      ∧ ((t.routes.map Route.mount).Nodup → ∀ u : RouteTable, u.routes.Perm t.routes →
          u.find pathAndQuery = t.find pathAndQuery) := by
  refine ⟨lookUp_eq_ok t pathAndQuery, find_isSome_iff, ?_, ?_⟩
  · intro target h
    exact exists_of_find h
  · intro distinct u perm
    exact find_eq_of_perm distinct perm

/-- Two routes serve this path, and the one with the longer mount point is taken wherever it stands. -/
theorem find_longest_of_last :
    ([Route.new "/é/*" ⟨"café", 8080, "/menu/", ""⟩, Route.new "/" ⟨"shop", 80, "", ""⟩].map Route.mount).Nodup
      ∧ RouteTable.find ⟨[Route.new "/" ⟨"shop", 80, "", ""⟩, Route.new "/é/*" ⟨"café", 8080, "/menu/", ""⟩]⟩ "/é/ü?x=/é"
        = some ⟨"café", 8080, "/menu/ü?x=/é", ""⟩ := by
  let cafe := Route.new "/é/*" ⟨"café", 8080, "/menu/", ""⟩
  let shop := Route.new "/" ⟨"shop", 80, "", ""⟩
  have distinct : ([cafe, shop].map Route.mount).Nodup := by decide
  have sorted : RouteTable.ordered ⟨[cafe, shop]⟩ = [cafe, shop] := List.mergeSort_of_pairwise (by decide)
  obtain ⟨-, -, -, unordered⟩ := find_longest ⟨[cafe, shop]⟩ "/é/ü?x=/é"
  refine ⟨distinct, (unordered distinct ⟨[shop, cafe]⟩ (List.Perm.swap _ _ _)).trans ?_⟩
  unfold find lookUp select
  rw [sorted]
  decide +kernel

end RouteTable

end Gateway
