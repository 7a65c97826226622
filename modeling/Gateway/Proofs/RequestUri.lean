import Gateway.Uri.Reader

/-!
# Request URIs that were read

A URI that was read holds only what the readers let through: each of its parts consists of the characters of such a
part, and a path starts with a slash unless it is the lone star.

Where a text is known, so is what is read: `readPathAndQuery_eq` for a path and query, `readAuthority_append` for an
authority before a slash.
-/

namespace Gateway

namespace Uri

variable {u : Uri} {cs path rest authority : List Char} {query : Option (List Char)}

/-- A path starts with a slash, if it is not empty. -/
def SlashFirst (path : List Char) : Prop := ∀ c ∈ path.head?, c = '/'

/-- Characters of an authority, the percent sign among them. -/
def InAuthority (c : Char) : Prop := isAuthorityChar c = true ∨ c = '%'

/-! ## What the readers make of a text -/

/-- A query ends before the first `#`. -/
theorem readQuery_eq (cs : List Char) :
    readQuery cs = if (cutAt '#' cs).1.all isQueryChar then .ok (cutAt '#' cs).1 else .error .character := by
  induction cs with
  | nil => rfl
  | cons c cs ih =>
    unfold readQuery cutAt
    by_cases fragment : c = '#'
    · rw [if_pos fragment, if_pos fragment]
      rfl
    rw [if_neg fragment, if_neg fragment, ih, List.all_cons]
    by_cases allowed : isQueryChar c = true
    · rw [if_pos allowed, allowed, Bool.true_and]
      by_cases behind : (cutAt '#' cs).1.all isQueryChar = true
      · rw [if_pos behind, if_pos behind]
      · rw [if_neg behind, if_neg behind]
    · rw [if_neg allowed, if_neg (by simp [allowed])]

/-- Whether all characters of a path and a query may stand there. -/
def partsAllowed (parts : List Char × Option (List Char)) : Bool :=
  parts.1.all isPathChar && parts.2.all fun query => query.all isQueryChar

theorem partsAllowed_cons {c : Char} (h : isPathChar c = true) :
    partsAllowed (c :: path, query) = partsAllowed (path, query) := by
  rw [partsAllowed, List.all_cons, h, Bool.true_and, partsAllowed]

/-- Path and query end before the first `#` and are parted at the first `?`. -/
theorem readPathAndQuery_eq (cs : List Char) :
    readPathAndQuery cs = if partsAllowed (cutAt '?' (cutAt '#' cs).1) then .ok (cutAt '?' (cutAt '#' cs).1)
      else .error .character := by
  induction cs with
  | nil => rfl
  | cons c cs ih =>
    rw [readPathAndQuery, cutAt]
    -- a fragment ends the path, and so does a query
    by_cases fragment : c = '#'
    · rw [if_pos fragment, if_pos fragment]
      rfl
    rw [if_neg fragment, if_neg fragment]
    dsimp only
    rw [cutAt]
    by_cases question : c = '?'
    · rw [if_pos question, if_pos question, readQuery_eq]
      by_cases query : (cutAt '#' cs).1.all isQueryChar = true
      · rw [if_pos query, if_pos (by simp [partsAllowed, query])]
      · rw [if_neg query, if_neg (by simpa [partsAllowed] using query)]
    rw [if_neg question, if_neg question, ih]
    by_cases path : isPathChar c = true
    · rw [if_pos path, partsAllowed_cons path]
      by_cases behind : partsAllowed (cutAt '?' (cutAt '#' cs).1) = true
      · rw [if_pos behind, if_pos behind]
      · rw [if_neg behind, if_neg behind]
    · rw [if_neg path, if_neg (by simp [partsAllowed, path])]

/-- An authority that may end before a slash is read up to it. -/
theorem readAuthority_append {s s' : AuthorityScan} (inside : ∀ c ∈ cs, endsAuthority c = false)
    (scan : cs.foldlM AuthorityScan.next s = .ok s') (accepts : s'.accepts = true) :
    readAuthority s (cs ++ '/' :: rest) = .ok (cs, '/' :: rest) := by
  induction cs generalizing s with
  | nil =>
    cases scan
    rw [List.nil_append, readAuthority, if_pos (by decide), if_pos accepts]
  | cons c cs ih =>
    rw [List.foldlM_cons] at scan
    cases first : s.next c with
    | error flaw =>
      rw [first] at scan
      cases scan
    | ok mid =>
      rw [first] at scan
      have behind := ih (fun d hd => inside d (List.mem_cons_of_mem _ hd)) scan
      rw [List.cons_append, readAuthority, if_neg (by simp [inside c List.mem_cons_self]), first]
      dsimp only
      rw [behind]

/-! ## What the readers let through -/

/-- The path of a text is the start of it. -/
theorem readPathAndQuery_path (h : readPathAndQuery cs = .ok (path, query)) :
    path <+: cs ∧ ∀ c ∈ path, isPathChar c = true := by
  rw [readPathAndQuery_eq] at h
  split at h
  · next allowed =>
    have parts := Except.ok.inj h
    rw [parts, partsAllowed, Bool.and_eq_true] at allowed
    have start : (cutAt '?' (cutAt '#' cs).1).1 <+: cs := (isPrefix_cutAt _ _).trans (isPrefix_cutAt _ _)
    rw [parts] at start
    exact ⟨start, List.all_eq_true.1 allowed.1⟩
  · cases h

/-- The query of a text consists of characters of a query. -/
theorem readPathAndQuery_query (h : readPathAndQuery cs = .ok (path, query)) :
    ∀ q ∈ query, ∀ c ∈ q, isQueryChar c = true := by
  rw [readPathAndQuery_eq] at h
  split at h
  · next allowed =>
    rw [Except.ok.inj h, partsAllowed, Bool.and_eq_true] at allowed
    rintro q rfl
    exact List.all_eq_true.1 allowed.2
  · cases h

theorem isSchemeChar_lowerChar {c : Char} (h : isSchemeChar c = true) : isSchemeChar (lowerChar c) = true := by
  by_cases upper : 'A' ≤ c ∧ c ≤ 'Z'
  · obtain ⟨n, rfl⟩ := exists_upper upper
    clear upper h
    revert n
    decide
  · rwa [lowerChar, if_neg upper]

/-- A scheme consists of characters of a scheme, also in its stored form. -/
theorem splitScheme?_scheme {scheme : List Char} (h : splitScheme? cs = some (scheme, rest)) :
    ∀ c ∈ normalScheme scheme, isSchemeChar c = true := by
  have spelt : ∀ c ∈ scheme, isSchemeChar c = true := by
    unfold splitScheme? at h
    split at h
    · cases h
    dsimp only at h
    split at h
    · cases h
      exact List.all_eq_true.1 List.all_takeWhile
    · cases h
  rw [normalScheme]
  split
  · intro c hc
    obtain ⟨d, hd, rfl⟩ := List.mem_map.1 hc
    exact isSchemeChar_lowerChar (spelt d hd)
  · exact spelt

/-- A character that an authority goes on with. -/
theorem inAuthority_of_next {s s' : AuthorityScan} {c : Char} (h : s.next c = .ok s') : InAuthority c := by
  unfold AuthorityScan.next at h
  by_cases colon : c = ':'
  · exact .inl (by rw [colon]; decide)
  by_cases opening : c = '['
  · exact .inl (by rw [opening]; decide)
  by_cases closing : c = ']'
  · exact .inl (by rw [closing]; decide)
  by_cases userinfo : c = '@'
  · exact .inl (by rw [userinfo]; decide)
  by_cases percent : c = '%'
  · exact .inr percent
  rw [if_neg colon, if_neg opening, if_neg closing, if_neg userinfo, if_neg percent] at h
  by_cases allowed : isAuthorityChar c = true
  · exact .inl allowed
  · rw [if_neg allowed] at h
    cases h

/-- An authority ends where the text does, or at a character that ends it. -/
theorem readAuthority_ok {s : AuthorityScan} (h : readAuthority s cs = .ok (authority, rest)) :
    (∀ c ∈ authority, InAuthority c) ∧ ∀ c ∈ rest.head?, endsAuthority c = true := by
  induction cs generalizing s authority rest with
  | nil =>
    rw [readAuthority] at h
    split at h
    · cases h
      exact ⟨List.forall_mem_nil _, fun _ hc => absurd hc (Option.not_mem_none _)⟩
    · cases h
  | cons c cs ih =>
    rw [readAuthority] at h
    split at h
    · next ends =>
      split at h
      · cases h
        refine ⟨List.forall_mem_nil _, ?_⟩
        rintro d ⟨⟩
        exact ends
      · cases h
    split at h
    · cases h
    · next next =>
      split at h
      · cases h
      · next behind =>
        cases h
        obtain ⟨chars, ended⟩ := ih behind
        exact ⟨List.forall_mem_cons.2 ⟨inAuthority_of_next next, chars⟩, ended⟩

/-! ## The whole URI -/

/-- The authority of a URI, if there is one, consists of characters of an authority. -/
def AuthorityLegal (u : Uri) : Prop := ∀ a ∈ u.authority, ∀ c ∈ a.toList, InAuthority c

/-- Each part of a URI consists of the characters of such a part. -/
structure Spelt (u : Uri) : Prop where
  scheme : ∀ s ∈ u.scheme, ∀ c ∈ s.toList, isSchemeChar c = true
  authority : u.AuthorityLegal
  path : ∀ c ∈ u.path.toList, isPathChar c = true
  query : ∀ q ∈ u.query, ∀ c ∈ q.toList, isQueryChar c = true

/-- The parts of a URI as they are read. -/
structure Legal (u : Uri) : Prop extends Spelt u where
  slash : SlashFirst u.path.toList

/-- Of the characters that end an authority only the slash is one of a path. -/
theorem slashFirst_of_ends (read : readPathAndQuery rest = .ok (path, query))
    (ends : ∀ c ∈ rest.head?, endsAuthority c = true) : SlashFirst path := by
  obtain ⟨⟨behind, rfl⟩, chars⟩ := readPathAndQuery_path read
  cases path with
  | nil => exact fun _ hc => absurd hc (Option.not_mem_none _)
  | cons c path =>
    rintro d ⟨⟩
    have allowed := chars c List.mem_cons_self
    have ended := ends c rfl
    simp only [endsAuthority, Bool.or_eq_true, beq_iff_eq] at ended
    rcases ended with (rfl | rfl) | rfl
    · rfl
    · exact absurd allowed (by decide)
    · exact absurd allowed (by decide)

/-- A part that was read, as it is kept. -/
theorem forall_mem_map_ofList {p : Char → Prop} (h : ∀ q ∈ query, ∀ c ∈ q, p c) :
    ∀ q ∈ query.map String.ofList, ∀ c ∈ q.toList, p c := by
  intro q hq
  obtain ⟨r, hr, rfl⟩ := Option.map_eq_some_iff.1 hq
  simpa only [String.toList_ofList] using h r hr

theorem legal_of_readOriginForm (h : readOriginForm ('/' :: cs) = .ok u) : u.Legal := by
  unfold readOriginForm at h
  split at h
  · cases h
  · next path query read =>
    cases h
    refine ⟨⟨fun _ hs => absurd hs (Option.not_mem_none _), fun _ ha => absurd ha (Option.not_mem_none _), ?_, ?_⟩, ?_⟩
    · simpa only [String.toList_ofList] using (readPathAndQuery_path read).2
    · exact forall_mem_map_ofList (readPathAndQuery_query read)
    · rw [String.toList_ofList]
      refine slashFirst_of_ends read ?_
      rintro c ⟨⟩
      rfl

theorem legal_of_readAbsolute {scheme : List Char} (spelt : ∀ c ∈ scheme, isSchemeChar c = true)
    (h : readAbsolute scheme cs = .ok u) : u.Legal := by
  unfold readAbsolute at h
  split at h
  · cases h
  split at h
  · cases h
  next authority rest first =>
  split at h
  · cases h
  split at h
  · cases h
  next path query second =>
  cases h
  obtain ⟨chars, ends⟩ := readAuthority_ok first
  refine ⟨⟨?_, ?_, ?_, ?_⟩, ?_⟩
  · rintro s ⟨⟩
    simpa only [String.toList_ofList] using spelt
  · rintro a ⟨⟩
    simpa only [String.toList_ofList] using chars
  · simpa only [String.toList_ofList] using (readPathAndQuery_path second).2
  · exact forall_mem_map_ofList (readPathAndQuery_query second)
  · simpa only [String.toList_ofList] using slashFirst_of_ends second ends

theorem legal_of_readAuthorityForm (h : readAuthorityForm cs = .ok u) : u.Legal := by
  unfold readAuthorityForm at h
  split at h
  · cases h
  next authority rest read =>
  split at h
  · cases h
    refine ⟨⟨fun _ hs => absurd hs (Option.not_mem_none _), ?_, List.forall_mem_nil _,
      fun _ hq => absurd hq (Option.not_mem_none _)⟩, fun _ hc => absurd hc (Option.not_mem_none _)⟩
    rintro a ⟨⟩
    simpa only [String.toList_ofList] using (readAuthority_ok read).1
  · cases h

/-- The URI that stands for the server itself. -/
def star : Uri where
  scheme := none
  authority := none
  path := "*"
  query := none

/-- A URI that was read is the star, or its parts are legal. -/
theorem eq_star_or_legal_of_ofString {text : String} (h : ofString text = .ok u) :
    (text = "*" ∧ u = star) ∨ (text ≠ "*" ∧ u.Legal) := by
  rw [← String.toList_inj, Ne, ← String.toList_inj]
  unfold ofString at h
  split at h
  · cases h
  unfold ofChars at h
  split at h
  · cases h
  · next lone =>
    cases h
    exact .inl ⟨lone, rfl⟩
  · next slash =>
    rw [slash] at h ⊢
    refine .inr ⟨?_, legal_of_readOriginForm h⟩
    exact fun same => absurd (List.head_eq_of_cons_eq same) (by decide)
  · next notStar _ =>
    refine .inr ⟨notStar, ?_⟩
    split at h
    · next scheme rest split =>
      split at h
      · cases h
      · exact legal_of_readAbsolute (splitScheme?_scheme split) h
    · exact legal_of_readAuthorityForm h

theorem spelt_star : star.Spelt where
  scheme := fun _ hs => absurd hs (Option.not_mem_none _)
  authority := fun _ ha => absurd ha (Option.not_mem_none _)
  path := List.all_eq_true.1 (by decide)
  query := fun _ hq => absurd hq (Option.not_mem_none _)

theorem spelt_of_ofString {text : String} (h : ofString text = .ok u) : u.Spelt := by
  rcases eq_star_or_legal_of_ofString h with ⟨-, rfl⟩ | ⟨-, legal⟩
  · exact spelt_star
  · exact legal.toSpelt

theorem authorityLegal_of_ofString {text : String} (h : ofString text = .ok u) : u.AuthorityLegal :=
  (spelt_of_ofString h).authority

end Uri

end Gateway
