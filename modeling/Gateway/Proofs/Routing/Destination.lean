import Gateway.Proofs.Address
import Gateway.Proofs.RequestUri
import Gateway.Target

/-!
# The destination of a target

The URI of a target is put together as text and read again. Whatever stands behind the authority, be it `@`, a colon or
a second authority, the reader has left the authority at the slash: scheme and authority of the URI are those of the
target, and the rest of the text is its path and query up to the first `#`.

The main theorem is `Target.absoluteUri_destination`.
-/

namespace Gateway

/-! ## Hosts -/

/-- Characters of a host name. -/
def isHostChar (c : Char) : Bool := isAlphanumeric c || c == '.' || c == '-'

/-- The text of an IPv6 address. -/
def IsLiteral (cs : List Char) : Prop := ∃ a, IpAddress.readV6? cs = some (a, [])

/-- A host as a target has it, and as an authority shows it. -/
inductive ShownHost : List Char → List Char → Prop
  | name {cs} (some : cs ≠ []) (chars : ∀ c ∈ cs, isHostChar c = true) : ShownHost cs cs
  | literal {cs} (h : IsLiteral cs) : ShownHost cs ('[' :: cs ++ [']'])
  | bracketed {cs} (h : IsLiteral cs) : ShownHost ('[' :: cs ++ [']']) ('[' :: cs ++ [']'])

/-- Characters of a host that stand for no structure but the colon's. -/
def Unmarked (c : Char) : Prop := isHostChar c = true ∨ c = ':'

theorem unmarked_of_isHostChar {cs : List Char} (h : ∀ c ∈ cs, isHostChar c = true) :
    (∀ c ∈ cs, Unmarked c) ∧ cs.count ':' = 0 :=
  ⟨fun c hc => .inl (h c hc), List.count_eq_zero.2 fun colon => absurd (h _ colon) (by decide)⟩

theorem isHostChar_decimalDigits (n : Nat) : ∀ c ∈ decimalDigits n, isHostChar c = true := by
  intro c hc
  have digit : c.isDigit = true := Nat.isDigit_of_mem_toDigits (by decide) (by decide) hc
  have same : isDigit c = true := digit
  rw [isHostChar, isAlphanumeric, same, Bool.or_true, Bool.true_or, Bool.true_or]

theorem isHostChar_of_hexValue? {c : Char} (h : (IpAddress.hexValue? c).isSome = true) : isHostChar c = true := by
  have alphanumeric : isAlphanumeric c = true := by
    rw [isAlphanumeric, Bool.or_eq_true, isLetter, Bool.or_eq_true, Bool.and_eq_true, Bool.and_eq_true]
    simp only [decide_eq_true_eq]
    unfold IpAddress.hexValue? at h
    split_ifs at h with digit small large
    · exact .inr digit
    · exact .inl (.inr ⟨small.1, Char.le_trans small.2 (by decide : 'f' ≤ 'z')⟩)
    · exact .inl (.inl ⟨large.1, Char.le_trans large.2 (by decide : 'F' ≤ 'Z')⟩)
    · cases h
  rw [isHostChar, alphanumeric, Bool.true_or, Bool.true_or]

theorem IsLiteral.unmarked {cs : List Char} (h : IsLiteral cs) :
    (∀ c ∈ cs, Unmarked c) ∧ 0 < cs.count ':' ∧ cs.count ':' ≤ 8 := by
  obtain ⟨a, read⟩ := h
  obtain ⟨front, colons, taken, some, bound⟩ := IpAddress.front_of_readV6? read
  obtain rfl : cs = front := taken.split.trans (List.append_nil _)
  refine ⟨fun c hc => ?_, taken.count ▸ some, taken.count ▸ bound⟩
  rcases taken.chars c hc with hex | rfl | rfl
  · exact .inl (isHostChar_of_hexValue? hex)
  · exact .inl (by decide)
  · exact .inr rfl

namespace Uri

variable {cs : List Char} {n : Nat} {opened closed percent : Bool}

/-! ## Reading an authority -/

theorem endsAuthority_of_unmarked {c : Char} (h : Unmarked c) : endsAuthority c = false := by
  rcases h with host | rfl
  · simp only [endsAuthority, Bool.or_eq_false_iff, beq_eq_false_iff_ne]
    exact ⟨⟨ne_of_class host (by decide), ne_of_class host (by decide)⟩, ne_of_class host (by decide)⟩
  · rfl

theorem next_hostChar {c : Char} {s : AuthorityScan} (h : isHostChar c = true) :
    s.next c = .ok { s with atEnd := false } := by
  have other {d : Char} (hd : isHostChar d = false) : c ≠ d := ne_of_class h hd
  have allowed : isAuthorityChar c = true := by
    simp only [isHostChar, Bool.or_eq_true, beq_iff_eq] at h
    rw [isAuthorityChar, Bool.or_eq_true]
    rcases h with (letter | rfl) | rfl
    · exact .inl letter
    · exact .inr (by decide)
    · exact .inr (by decide)
  rw [AuthorityScan.next, if_neg (other (by decide)), if_neg (other (by decide)), if_neg (other (by decide)),
    if_neg (other (by decide)), if_neg (other (by decide)), if_pos allowed]

/-- Of unmarked characters a scan counts the colons, up to eight. -/
theorem foldlM_next_unmarked (h : ∀ c ∈ cs, Unmarked c) (room : n + cs.count ':' ≤ 8) :
    cs.foldlM AuthorityScan.next ⟨n, opened, closed, percent, false⟩
      = .ok ⟨n + cs.count ':', opened, closed, percent, false⟩ := by
  induction cs generalizing n with
  | nil => rfl
  | cons c cs ih =>
    rw [List.foldlM_cons]
    have behind := fun d hd => h d (List.mem_cons_of_mem _ hd)
    rcases h c List.mem_cons_self with host | rfl
    · rw [List.count_cons_of_ne (ne_of_class host (by decide))] at room ⊢
      rw [next_hostChar host]
      exact ih behind room
    · rw [List.count_cons_self] at room ⊢
      rw [AuthorityScan.next, if_pos rfl, if_neg (by show ¬ 8 ≤ n; omega)]
      show cs.foldlM AuthorityScan.next ⟨n + 1, opened, closed, percent, false⟩ = _
      rw [ih behind (by omega), Nat.add_right_comm, Nat.add_assoc]

/-- The service number behind a host whose colons no longer count. -/
theorem foldlM_next_service (number : Nat) :
    (':' :: decimalDigits number).foldlM AuthorityScan.next ⟨0, opened, closed, percent, false⟩
      = .ok ⟨1, opened, closed, percent, false⟩ := by
  obtain ⟨unmarked, none⟩ := unmarked_of_isHostChar (isHostChar_decimalDigits number)
  have count : (':' :: decimalDigits number).count ':' = 1 := by rw [List.count_cons_self, none]
  rw [foldlM_next_unmarked (List.forall_mem_cons.2 ⟨.inr rfl, unmarked⟩) (by omega), count]

/-- The authority of a host is passed in one go, and may end behind the service number. -/
theorem readAuthority_host {host shown rest : List Char} (h : ShownHost host shown) (number : Nat) :
    readAuthority .start ((shown ++ ':' :: decimalDigits number) ++ '/' :: rest)
      = .ok (shown ++ ':' :: decimalDigits number, '/' :: rest) := by
  have service : ∀ c ∈ ':' :: decimalDigits number, endsAuthority c = false := by
    refine List.forall_mem_cons.2 ⟨by decide, fun c hc => ?_⟩
    exact endsAuthority_of_unmarked (.inl (isHostChar_decimalDigits number c hc))
  have bracketed {cs : List Char} (literal : IsLiteral cs) :
      readAuthority .start (('[' :: cs ++ [']'] ++ ':' :: decimalDigits number) ++ '/' :: rest)
        = .ok ('[' :: cs ++ [']'] ++ ':' :: decimalDigits number, '/' :: rest) := by
    obtain ⟨unmarked, -, bound⟩ := literal.unmarked
    refine readAuthority_append ?_ ?_ (show AuthorityScan.accepts ⟨1, true, true, false, false⟩ = true by decide)
    · have inside : ∀ c ∈ '[' :: cs, endsAuthority c = false :=
        List.forall_mem_cons.2 ⟨by decide, fun c hc => endsAuthority_of_unmarked (unmarked c hc)⟩
      have closing : ∀ c ∈ [']'], endsAuthority c = false := List.forall_mem_singleton.2 (by decide)
      exact List.forall_mem_append.2 ⟨List.forall_mem_append.2 ⟨inside, closing⟩, service⟩
    · -- the closing bracket sets the count of colons back
      rw [List.foldlM_append, List.foldlM_append, List.foldlM_cons]
      show ((cs.foldlM AuthorityScan.next ⟨0, true, false, false, false⟩ >>= _) >>= _) = _
      rw [foldlM_next_unmarked unmarked (by omega)]
      exact foldlM_next_service number
  cases h with
  | name some chars =>
    obtain ⟨unmarked, none⟩ := unmarked_of_isHostChar chars
    refine readAuthority_append ?_ ?_ (show AuthorityScan.accepts ⟨1, false, false, false, false⟩ = true by decide)
    · exact List.forall_mem_append.2 ⟨fun c hc => endsAuthority_of_unmarked (unmarked c hc), service⟩
    · rw [List.foldlM_append, AuthorityScan.start, foldlM_next_unmarked unmarked (by omega), none]
      exact foldlM_next_service number
  | literal h => exact bracketed h
  | bracketed h => exact bracketed h

/-! ## Reading an absolute URI -/

/-- A text with a scheme in front of `://` is read as an absolute URI. -/
theorem ofChars_of_scheme (scheme rest : List Char) (some : scheme ≠ [])
    (chars : ∀ c ∈ scheme, isSchemeChar c = true) (short : scheme.length ≤ 64) :
    ofChars (scheme ++ ':' :: '/' :: '/' :: rest) = readAbsolute (normalScheme scheme) rest := by
  have split : splitScheme? (scheme ++ ':' :: '/' :: '/' :: rest) = .some (scheme, rest) := by
    have long : ¬ (scheme ++ ':' :: '/' :: '/' :: rest).length ≤ 3 := by
      have := List.length_pos_iff.2 some
      simp only [List.length_append, List.length_cons]
      omega
    rw [splitScheme?, if_neg long, List.takeWhile_append_of_pos chars, List.takeWhile_cons_of_neg (by decide),
      List.append_nil]
    dsimp only
    rw [List.drop_left]
    rfl
  obtain ⟨c, cs, rfl⟩ := List.exists_cons_of_ne_nil some
  have first : c ≠ '/' := ne_of_class (chars c List.mem_cons_self) (by decide)
  rw [ofChars, split]
  · exact if_neg (Nat.not_lt.2 short)
  · simp
  · simp
  · simp [first]

/-- The schemes that backends are asked under. -/
def IsBackendScheme (scheme : String) : Prop := scheme = "http" ∨ scheme = "ws"

theorem ofChars_of_backendScheme {scheme : String} (known : IsBackendScheme scheme) (rest : List Char) :
    ofChars (scheme.toList ++ "://".toList ++ rest) = readAbsolute scheme.toList rest := by
  rw [List.append_assoc]
  rcases known with rfl | rfl
  · exact ofChars_of_scheme "http".toList rest (by decide) (List.all_eq_true.1 (by decide)) (by decide)
  · exact ofChars_of_scheme "ws".toList rest (by decide) (List.all_eq_true.1 (by decide)) (by decide)

theorem readAbsolute_eq {scheme authority rest : List Char} (some : authority ≠ [])
    (read : readAuthority .start (authority ++ rest) = .ok (authority, rest)) :
    readAbsolute scheme (authority ++ rest)
      = if partsAllowed (cutAt '?' (cutAt '#' rest).1) then .ok {
          scheme := String.ofList scheme
          authority := String.ofList authority
          path := String.ofList (cutAt '?' (cutAt '#' rest).1).1
          query := (cutAt '?' (cutAt '#' rest).1).2.map String.ofList }
        else .error .character := by
  rw [readAbsolute, if_neg (by simp [some]), read]
  dsimp only
  rw [if_neg (by simp [some]), readPathAndQuery_eq]
  by_cases legal : partsAllowed (cutAt '?' (cutAt '#' rest).1) = true
  · rw [if_pos legal, if_pos legal]
  · rw [if_neg legal, if_neg legal]

theorem pathAndQuery_of_parts {u : Uri} {text : List Char} (absolute : u.scheme.isSome = true) (some : text ≠ [])
    (path : u.path = String.ofList (cutAt '?' text).1) (query : u.query = (cutAt '?' text).2.map String.ofList) :
    u.pathAndQuery = String.ofList text := by
  unfold pathAndQuery
  extract_lets raw
  have whole : raw = String.ofList text := by
    unfold raw
    rw [path, query, ← congrArg String.ofList (cutAt_joined '?' text), String.ofList_append]
    cases (cutAt '?' text).2 with
    | none => rfl
    | some after => exact congrArg _ (String.toList_inj.1 (by simp))
  rw [whole, if_neg]
  rw [isAuthorityForm, Option.isNone_eq_false_iff.2 absolute, Bool.false_and, Bool.false_or, decide_eq_true_iff]
  rw [← String.toList_inj, String.toList_ofList]
  exact some

end Uri

namespace Target

variable {t : Target} {scheme : String} {shown : List Char}

/-! ## The URI of a target -/

/-- Text with a slash in front. -/
def slashed : List Char → List Char
  | '/' :: cs => '/' :: cs
  | cs => '/' :: cs

/-- The path and query a target asks for: its text up to the first `#`, with a slash in front. -/
def asked (uri : String) : List Char := slashed (cutAt '#' uri.toList).1

/-- A URI that leads to the destination of a target and asks there for a text. -/
structure LeadsTo (t : Target) (scheme uri : String) (u : Uri) : Prop where
  scheme : u.scheme = some scheme
  authority : u.authority = some t.authority
  asked : u.pathAndQuery = String.ofList (asked uri)

theorem authorityChars_eq (host : ShownHost t.host.toList shown) :
    t.authorityChars = shown ++ ':' :: decimalDigits t.service.toNat := by
  unfold authorityChars
  generalize t.host.toList = host' at host
  cases host with
  | name some chars =>
    have plain : shown.contains ':' = false := by
      rw [List.contains_eq_mem, decide_eq_false_iff_not]
      exact List.count_eq_zero.1 (unmarked_of_isHostChar chars).2
    simp only [plain, Bool.false_and, Bool.false_eq_true, if_false]
  | literal h =>
    obtain ⟨unmarked, some, -⟩ := h.unmarked
    have colon : host'.contains ':' = true := by
      rw [List.contains_eq_mem, decide_eq_true_iff]
      exact List.count_pos_iff.1 some
    have first : (host'.head? != .some '[') = true := by
      rw [bne_iff_ne]
      intro bracket
      rcases unmarked '[' (List.mem_of_mem_head? bracket) with host | colon
      · exact absurd host (by decide)
      · exact absurd colon (by decide)
    simp only [colon, first, Bool.and_self, if_true]
  | bracketed h => simp

theorem slashed_of_head_ne {cs : List Char} (h : cs.head? ≠ some '/') : slashed cs = '/' :: cs := by
  unfold slashed
  split
  · exact absurd rfl h
  · rfl

theorem slashed_eq_cons (cs : List Char) : ∃ rest, slashed cs = '/' :: rest := by
  unfold slashed
  split
  · exact ⟨_, rfl⟩
  · exact ⟨_, rfl⟩

theorem cutAt_slashed (cs : List Char) : (cutAt '#' (slashed cs)).1 = slashed (cutAt '#' cs).1 := by
  have cut (cs : List Char) : (cutAt '#' ('/' :: cs)).1 = '/' :: (cutAt '#' cs).1 := by
    rw [cutAt, if_neg (by decide)]
  by_cases slash : cs.head? = some '/'
  · obtain ⟨rest, rfl⟩ := List.head?_eq_some_iff.1 slash
    show (cutAt '#' ('/' :: rest)).1 = _
    rw [cut]
    rfl
  · rw [slashed_of_head_ne slash, cut, slashed_of_head_ne]
    intro first
    refine slash ?_
    rw [← cutAt_joined '#' cs, List.head?_append, first]
    rfl

theorem cutAt_absolutePath (t : Target) : (cutAt '#' t.absolutePath).1 = asked t.uri := cutAt_slashed t.uri.toList

/-- The text that is read as the URI of a target. -/
def fullText (t : Target) (scheme : String) : String :=
  String.ofList (scheme.toList ++ "://".toList ++ t.authorityChars ++ t.absolutePath)

/-- The URI of a target, part by part. -/
theorem absoluteUri_eq (known : Uri.IsBackendScheme scheme) (host : ShownHost t.host.toList shown) :
    t.absoluteUri scheme
      = if 65534 < (t.fullText scheme).utf8ByteSize then
          .error (.invalidTarget (t.authority ++ ": " ++ Uri.Flaw.tooLong.message))
        else if Uri.partsAllowed (cutAt '?' (asked t.uri)) then .ok {
          scheme := scheme
          authority := t.authority
          path := String.ofList (cutAt '?' (asked t.uri)).1
          query := (cutAt '?' (asked t.uri)).2.map String.ofList }
        else .error (.invalidTarget (t.authority ++ ": " ++ Uri.Flaw.character.message)) := by
  obtain ⟨rest, path⟩ := slashed_eq_cons t.uri.toList
  have slash : t.absolutePath = '/' :: rest := path
  have read : Uri.readAuthority .start (t.authorityChars ++ t.absolutePath)
      = .ok (t.authorityChars, t.absolutePath) := by
    rw [authorityChars_eq host, slash]
    exact Uri.readAuthority_host host t.service.toNat
  have some : t.authorityChars ≠ [] := by
    rw [authorityChars_eq host]
    exact List.append_ne_nil_of_right_ne_nil _ (List.cons_ne_nil _ _)
  have whole := Uri.ofChars_of_backendScheme known (t.authorityChars ++ t.absolutePath)
  rw [Uri.readAbsolute_eq some read, cutAt_absolutePath, String.ofList_toList, ← List.append_assoc] at whole
  have parts : Uri.ofString (t.fullText scheme)
      = if 65534 < (t.fullText scheme).utf8ByteSize then .error .tooLong else _ :=
    congrArg (ite _ _) ((congrArg Uri.ofChars String.toList_ofList).trans whole)
  unfold absoluteUri
  extract_lets text
  rw [show text = t.fullText scheme from rfl, parts]
  split_ifs <;> rfl

theorem absoluteUri_leadsTo {u : Uri} (known : Uri.IsBackendScheme scheme) (host : ShownHost t.host.toList shown)
    (h : t.absoluteUri scheme = .ok u) : t.LeadsTo scheme t.uri u := by
  rw [absoluteUri_eq known host] at h
  split_ifs at h
  cases h
  refine ⟨rfl, rfl, Uri.pathAndQuery_of_parts rfl ?_ rfl rfl⟩
  obtain ⟨rest, slash⟩ := slashed_eq_cons (cutAt '#' t.uri.toList).1
  rw [asked, slash]
  exact List.cons_ne_nil _ _

/-- Whatever text a target asks for, also one that a client added to it, it is asked for at the destination of the
target, and a text that makes no URI is reported under the name of that destination. -/
theorem absoluteUri_destination (known : Uri.IsBackendScheme scheme) (host : ShownHost t.host.toList shown) :
    t.authority = String.ofList (shown ++ ':' :: decimalDigits t.service.toNat)
    ∧ (∀ u, t.absoluteUri scheme = .ok u → t.LeadsTo scheme t.uri u)
    ∧ (∀ suffix u, (t.withSuffix suffix).absoluteUri scheme = .ok u → t.LeadsTo scheme (t.uri ++ suffix) u)
    ∧ (∀ cause, t.absoluteUri scheme = .error cause →
        ∃ flaw : Uri.Flaw, cause = .invalidTarget (t.authority ++ ": " ++ flaw.message))
    ∧ ((∃ u, t.absoluteUri scheme = .ok u)
        ↔ (t.fullText scheme).utf8ByteSize ≤ 65534 ∧ Uri.partsAllowed (cutAt '?' (asked t.uri)) = true) := by
  refine ⟨congrArg String.ofList (authorityChars_eq host), fun u => absoluteUri_leadsTo known host,
    fun suffix u made => ?_, fun cause failed => ?_, ?_⟩
  · obtain ⟨scheme, authority, asked⟩ := absoluteUri_leadsTo known (t := t.withSuffix suffix) host made
    exact ⟨scheme, authority, asked⟩
  · rw [absoluteUri_eq known host] at failed
    split_ifs at failed
    · cases failed
      exact ⟨_, rfl⟩
    · cases failed
      exact ⟨_, rfl⟩
  · rw [absoluteUri_eq known host, ← Nat.not_lt]
    split_ifs with long legal
    · simp [long]
    · simp [long, legal]
    · simp [legal]

/-- A client adds userinfo, a service number, a second authority and a fragment, and still asks the target. -/
theorem absoluteUri_destination_of_userinfo :
    let t : Target := { host := "::1", service := 3000, uri := "/api", hostHeader := "" }
    let suffix := "@evil:80//evil/?u=http://evil#/é"
    Uri.IsBackendScheme "ws" ∧ ShownHost t.host.toList "[::1]".toList
    ∧ ∃ u, (t.withSuffix suffix).absoluteUri "ws" = .ok u ∧ u.authority = some "[::1]:3000"
      ∧ u.pathAndQuery = "/api@evil:80//evil/?u=http://evil" := by
  intro t suffix
  have known : Uri.IsBackendScheme "ws" := .inr rfl
  have host : ShownHost t.host.toList "[::1]".toList :=
    .literal (show IsLiteral "::1".toList from ⟨_, rfl⟩)
  obtain ⟨u, made⟩ := (absoluteUri_destination (t := t.withSuffix suffix) known host).2.2.2.2.2 ⟨by decide, by decide⟩
  obtain ⟨shown, -, suffixed, -⟩ := absoluteUri_destination (t := t) known host
  obtain ⟨-, authority, asked⟩ := suffixed suffix u made
  refine ⟨known, host, u, made, authority.trans (congrArg some (shown.trans (by decide))), asked.trans (by decide)⟩

end Target

end Gateway
