import Gateway.Proofs.Outbound
import Gateway.Proofs.RequestUri

/-!
# What keeps a head from being written

The head of a request to a backend is composed of texts: the host the client asked for, the address of the client, the
target. A text with a control character is no field value. The texts that come from the client have none, since its
header fields and its URI were read before; so the target alone can be at fault (`flaw?_eq`).
-/

namespace Gateway

/-! ## Visible text -/

/-- Characters from the blank to the tilde. -/
def isVisible (c : Char) : Bool := decide (32 ≤ c.toNat) && decide (c.toNat < 127)

/-- A text of visible characters. -/
def Visible (s : String) : Prop := s.toList.all isVisible = true

instance (s : String) : Decidable (Visible s) := inferInstanceAs (Decidable (_ = true))

theorem isVisible_iff {c : Char} : isVisible c = true ↔ 32 ≤ c.toNat ∧ c.toNat < 127 := by
  rw [isVisible, Bool.and_eq_true, decide_eq_true_iff, decide_eq_true_iff]

namespace Visible

variable {s t : String}

theorem ofString?_isSome (h : Visible s) : (HeaderValue.ofString? s).isSome := by
  have visible (c : Char) (hc : c ∈ s.toList) : 32 ≤ c.toNat ∧ c.toNat < 127 :=
    isVisible_iff.1 (List.all_eq_true.1 h c hc)
  have bytes : utf8 s = charBytes s.toList := by
    rw [← utf8_ofList_ascii _ fun c hc => Nat.lt_succ_of_lt (visible c hc).2, String.ofList_toList]
  rw [HeaderValue.ofString?, HeaderValue.ofBytes?_isSome, bytes, charBytes, List.all_map, List.all_eq_true]
  intro c hc
  obtain ⟨low, high⟩ := visible c hc
  have number : (UInt8.ofNat c.toNat).toNat = c.toNat := by
    rw [UInt8.toNat_ofNat']
    exact Nat.mod_eq_of_lt (Nat.lt_trans high (by decide))
  rw [Function.comp_apply, isFieldByte_iff, number]
  exact .inr (.inl ⟨low, Nat.le_of_lt_succ high⟩)

theorem append (hs : Visible s) (ht : Visible t) : Visible (s ++ t) := by
  unfold Visible
  rw [String.toList_append, List.all_append, hs, ht]
  rfl

theorem intercalate {l : List String} (hs : Visible s) (hl : ∀ t ∈ l, Visible t) : Visible (s.intercalate l) := by
  induction l with
  | nil =>
    rw [String.intercalate_nil]
    rfl
  | cons t l ih =>
    obtain ⟨ht, hl⟩ := List.forall_mem_cons.1 hl
    cases l with
    | nil =>
      rw [String.intercalate_singleton]
      exact ht
    | cons u l =>
      rw [String.intercalate_cons_cons]
      exact (ht.append hs).append (ih hl)

end Visible

/-! ## Texts that come from the client -/

theorem isVisible_digitChar (n : Nat) : isVisible (Nat.digitChar n) = true := by
  by_cases small : n < 16
  · have all : ∀ d : Fin 16, isVisible (Nat.digitChar d) = true := by decide
    exact all ⟨n, small⟩
  · have other : Nat.digitChar n = '*' := by simp (disch := omega) only [Nat.digitChar, if_neg]
    rw [other]
    decide

/-- A number is visible in every base. -/
theorem visible_toDigits (base n : Nat) : (Nat.toDigits base n).all isVisible = true := by
  -- over the fuel, whatever digits are there already
  have core (fuel n : Nat) (acc : List Char) (h : acc.all isVisible = true) :
      (Nat.toDigitsCore base fuel n acc).all isVisible = true := by
    induction fuel generalizing n acc with
    | zero => exact h
    | succ fuel ih =>
      have more : (Nat.digitChar (n % base) :: acc).all isVisible = true := by
        rw [List.all_cons, isVisible_digitChar, h]
        rfl
      unfold Nat.toDigitsCore
      dsimp only
      split
      · exact more
      · exact ih _ _ more
  exact core _ _ _ rfl

namespace IpAddress

theorem visible_groupsText (gs : List UInt16) : Visible (groupsText gs) := by
  refine Visible.intercalate (by decide) fun t ht => ?_
  obtain ⟨g, -, rfl⟩ := List.mem_map.1 ht
  unfold Visible
  rw [String.toList_ofList]
  exact visible_toDigits 16 _

/-- An address is shown by digits, dots and colons. -/
theorem visible_text (a : IpAddress) : Visible a.text := by
  cases a with
  | v4 a b c d =>
    refine Visible.intercalate (by decide) fun t ht => ?_
    obtain ⟨o, -, rfl⟩ := List.mem_map.1 ht
    unfold Visible
    rw [show toString o.toNat = Nat.repr o.toNat from rfl, Nat.toList_repr]
    exact visible_toDigits 10 _
  | v6 gs =>
    unfold text
    dsimp only
    split
    · exact visible_groupsText gs
    · exact ((visible_groupsText _).append (by decide)).append (visible_groupsText _)

end IpAddress

namespace Uri

theorem isVisible_of_inAuthority {c : Char} (h : InAuthority c) : isVisible c = true := by
  have between {a b : Char} (ha : 32 ≤ a.toNat) (hb : b.toNat < 127) (low : a ≤ c) (high : c ≤ b) : isVisible c = true :=
    isVisible_iff.2 ⟨Nat.le_trans ha (UInt32.le_iff_toNat_le.1 low), Nat.lt_of_le_of_lt (UInt32.le_iff_toNat_le.1 high) hb⟩
  rcases h with allowed | rfl
  · simp only [isAuthorityChar, isAlphanumeric, isLetter, isDigit, Bool.or_eq_true, Bool.and_eq_true, decide_eq_true_eq]
      at allowed
    rcases allowed with ((⟨low, high⟩ | ⟨low, high⟩) | ⟨low, high⟩) | sign
    · exact between (a := 'A') (b := 'Z') (by decide) (by decide) low high
    · exact between (a := 'a') (b := 'z') (by decide) (by decide) low high
    · exact between (a := '0') (b := '9') (by decide) (by decide) low high
    · have signs : "!$&'()*+,-.:;=@[]_~".toList.all isVisible = true := by decide
      exact List.all_eq_true.1 signs c (List.contains_iff_mem.1 sign)
  · decide

end Uri

/-! ## The host the client asked for -/

/-- Whether a request names a host: by the authority of its URI, or by a first `host` value that says something. -/
def RequestHead.namesHost (r : RequestHead) : Bool :=
  r.uri.authority.any (· ≠ "") || (r.headers.get? .host).any HeaderValue.isReadable

theorem requestedHost?_isSome (c : Context) (r : RequestHead) : (requestedHost? c r).isSome = r.namesHost := by
  rw [requestedHost?_eq, Headers.said?_eq, Headers.readable?, RequestHead.namesHost]
  cases r.uri.authority <;> cases r.headers.get? .host <;> cases c.isHttp2 <;>
    simp [Option.filter, apply_ite Option.isSome, Bool.or_comm]

/-- The host a request names is a field value, however it was named. -/
theorem ofString?_isSome_of_requestedHost? {c : Context} {r : RequestHead} {host : String}
    (legal : r.uri.AuthorityLegal) (h : requestedHost? c r = some host) : (HeaderValue.ofString? host).isSome := by
  -- which of the two counts first depends on the version, but one of them it is
  have named : r.uri.authority.filter (· ≠ "") = some host ∨ r.headers.said? .host = some host := by
    rw [requestedHost?_eq] at h
    simp only [Option.orElse_eq_orElse, Option.orElse_eq_or] at h
    split at h
    · exact (Option.or_eq_some_iff.1 h).imp_right And.right
    · exact (Option.or_eq_some_iff.1 h).symm.imp_left And.right
  rcases named with authority | value
  · have visible : Visible host := List.all_eq_true.2 fun c hc =>
      Uri.isVisible_of_inAuthority (legal host (Option.filter_eq_some_iff.1 authority).1 c hc)
    exact visible.ofString?_isSome
  · rw [Headers.said?_eq] at value
    obtain ⟨v, hv, rfl⟩ := Option.map_eq_some_iff.1 value
    have readable := Headers.isReadable_of_readable? hv
    rw [HeaderValue.ofString?_eq_some_iff.2 (HeaderValue.utf8_string_of_isReadable readable).symm]
    rfl

/-- So the fields that say something of the client can always be set. -/
theorem exists_withForwarding {c : Context} {r : RequestHead} {client : SocketAddress} {host : String}
    (legal : r.uri.AuthorityLegal) (address : c.clientHost = client.clientHost)
    (hosted : requestedHost? c r = some host) :
    ∃ merged, Headers.empty.withForwarding c.tls c.clientHost host r.headers = (merged, .ok ()) := by
  obtain ⟨asked, hasked⟩ := Option.isSome_iff_exists.1 (ofString?_isSome_of_requestedHost? legal hosted)
  obtain ⟨sender, hsender⟩ := Option.isSome_iff_exists.1 client.ip.canonical.visible_text.ofString?_isSome
  rw [← SocketAddress.clientHost, ← address] at hsender
  simp only [Headers.withForwarding, hasked, hsender]
  exact ⟨_, rfl⟩

/-! ## The target -/

/-- Why no request can be addressed to a target under a scheme: its `host` is no field value, or it makes no URI. -/
def Target.flaw? (t : Target) (scheme : String) : Option Cause :=
  if t.hostHeader ≠ "" ∧ (HeaderValue.ofString? t.hostHeader).isNone then some .invalidHeaderValue
  else match t.absoluteUri scheme with
    | .error cause => some cause
    | .ok _ => none

theorem isNone_withHost_iff (h : Headers) (t : Target) :
    (h.withHost t.hostHeader?).isNone ↔ t.hostHeader ≠ "" ∧ (HeaderValue.ofString? t.hostHeader).isNone := by
  unfold Target.hostHeader? Headers.withHost
  by_cases unnamed : t.hostHeader = ""
  · simp [unnamed]
  · simp [unnamed]

/-- Nothing but the target keeps the head of a request from being composed. -/
theorem flaw?_eq {c : Context} {r : RequestHead} {client : SocketAddress} {host : String}
    (legal : r.uri.AuthorityLegal) (address : c.clientHost = client.clientHost) (hosted : requestedHost? c r = some host)
    (target : Target) (scheme : String) :
    target.flaw? scheme = match outboundHead c target host scheme r.headers with
      | .error cause => some cause
      | .ok _ => none := by
  obtain ⟨merged, forwarding⟩ := exists_withForwarding legal address hosted
  have named := isNone_withHost_iff merged target
  unfold outboundHead Target.flaw?
  simp only [forwarding]
  cases hosting : merged.withHost target.hostHeader? with
  | none =>
    rw [hosting] at named
    exact if_pos (named.1 rfl)
  | some headers =>
    rw [hosting] at named
    rw [if_neg (mt named.2 Bool.false_ne_true)]
    cases target.absoluteUri scheme with
    | error cause | ok uri => rfl

theorem absoluteUri_of_outboundHead {c : Context} {target : Target} {host scheme : String} {source headers : Headers}
    {uri : Uri} (h : outboundHead c target host scheme source = .ok (uri, headers)) :
    target.absoluteUri scheme = .ok uri := by
  unfold outboundHead at h
  split at h
  · cases h
  split at h
  · cases h
  split at h
  · cases h
  · next made =>
    cases h
    exact made

end Gateway
