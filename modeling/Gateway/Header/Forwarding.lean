import Gateway.Failure.Cause
import Gateway.Header.EndToEnd

/-!
# Fields the gateway sets on requests it passes on

A request that is passed on carries the host the client asked for, the client's address and the client's scheme, each
exactly once. A text that is no field value stops the composition; what was set before it stays.
-/

namespace Gateway

namespace Headers

/-- The end-to-end merge of `source` into `h` with the three forwarding fields set. Where one of the texts is no field
value, the second part says so, and the map holds what was set before that text. -/
def withForwarding (h : Headers) (tls : Bool) (clientHost requestedHost : String) (source : Headers) :
    Headers × Except Cause Unit :=
  let merged := h.mergeEndToEnd source
  match HeaderValue.ofString? requestedHost with
  | none => (merged, .error .invalidHeaderValue)
  | some host =>
    let hosted := merged.insert .xHost host
    match HeaderValue.ofString? clientHost with
    | none => (hosted, .error .invalidHeaderValue)
    | some client =>
      ((hosted.insert .xForwardedFor client).insert .xForwardedProto (if tls then .https else .http), .ok ())

/-- Makes `host` the only `host` value; without one the field is left to the transport. -/
def withHost (h : Headers) : Option String → Option Headers
  | some host => (HeaderValue.ofString? host).map (h.insert .host)
  | none => some (h.remove .host)

/-- Each forwarding field has one value. -/
theorem withForwarding_spec {h source merged : Headers} {tls : Bool} {client host : String}
    (hw : h.withForwarding tls client host source = (merged, .ok ())) :
    (∃ v, HeaderValue.ofString? host = some v ∧ merged.values .xHost = [v])
      ∧ (∃ v, HeaderValue.ofString? client = some v ∧ merged.values .xForwardedFor = [v])
      ∧ merged.values .xForwardedProto = [if tls then .https else .http] := by
  unfold withForwarding at hw
  dsimp only at hw
  split at hw
  · cases hw
  · rename_i hostValue hh
    split at hw
    · cases hw
    · rename_i clientValue hc
      cases hw
      refine ⟨⟨hostValue, hh, ?_⟩, ⟨clientValue, hc, ?_⟩, ?_⟩
      · rw [values_insert, if_neg (by decide), values_insert, if_neg (by decide), values_insert, if_pos rfl]
      · rw [values_insert, if_neg (by decide), values_insert, if_pos rfl]
      · rw [values_insert, if_pos rfl]

/-- Any other field than the forwarding fields is there as the merge left it. -/
theorem values_withForwarding_of_ne {h source merged : Headers} {tls : Bool} {client host : String} {n : HeaderName}
    (hw : h.withForwarding tls client host source = (merged, .ok ())) (hh : n ≠ .xHost) (hf : n ≠ .xForwardedFor)
    (hp : n ≠ .xForwardedProto) : merged.values n = (h.mergeEndToEnd source).values n := by
  unfold withForwarding at hw
  dsimp only at hw
  split at hw
  · cases hw
  · split at hw
    · cases hw
    · cases hw
      rw [values_insert, if_neg hp, values_insert, if_neg hf, values_insert, if_neg hh]

/-- A wanted `host` is the only value, and without one there is none. -/
theorem withHost_spec {h hosted : Headers} {host : Option String} (hw : h.withHost host = some hosted) :
    (host = none ∧ hosted.values .host = [])
      ∨ ∃ text v, host = some text ∧ HeaderValue.ofString? text = some v ∧ hosted.values .host = [v] := by
  cases host with
  | none =>
    cases hw
    exact .inl ⟨rfl, by rw [values_remove, if_pos rfl]⟩
  | some text =>
    obtain ⟨v, hv, rfl⟩ := Option.map_eq_some_iff.1 hw
    exact .inr ⟨text, v, rfl, hv, by rw [values_insert, if_pos rfl]⟩

theorem values_withHost_of_ne {h hosted : Headers} {host : Option String} {n : HeaderName}
    (hw : h.withHost host = some hosted) (hn : n ≠ .host) : hosted.values n = h.values n := by
  cases host with
  | none =>
    cases hw
    rw [values_remove, if_neg hn]
  | some host =>
    obtain ⟨v, -, rfl⟩ := Option.map_eq_some_iff.1 hw
    rw [values_insert, if_neg hn]

end Headers

end Gateway
