import Gateway.Header.Forwarding

/-!
# How far the forwarding fields get

Host, client and scheme are set one after another on the merge of two maps, and a text that is no field value stops the
gateway there. So there are three maps it can leave behind: the merge itself, the merge with the host, and the merge with
all three fields. A field that is set has one value, whatever either map said of its name.

The main theorem is `Headers.withForwarding_outcome`.
-/

namespace Gateway

/-- The bytes of a text may stand in a field value: tab, 32 to 126, 128 to 255. -/
def Writable (s : String) : Prop := ∀ b ∈ utf8 s, b.toNat = 9 ∨ (32 ≤ b.toNat ∧ b.toNat ≤ 126) ∨ 128 ≤ b.toNat

theorem writable_iff {s : String} : Writable s ↔ (HeaderValue.ofString? s).isSome = true := by
  rw [HeaderValue.ofString?, HeaderValue.ofBytes?_isSome, List.all_eq_true]
  exact forall₂_congr fun _ _ => isFieldByte_iff.symm

theorem not_writable_iff {s : String} : ¬ Writable s ↔ HeaderValue.ofString? s = none := by
  rw [writable_iff, Bool.not_eq_true, Option.isSome_eq_false_iff, Option.isNone_iff_eq_none]

namespace Headers

variable {before after source : Headers} {given : List (HeaderName × Bytes)} {tls : Bool} {client requested : String}

/-! ## Fields that are set -/

/-- Each of some names has these bytes as its one value, and all other names have the values they had. -/
structure Assigned (before after : Headers) (given : List (HeaderName × Bytes)) : Prop where
  set : ∀ n bytes, (n, bytes) ∈ given → ∃ v, after.values n = [v] ∧ v.bytes = bytes
  kept : ∀ n, n ∉ given.map Prod.fst → after.values n = before.values n

theorem assigned_nil (h : Headers) : Assigned h h [] where
  set := fun _ _ none => absurd none List.not_mem_nil
  kept := fun _ _ => rfl

/-- One more name is set, which was not before. -/
theorem Assigned.insert {n : HeaderName} {v : HeaderValue} (h : Assigned before after given)
    (unset : n ∉ given.map Prod.fst) : Assigned before (after.insert n v) ((n, v.bytes) :: given) where
  set := by
    intro m bytes mem
    rcases List.mem_cons.1 mem with same | earlier
    · cases same
      exact ⟨v, by rw [values_insert, if_pos rfl], rfl⟩
    · have other : m ≠ n := fun same => unset (same ▸ List.mem_map_of_mem earlier)
      rw [values_insert, if_neg other]
      exact h.set m bytes earlier
  kept := by
    intro m none
    rw [List.map_cons, List.mem_cons, not_or] at none
    rw [values_insert, if_neg none.1, h.kept m none.2]

/-- What was set is the same on top of any other map. -/
theorem Assigned.values_eq {before' after' : Headers} {n : HeaderName} {bytes : Bytes} (h : Assigned before after given)
    (h' : Assigned before' after' given) (mem : (n, bytes) ∈ given) : after'.values n = after.values n := by
  obtain ⟨v, hv, same⟩ := h.set n bytes mem
  obtain ⟨v', hv', same'⟩ := h'.set n bytes mem
  obtain rfl : v' = v := Option.some.inj
    ((HeaderValue.ofBytes?_eq_some_iff.2 same').symm.trans (HeaderValue.ofBytes?_eq_some_iff.2 same))
  rw [hv, hv']

/-! ## Three ways to end -/

/-- The field that says which host the client asked for. -/
def hostField (requested : String) : List (HeaderName × Bytes) := [(.xHost, utf8 requested)]

/-- The fields that say where a request comes from. -/
def forwardingFields (tls : Bool) (client requested : String) : List (HeaderName × Bytes) :=
  (.xForwardedProto, utf8 (if tls then "https" else "http")) :: (.xForwardedFor, utf8 client) :: hostField requested

theorem bytes_scheme (tls : Bool) :
    (if tls then HeaderValue.https else HeaderValue.http).bytes = utf8 (if tls then "https" else "http") := by
  cases tls <;> decide

/-- Nothing is set where the host is no field value. -/
theorem withForwarding_of_host (h source : Headers) (tls : Bool) (client : String) (bad : ¬ Writable requested) :
    h.withForwarding tls client requested source = (h.mergeEndToEnd source, .error .invalidHeaderValue) := by
  rw [withForwarding, not_writable_iff.1 bad]

/-- The host alone is set where the client is no field value. -/
theorem withForwarding_of_client (h source : Headers) (tls : Bool) (good : Writable requested) (bad : ¬ Writable client) :
    ∃ after, h.withForwarding tls client requested source = (after, .error .invalidHeaderValue)
      ∧ Assigned (h.mergeEndToEnd source) after (hostField requested) := by
  obtain ⟨host, hhost⟩ := Option.isSome_iff_exists.1 (writable_iff.1 good)
  refine ⟨(h.mergeEndToEnd source).insert .xHost host, ?_, ?_⟩
  · rw [withForwarding, hhost]
    dsimp only
    rw [not_writable_iff.1 bad]
  · rw [hostField, ← HeaderValue.ofString?_eq_some_iff.1 hhost]
    exact (assigned_nil _).insert List.not_mem_nil

/-- All three fields are set where both texts are field values. -/
theorem withForwarding_of_writable (h source : Headers) (tls : Bool) (good : Writable requested)
    (fair : Writable client) : ∃ after, h.withForwarding tls client requested source = (after, .ok ())
      ∧ Assigned (h.mergeEndToEnd source) after (forwardingFields tls client requested) := by
  obtain ⟨host, hhost⟩ := Option.isSome_iff_exists.1 (writable_iff.1 good)
  obtain ⟨sender, hsender⟩ := Option.isSome_iff_exists.1 (writable_iff.1 fair)
  refine ⟨(((h.mergeEndToEnd source).insert .xHost host).insert .xForwardedFor sender).insert .xForwardedProto
    (if tls then .https else .http), ?_, ?_⟩
  · rw [withForwarding, hhost]
    dsimp only
    rw [hsender]
  · rw [forwardingFields, hostField, ← HeaderValue.ofString?_eq_some_iff.1 hhost,
      ← HeaderValue.ofString?_eq_some_iff.1 hsender, ← bytes_scheme]
    have hosted : Assigned (h.mergeEndToEnd source) _ [(.xHost, host.bytes)] := (assigned_nil _).insert List.not_mem_nil
    have addressed := hosted.insert (n := .xForwardedFor) (v := sender) (by simp only [List.map_cons, List.map_nil]; decide)
    exact addressed.insert (by simp only [List.map_cons, List.map_nil]; decide)

/-! ## The outcome -/

/-- Both texts have to be field values; the first that is not is why nothing more is set. What is set, and whether all is,
depends on the texts and the scheme alone: on top of any other maps it would be the same. -/
theorem withForwarding_outcome (h source : Headers) (tls : Bool) (client requested : String) :
    ∃ after result, h.withForwarding tls client requested source = (after, result)
      ∧ (result = .ok () ↔ Writable requested ∧ Writable client)
      ∧ (result = .ok () → Assigned (h.mergeEndToEnd source) after (forwardingFields tls client requested))
      ∧ (¬ Writable requested → result = .error .invalidHeaderValue ∧ after = h.mergeEndToEnd source)
      ∧ (Writable requested → ¬ Writable client → result = .error .invalidHeaderValue
          ∧ Assigned (h.mergeEndToEnd source) after (hostField requested))
      ∧ ∀ h' source' : Headers, ∃ after', h'.withForwarding tls client requested source' = (after', result)
        ∧ (Writable requested → after'.values .xHost = after.values .xHost)
        ∧ (Writable requested → Writable client → after'.values .xForwardedFor = after.values .xForwardedFor
            ∧ after'.values .xForwardedProto = after.values .xForwardedProto) := by
  by_cases good : Writable requested
  · by_cases fair : Writable client
    · obtain ⟨after, outcome, assigned⟩ := withForwarding_of_writable h source tls good fair
      refine ⟨after, .ok (), outcome, iff_of_true rfl ⟨good, fair⟩, fun _ => assigned, absurd good,
        fun _ => absurd fair, fun h' source' => ?_⟩
      obtain ⟨after', outcome', assigned'⟩ := withForwarding_of_writable h' source' tls good fair
      refine ⟨after', outcome', fun _ => ?_, fun _ _ => ⟨?_, ?_⟩⟩
      · exact assigned.values_eq assigned' (.tail _ (.tail _ (.head _)))
      · exact assigned.values_eq assigned' (.tail _ (.head _))
      · exact assigned.values_eq assigned' (.head _)
    · obtain ⟨after, outcome, assigned⟩ := withForwarding_of_client h source tls good fair
      refine ⟨after, .error .invalidHeaderValue, outcome, iff_of_false (by simp) (fun both => fair both.2), by simp,
        absurd good, fun _ _ => ⟨rfl, assigned⟩, fun h' source' => ?_⟩
      obtain ⟨after', outcome', assigned'⟩ := withForwarding_of_client h' source' tls good fair
      exact ⟨after', outcome', fun _ => assigned.values_eq assigned' (.head _), fun _ also => absurd also fair⟩
  · refine ⟨h.mergeEndToEnd source, .error .invalidHeaderValue, withForwarding_of_host h source tls client good,
      iff_of_false (by simp) (fun both => good both.1), by simp, fun _ => ⟨rfl, rfl⟩, fun also => absurd also good,
      fun h' source' => ?_⟩
    exact ⟨_, withForwarding_of_host h' source' tls client good, fun also => absurd also good,
      fun also => absurd also good⟩

end Headers

end Gateway
