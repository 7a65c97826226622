import Gateway.Proofs.Outbound

/-!
# The request id on its way to the backend

A request gets its id when it arrives: the one the client sent, or the next number. The id is put among the fields of the
request itself, and these are filtered before they are sent on. So the id reaches the backend as long as the request
does not list `x-request-id` as an option of its connection, and is dropped otherwise, also where the gateway chose it.

The main theorem is `Run.sends_id`.
-/

namespace Gateway

theorem utf8_toString (n : Nat) : utf8 (toString n) = (HeaderValue.ofNat n).bytes := by
  have ascii : ∀ c ∈ Nat.toDigits 10 n, c.toNat < 128 := by
    intro c hc
    have digit : c.isDigit = true := Nat.isDigit_of_mem_toDigits (by decide) (by decide) hc
    have below : c.val ≤ 57 := of_decide_eq_true (Bool.and_eq_true_iff.1 digit).2
    exact Nat.lt_of_le_of_lt (UInt32.le_iff_toNat_le.1 below) (by decide)
  exact utf8_ofList_ascii _ ascii

namespace RequestIds

/-- The id of a request with these fields: the first it came with if that says something, otherwise the next number. -/
def idFor (ids : RequestIds) (h : Headers) : HeaderValue := (h.readable? .xRequestId).getD (.ofNat ids.upcoming.toNat)

/-- The id that is remembered and the one among the fields of the request are the same. -/
theorem assign_spec (ids : RequestIds) (h : Headers) :
    utf8 (ids.assign h).1 = (ids.idFor h).bytes ∧ (ids.assign h).2.1.get? .xRequestId = some (ids.idFor h) := by
  unfold assign idFor
  rw [Headers.givenId?_eq, Headers.said?_eq]
  cases hv : h.readable? .xRequestId with
  | none =>
    refine ⟨utf8_toString _, ?_⟩
    show Headers.get? (h.insert .xRequestId _) _ = _
    rw [Headers.get?_eq, Headers.values_insert, if_pos rfl]
    rfl
  | some v =>
    obtain ⟨first, readable⟩ := Option.filter_eq_some_iff.1 hv
    exact ⟨HeaderValue.utf8_string_of_isReadable readable, first⟩

end RequestIds

namespace Exchange

variable {x start : Exchange} {request : RequestHead} {tls : Bool} {client : SocketAddress} {es : List Event}
  {o : Observation} {sent : Headers}

/-- Behind a resolver that leaves the id alone: a backend gets the id that was fixed when the request arrived as its
first `x-request-id`, exactly if the request does not list that name as an option of its connection; if it does, the
backend gets none. -/
theorem Run.sends_id (begins : start.Begins request tls client) (run : Run start es x)
    (leaves : ∀ head, (start.resolver head tls).head.headers.values .xRequestId = head.headers.values .xRequestId)
    (observed : o ∈ x.log) (outbound : o.outbound? = some sent) :
    ∃ ids resolved target, .arrived ids ∈ es
      ∧ start.resolver { request with headers := (ids.assign request.headers).2.1 } tls = ⟨resolved, .ok (.forward target)⟩
      ∧ utf8 (start.arrive ids).1.context.requestId = (ids.idFor request.headers).bytes
      ∧ (sent.get? .xRequestId = some (ids.idFor request.headers) ↔ ¬ resolved.headers.Lists HeaderName.xRequestId.chars)
      ∧ (resolved.headers.Lists HeaderName.xRequestId.chars → sent.values .xRequestId = []) := by
  obtain ⟨ids, resolved, target, host, scheme, uri, composed, arrived, answer, -, composes, values⟩ :=
    run.composes begins observed outbound
  obtain ⟨fixed, first⟩ := ids.assign_spec request.headers
  have kept : resolved.headers.values .xRequestId = (ids.assign request.headers).2.1.values .xRequestId := by
    have same := leaves { request with headers := (ids.assign request.headers).2.1 }
    rwa [answer] at same
  -- the gateway sets no id on what it sends: what passes the filter is all there is
  have filtered : sent.values .xRequestId
      = if resolved.headers.isEndToEnd .xRequestId then resolved.headers.values .xRequestId else [] := by
    rw [values _ (by decide),
      values_outboundHead_of_ne composes (by decide) (by decide) (by decide) (by decide)]
  refine ⟨ids, resolved, target, arrived, answer, by rw [begins.context_arrive, fixed], ?_⟩
  by_cases listed : resolved.headers.Lists HeaderName.xRequestId.chars
  · have dropped : ¬ resolved.headers.isEndToEnd .xRequestId = true := by
      rw [Headers.isEndToEnd_iff]
      exact fun passes => passes.2 listed
    rw [if_neg dropped] at filtered
    refine ⟨iff_of_false (fun there => ?_) (not_not_intro listed), fun _ => filtered⟩
    rw [Headers.get?_eq, filtered] at there
    cases there
  · have passes : resolved.headers.isEndToEnd .xRequestId = true :=
      (Headers.isEndToEnd_iff _ _).2 ⟨by decide, listed⟩
    rw [if_pos passes, kept] at filtered
    refine ⟨iff_of_true ?_ listed, fun h => absurd h listed⟩
    rw [Headers.get?_eq, filtered, ← Headers.get?_eq, first]

/-- A request of a client, as it goes to the resolver and on to the backend at once. -/
def asking (fields : List (HeaderName × HeaderValue)) : Exchange :=
  towards (.forward ⟨"backend", 80, "/", ""⟩) ⟨(.host, .zero) :: fields⟩ (.buffered [])

def asked : List Event := [.arrived ⟨7⟩, .resolverAllowed, .handlerStepped 0]

/-- The number it was given reaches the backend. -/
theorem sends_id_seven : ∃ x o sent, (asking []).Begins (asking []).head false ⟨.v4 127 0 0 1, 40000⟩
    ∧ Run (asking []) asked x ∧ o ∈ x.log ∧ o.outbound? = some sent ∧ sent.get? .xRequestId = some (.ofNat 7) := by
  have reached : (asked.foldlM perform (asking [])).any (fun x => x.outbounds.any fun _ => true) = true := by
    decide +kernel
  obtain ⟨x, o, sent, run, observed, outbound, -⟩ := run_of_outbounds reached
  have begins : (asking []).Begins (asking []).head false ⟨.v4 127 0 0 1, 40000⟩ := ⟨fresh_towards _ _ _, rfl, rfl⟩
  obtain ⟨ids, resolved, target, arrived, answer, -, sends, -⟩ :=
    Run.sends_id begins run (fun _ => rfl) observed outbound
  obtain rfl : ids = ⟨7⟩ := by simpa [asked] using arrived
  refine ⟨x, o, sent, begins, run, observed, outbound, sends.2 ?_⟩
  rintro ⟨v, hv, -⟩
  injection answer with same
  have unlisted : (asking []).head.headers.values .connection = [] := by decide +kernel
  rw [← same, RequestIds.values_assign_of_ne _ _ (by decide), unlisted] at hv
  cases hv

/-- A client that lists the name keeps the id from the backend. -/
theorem not_sent_of_listed : ∃ start es x o sent, start.Fresh ∧ Run start es x ∧ o ∈ x.log ∧ o.outbound? = some sent
    ∧ (∀ head tls, (start.resolver head tls).head = head) ∧ x.context.requestId = "7"
    ∧ sent.values .xRequestId = [] := by
  let start := asking [(.connection, ⟨charBytes "x-request-id".toList, by decide⟩)]
  have reached : (asked.foldlM perform start).any (fun x => x.context.requestId = "7"
      ∧ x.outbounds.any fun sent => (sent.values .xRequestId).isEmpty) = true := by decide +kernel
  obtain ⟨x, hx, h⟩ := (Option.any_eq_true _ _).1 reached
  obtain ⟨id, some⟩ := of_decide_eq_true h
  obtain ⟨sent, mem, none⟩ := List.any_eq_true.1 some
  obtain ⟨o, observed, outbound⟩ := List.mem_filterMap.1 mem
  exact ⟨start, asked, x, o, sent, fresh_towards _ _ _, run_of_perform hx, observed, outbound, fun _ _ => rfl, id,
    List.isEmpty_iff.1 none⟩

end Exchange

end Gateway
