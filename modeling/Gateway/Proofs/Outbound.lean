import Gateway.Proofs.Arrival

/-!
# What a backend is sent

The client decides about most fields of the request a backend gets, and it may send anything: several values of a name,
the names the gateway sets itself, those names among its `connection` options. `Headers.PassedOn` says what has to come
of it, in terms of the request and the target alone.

The main theorem is `Run.passes_on`: it holds of every request and of every websocket handshake a backend is sent.
-/

namespace Gateway

/-! ## Values that say something -/

namespace HeaderValue

/-- Text that is not empty. -/
def isReadable (v : HeaderValue) : Bool := !v.bytes.isEmpty && v.bytes.all isTextByte

/-- The bytes of a value as text. -/
def string (v : HeaderValue) : String := String.ofList (byteChars v.bytes)

theorem utf8_string {v : HeaderValue} (h : v.bytes.all isTextByte = true) : utf8 v.string = v.bytes := by
  have ascii : ∀ c ∈ byteChars v.bytes, c.toNat < 128 := by
    intro c hc
    obtain ⟨b, hb, rfl⟩ := List.mem_map.1 hc
    have text := isTextByte_iff.1 (List.all_eq_true.1 h b hb)
    rw [toNat_ofNat_byte]
    omega
  rw [string, utf8_ofList_ascii _ ascii, charBytes_byteChars]

theorem utf8_string_of_isReadable {v : HeaderValue} (h : v.isReadable = true) : utf8 v.string = v.bytes :=
  utf8_string (Bool.and_eq_true_iff.1 h).2

end HeaderValue

namespace Headers

/-- The first value of a name, if it says something. -/
def readable? (h : Headers) (n : HeaderName) : Option HeaderValue := (h.get? n).filter HeaderValue.isReadable

theorem isReadable_of_readable? {h : Headers} {n : HeaderName} {v : HeaderValue} (hv : h.readable? n = some v) :
    v.isReadable = true :=
  (Option.filter_eq_some_iff.1 hv).2

/-- The same as a text. -/
def said? (h : Headers) (n : HeaderName) : Option String := ((h.text? n).filter (!·.isEmpty)).map String.ofList

theorem said?_eq (h : Headers) (n : HeaderName) : h.said? n = (h.readable? n).map HeaderValue.string := by
  unfold said? readable? Headers.text?
  cases h.get? n with
  | none => rfl
  | some v =>
    rw [Option.bind_eq_bind, Option.bind_some]
    unfold HeaderValue.text?
    split
    · rename_i text
      have same : (byteChars v.bytes).isEmpty = v.bytes.isEmpty := by simp [byteChars]
      rw [Option.filter_some, Option.filter_some, HeaderValue.isReadable, text, Bool.and_true, same]
      split <;> rfl
    · rename_i binary
      rw [Option.filter_none, Option.filter_some, HeaderValue.isReadable, if_neg (by simp [binary])]
      rfl

theorem givenId?_eq (h : Headers) : h.givenId? = h.said? .xRequestId := by
  unfold givenId? said?
  cases h.text? .xRequestId with
  | none => rfl
  | some t => cases t <;> rfl

end Headers

/-! ## The host the client asked for -/

/-- The host a request asks for, as bytes: over HTTP/2 the authority of its URI and else its first `host` value, over
other versions the other way round. What is empty or no text does not count. -/
def RequestHead.askedHost? (r : RequestHead) : Option Bytes :=
  let authority := (r.uri.authority.filter (· ≠ "")).map utf8
  let host := (r.headers.readable? .host).map (·.bytes)
  if r.version = .http2 then authority <|> host else host <|> authority

theorem requestedHost?_eq (c : Context) (r : RequestHead) :
    requestedHost? c r = if c.isHttp2 then r.uri.authority.filter (· ≠ "") <|> r.headers.said? .host
      else r.headers.said? .host <|> r.uri.authority.filter (· ≠ "") := by
  unfold requestedHost? Headers.said?
  cases r.headers.text? .host with
  | none => rfl
  | some t => cases t <;> rfl

theorem utf8_requestedHost? {c : Context} {r : RequestHead} (version : c.version = r.version) :
    (requestedHost? c r).map utf8 = r.askedHost? := by
  have http2 : c.isHttp2 = true ↔ r.version = .http2 := by rw [Context.isHttp2, version, beq_iff_eq]
  have host : (r.headers.said? .host).map utf8 = (r.headers.readable? .host).map (·.bytes) := by
    rw [Headers.said?_eq, Option.map_map]
    exact Option.map_congr fun v hv => HeaderValue.utf8_string_of_isReadable (Headers.isReadable_of_readable? hv)
  rw [requestedHost?_eq, RequestHead.askedHost?, ← host]
  simp only [http2, Option.orElse_eq_orElse, Option.orElse_eq_or]
  split
  · exact Option.map_or
  · exact Option.map_or

/-! ## The fields of a request that is passed on -/

namespace Headers

/-- The names the gateway sets itself on what it sends to a backend. -/
def gatewayNames : List HeaderName := [.xHost, .xForwardedFor, .xForwardedProto, .host, .contentLength]

/-- The fields a target is sent for a request of a client. -/
structure PassedOn (sent : Headers) (request : RequestHead) (tls : Bool) (client : SocketAddress) (target : Target) :
    Prop where
  /-- the host the client asked for -/
  xHost : ∃ v, sent.values .xHost = [v] ∧ request.askedHost? = some v.bytes
  xForwardedFor : ∃ v, sent.values .xForwardedFor = [v] ∧ v.bytes = utf8 client.ip.canonical.text
  xForwardedProto : sent.values .xForwardedProto = [if tls then .https else .http]
  /-- what the target is called, which may be left to the transport -/
  host : if target.hostHeader = "" then sent.values .host = []
    else ∃ v, sent.values .host = [v] ∧ v.bytes = utf8 target.hostHeader
  /-- what concerns the client's connection alone -/
  dropped : ∀ n, n ∉ gatewayNames → n ∈ hopByHopNames ∨ request.headers.Lists n.chars → sent.values n = []
  passed : ∀ n, n ∉ gatewayNames → n ∉ hopByHopNames → ¬ request.headers.Lists n.chars →
    sent.values n = request.headers.values n

end Headers

/-- The steps of the composition, where none fails. -/
theorem outboundHead_spec {c : Context} {target : Target} {host scheme : String} {source headers : Headers} {uri : Uri}
    (h : outboundHead c target host scheme source = .ok (uri, headers)) :
    ∃ merged, Headers.empty.withForwarding c.tls c.clientHost host source = (merged, .ok ())
      ∧ merged.withHost target.hostHeader? = some headers := by
  unfold outboundHead at h
  split at h
  · cases h
  · rename_i merged hm
    split at h
    · cases h
    · rename_i hosted hh
      split at h
      · cases h
      · cases h
        exact ⟨merged, hm, hh⟩

theorem passedOn_of_outboundHead {c : Context} {target : Target} {host scheme : String} {request : RequestHead}
    {sent composed : Headers} {uri : Uri} {client : SocketAddress} (version : c.version = request.version)
    (address : c.clientHost = client.clientHost) (hosted : requestedHost? c request = some host)
    (composes : outboundHead c target host scheme request.headers = .ok (uri, composed))
    (values : ∀ n, n ≠ .contentLength → sent.values n = composed.values n) :
    sent.PassedOn request c.tls client target := by
  obtain ⟨merged, forwarding, hosting⟩ := outboundHead_spec composes
  obtain ⟨⟨asked, hasked, xHost⟩, ⟨sender, hsender, xForwardedFor⟩, xForwardedProto⟩ := Headers.withForwarding_spec forwarding
  -- none of the three names is `host`
  have kept {n : HeaderName} (hl : n ≠ .contentLength) (hn : n ≠ .host) : sent.values n = merged.values n := by
    rw [values n hl, Headers.values_withHost_of_ne hosting hn]
  have others {n : HeaderName} (hn : n ∉ Headers.gatewayNames) :
      sent.values n = if request.headers.isEndToEnd n then request.headers.values n else [] := by
    simp only [Headers.gatewayNames, List.mem_cons, List.not_mem_nil, or_false, not_or] at hn
    obtain ⟨hx, hf, hp, hh, hl⟩ := hn
    rw [values n hl, values_outboundHead_of_ne composes hx hf hp hh]
  constructor
  · refine ⟨asked, (kept (by decide) (by decide)).trans xHost, ?_⟩
    rw [← utf8_requestedHost? version, hosted, Option.map_some, HeaderValue.ofString?_eq_some_iff.1 hasked]
  · refine ⟨sender, (kept (by decide) (by decide)).trans xForwardedFor, ?_⟩
    rw [HeaderValue.ofString?_eq_some_iff.1 hsender, address, SocketAddress.clientHost]
  · exact (kept (by decide) (by decide)).trans xForwardedProto
  · have named := Headers.withHost_spec hosting
    by_cases unnamed : target.hostHeader = ""
    · simp only [Target.hostHeader?, if_pos unnamed, reduceCtorEq, false_and, exists_false, or_false, true_and] at named
      rw [if_pos unnamed, values _ (by decide), named]
    · simp only [Target.hostHeader?, if_neg unnamed, reduceCtorEq, false_and, false_or, Option.some.injEq] at named
      obtain ⟨text, v, rfl, hv, value⟩ := named
      rw [if_neg unnamed]
      exact ⟨v, (values _ (by decide)).trans value, HeaderValue.ofString?_eq_some_iff.1 hv⟩
  · intro n hn concerns
    have hop : request.headers.isEndToEnd n = false := by
      rw [Bool.eq_false_iff, ne_eq, Headers.isEndToEnd_iff]
      rintro ⟨passes, unlisted⟩
      rcases concerns with hop | listed
      · exact passes hop
      · exact unlisted listed
    rw [others hn, hop]
    rfl
  · intro n hn passes unlisted
    rw [others hn, if_pos ((Headers.isEndToEnd_iff _ _).2 ⟨passes, unlisted⟩)]

namespace Exchange

variable {x start : Exchange} {request : RequestHead} {tls : Bool} {client : SocketAddress} {es : List Event}
  {o : Observation} {sent : Headers}

/-! ## Runs -/

/-- What a backend is sent was composed from the request and the answer of the resolver. -/
theorem Run.composes (begins : start.Begins request tls client) (run : Run start es x) (observed : o ∈ x.log)
    (outbound : o.outbound? = some sent) :
    ∃ ids resolved target host scheme uri composed, .arrived ids ∈ es
      ∧ start.resolver { request with headers := (ids.assign request.headers).2.1 } tls = ⟨resolved, .ok (.forward target)⟩
      ∧ requestedHost? (start.arrive ids).1.context resolved = some host
      ∧ outboundHead (start.arrive ids).1.context target host scheme resolved.headers = .ok (uri, composed)
      ∧ ∀ n, n ≠ .contentLength → sent.values n = composed.values n := by
  have unseen : o ∉ start.log := by simp [begins.fresh.log]
  obtain ⟨fs, y, e, z, before, step, ⟨_, rfl⟩, hy, hz⟩ := run.observed unseen observed
  obtain ⟨phase, answer, hosted, composes, -, same, values⟩ := step.asks outbound hy hz
  obtain rfl := Option.some.inj (same.symm.trans outbound)
  obtain ⟨ids, arrived, resolver, context, head⟩ := begins.resolving before phase
  rw [resolver, context, head, begins.context_arrive] at answer
  rw [context] at hosted composes
  exact ⟨ids, _, _, _, _, _, _, List.mem_append_left _ arrived, answer, hosted, composes, values⟩

/-- Whatever a client sends, a backend gets the fields of its request that may be passed on, as the resolver left them, and
beside them what the gateway says of the client and calls the target. The version is the one the request came with. -/
theorem Run.passes_on (begins : start.Begins request tls client) (run : Run start es x) (observed : o ∈ x.log)
    (outbound : o.outbound? = some sent) :
    ∃ ids resolved target, .arrived ids ∈ es
      ∧ start.resolver { request with headers := (ids.assign request.headers).2.1 } tls = ⟨resolved, .ok (.forward target)⟩
      ∧ sent.PassedOn { resolved with version := request.version } tls client target := by
  obtain ⟨ids, resolved, target, host, scheme, uri, composed, arrived, answer, hosted, composes, values⟩ :=
    run.composes begins observed outbound
  have context := begins.context_arrive ids
  refine ⟨ids, resolved, target, arrived, answer, ?_⟩
  have passed : sent.PassedOn { resolved with version := request.version } (start.arrive ids).1.context.tls client target :=
    passedOn_of_outboundHead (by rw [context]) (by rw [context]) hosted composes values
  rwa [context] at passed

/-- What was sent to backends. -/
def outbounds (x : Exchange) : List Headers := x.log.filterMap Observation.outbound?

/-- A list of events that can happen in its order, with such fields sent in the end. -/
theorem run_of_outbounds {p : Headers → Bool} (h : (es.foldlM perform start).any (fun x => x.outbounds.any p) = true) :
    ∃ x o sent, Run start es x ∧ o ∈ x.log ∧ o.outbound? = some sent ∧ p sent = true := by
  obtain ⟨x, hx, some⟩ := (Option.any_eq_true _ _).1 h
  obtain ⟨sent, mem, hp⟩ := List.any_eq_true.1 some
  obtain ⟨o, observed, outbound⟩ := List.mem_filterMap.1 mem
  exact ⟨x, o, sent, run_of_perform hx, observed, outbound, hp⟩

/-- A request that says it comes from elsewhere, and that nothing else shall be said of it. -/
def spoofed : RequestHead where
  method := .get
  uri := ⟨none, none, "/", none⟩
  version := .http11
  headers := ⟨[(.host, ⟨charBytes "shop.example".toList, by decide⟩), (.xForwardedFor, ⟨charBytes "10.0.0.1".toList, by decide⟩),
    (.xForwardedFor, ⟨charBytes "10.0.0.2".toList, by decide⟩),
    (.connection, ⟨charBytes "Host, X-Forwarded-For, x-forwarded-proto,,te".toList, by decide⟩)]⟩

/-- It is passed on with the address it came from. -/
theorem passes_on_spoofed : ∃ (start : Exchange) (x : Exchange) (o : Observation) (sent : Headers) (v : HeaderValue),
    start.Begins spoofed true ⟨.v6 [0, 0, 0, 0, 0, 0xFFFF, 0x7F00, 1], 40000⟩
      ∧ Run start [.arrived ⟨0⟩, .resolverAllowed, .handlerStepped 0] x ∧ o ∈ x.log ∧ o.outbound? = some sent
      ∧ sent.values .xForwardedFor = [v] ∧ v.bytes = utf8 "127.0.0.1" ∧ sent.values .host = [] := by
  let start := new { idle := .ofSeconds 60, receive := .ofSeconds 60, page := Rejection.page }
    (fun head _ => ⟨head, .ok (.forward ⟨"backend", 80, "/", ""⟩)⟩) spoofed true
    ⟨.v6 [0, 0, 0, 0, 0, 0xFFFF, 0x7F00, 1], 40000⟩ (.buffered [])
  have reached : ([.arrived ⟨0⟩, .resolverAllowed, .handlerStepped 0].foldlM perform start).any (fun x =>
      x.outbounds.any fun _ => true) = true := by decide +kernel
  obtain ⟨x, o, sent, run, observed, outbound, -⟩ := run_of_outbounds reached
  have begins : start.Begins spoofed true ⟨.v6 [0, 0, 0, 0, 0, 0xFFFF, 0x7F00, 1], 40000⟩ :=
    ⟨⟨_, _, _, _, _, _, false, none, none, none, rfl⟩, rfl, rfl⟩
  obtain ⟨ids, resolved, target, -, answer, passed⟩ := Run.passes_on begins run observed outbound
  obtain rfl : (⟨"backend", 80, "/", ""⟩ : Target) = target := by
    injection answer with _ hop
    injection hop with hop
    injection hop
  obtain ⟨v, value, address⟩ := passed.xForwardedFor
  exact ⟨start, x, o, sent, v, begins, run, observed, outbound, value, address, passed.host⟩

end Exchange

end Gateway
