import Gateway.Address
import Gateway.Counter
import Gateway.Header.Forwarding
import Gateway.Header.Persistence
import Gateway.Message
import Gateway.Target

/-!
# Heads of an exchange

How the heads of the messages of an exchange are composed: the request id, the host the client asked for, the head sent
to the backend, the head of the response to the client.
-/

namespace Gateway

/-- Facts about a request that are fixed when it arrives. -/
structure Context where
  requestId : String
  version : Version
  tls : Bool
  clientHost : String
deriving DecidableEq, Inhabited

namespace Context

/-- Whether the request came over HTTP/2, where connections have no persistence fields. -/
def isHttp2 (c : Context) : Bool := c.version == .http2

/-- The scheme the client used. -/
def scheme (c : Context) : String := if c.tls then "https" else "http"

end Context

/-! ## The request id -/

namespace Headers

/-- The id a request came with: the first `x-request-id` value if it is text and not empty. -/
def givenId? (h : Headers) : Option String :=
  match h.text? .xRequestId with
  | some (c :: cs) => some (String.ofList (c :: cs))
  | _ => none

/-- Puts the request id on a message that has none. -/
def stampId (h : Headers) (id : String) : Headers :=
  if h.contains .xRequestId then h
  else
    match HeaderValue.ofString? id with
    | some v => h.insert .xRequestId v
    | none => h

theorem stampId_of_contains {h : Headers} (hc : h.contains .xRequestId) (id : String) : h.stampId id = h := by
  simp [stampId, hc]

theorem values_stampId_of_ne (h : Headers) (id : String) {n : HeaderName} (hn : n ≠ .xRequestId) :
    (h.stampId id).values n = h.values n := by
  unfold stampId
  split
  · rfl
  · split
    · rw [values_insert, if_neg hn]
    · rfl

end Headers

namespace RequestIds

/-- The id of a request: the one it came with, otherwise the next number, which is put on the request. -/
def assign (ids : RequestIds) (h : Headers) : String × Headers × RequestIds :=
  match h.givenId? with
  | some id => (id, h, ids)
  | none =>
    let (n, ids) := ids.take
    (toString n.toNat, h.insert .xRequestId (.ofNat n.toNat), ids)

theorem values_assign_of_ne (ids : RequestIds) (h : Headers) {n : HeaderName} (hn : n ≠ .xRequestId) :
    (ids.assign h).2.1.values n = h.values n := by
  unfold assign
  split
  · rfl
  · show (h.insert .xRequestId _).values n = _
    rw [Headers.values_insert, if_neg hn]

end RequestIds

/-! ## The host the client asked for -/

/-- The host a request asks for: over HTTP/2 the authority of its URI, otherwise its first `host` value; where that is
missing, empty or no text, the other one. -/
def requestedHost? (c : Context) (head : RequestHead) : Option String :=
  let authority := head.uri.authority.filter (· ≠ "")
  let host := match head.headers.text? .host with
    | some (c :: cs) => some (String.ofList (c :: cs))
    | _ => none
  if c.isHttp2 then authority <|> host else host <|> authority

/-! ## The head sent to the backend -/

/-- URI and header fields for the backend: the end-to-end fields of the request, the forwarding fields, and `host` as the
target wants it. -/
def outboundHead (c : Context) (target : Target) (host : String) (scheme : String) (source : Headers) :
    Except Cause (Uri × Headers) :=
  match Headers.empty.withForwarding c.tls c.clientHost host source with
  | (_, .error cause) => .error cause
  | (headers, .ok ()) =>
    match headers.withHost target.hostHeader? with
    | none => .error .invalidHeaderValue
    | some headers =>
      match target.absoluteUri scheme with
      | .error cause => .error cause
      | .ok uri => .ok (uri, headers)

/-- Of the fields the gateway does not set itself, the backend gets the end-to-end ones, as they are. -/
theorem values_outboundHead_of_ne {c : Context} {target : Target} {host scheme : String} {source headers : Headers}
    {uri : Uri} {n : HeaderName} (h : outboundHead c target host scheme source = .ok (uri, headers)) (hx : n ≠ .xHost)
    (hf : n ≠ .xForwardedFor) (hp : n ≠ .xForwardedProto) (hn : n ≠ .host) :
    headers.values n = if source.isEndToEnd n then source.values n else [] := by
  unfold outboundHead at h
  split at h
  · cases h
  · rename_i merged hm
    split at h
    · cases h
    · rename_i hosted hh
      split at h
      · cases h
      · cases h
        rw [Headers.values_withHost_of_ne hh hn, Headers.values_withForwarding_of_ne hm hx hf hp,
          Headers.values_mergeEndToEnd, Headers.values_empty, List.nil_append]

/-! ## The head of the response to the client -/

/-- Adds the request id and, where the fields say nothing about the connection, that it stays open. -/
def finishHeaders (idle : Duration) (c : Context) (h : Headers) : Headers :=
  let h := h.stampId c.requestId
  if !c.isHttp2 && !h.contains .connection then h.keepOpen (.keepAliveFor idle) else h

/-- Only the request id and the fields about persistence are added. -/
theorem values_finishHeaders_of_ne (idle : Duration) (c : Context) (h : Headers) {n : HeaderName}
    (hi : n ≠ .xRequestId) (hc : n ≠ .connection) (hk : n ≠ .keepAlive) :
    (finishHeaders idle c h).values n = h.values n := by
  unfold finishHeaders
  dsimp only
  split
  · rw [Headers.values_keepOpen_of_ne _ _ hc hk, Headers.values_stampId_of_ne _ _ hi]
  · rw [Headers.values_stampId_of_ne _ _ hi]

/-- An id that is there stays. -/
theorem values_finishHeaders_xRequestId (idle : Duration) (c : Context) {h : Headers} (hc : h.contains .xRequestId) :
    (finishHeaders idle c h).values .xRequestId = h.values .xRequestId := by
  unfold finishHeaders
  dsimp only
  rw [Headers.stampId_of_contains hc]
  split
  · exact Headers.values_keepOpen_of_ne _ _ (by decide) (by decide)
  · rfl

/-- What the fields say about persistence stays. -/
theorem values_finishHeaders_of_connection (idle : Duration) (c : Context) {h : Headers} (hc : h.contains .connection)
    {n : HeaderName} (hi : n ≠ .xRequestId) : (finishHeaders idle c h).values n = h.values n := by
  have stamped : (h.stampId c.requestId).contains .connection = true := by
    rw [Headers.contains_eq, Headers.values_stampId_of_ne _ _ (by decide), ← Headers.contains_eq, hc]
  unfold finishHeaders
  simp only [stamped, Bool.not_true, Bool.and_false, Bool.false_eq_true, if_false]
  exact Headers.values_stampId_of_ne _ _ hi

/-- The fields of a response that is relayed. With `mustClose` the client cannot tell where its next request would
begin, so the connection is closed. -/
def relayedHeaders (idle : Duration) (c : Context) (mustClose : Bool) (source : Headers) : Headers :=
  let h := Headers.empty.mergeEndToEnd source
  let h := if !c.isHttp2 && !source.asksToClose then h.keepOpen (.keepAliveFor idle) else h
  let h := if mustClose && !c.isHttp2 then h.closeAfter else h
  h.stampId c.requestId

/-- Of the fields the gateway does not set itself, the client gets the end-to-end ones, as they are. -/
theorem values_relayedHeaders_of_ne (idle : Duration) (c : Context) (mustClose : Bool) (source : Headers)
    {n : HeaderName} (hi : n ≠ .xRequestId) (hc : n ≠ .connection) (hk : n ≠ .keepAlive) :
    (relayedHeaders idle c mustClose source).values n = if source.isEndToEnd n then source.values n else [] := by
  have merged : (Headers.empty.mergeEndToEnd source).values n = if source.isEndToEnd n then source.values n else [] := by
    rw [Headers.values_mergeEndToEnd, Headers.values_empty, List.nil_append]
  unfold relayedHeaders
  dsimp only
  rw [Headers.values_stampId_of_ne _ _ hi]
  split <;> split <;>
    simp only [Headers.values_closeAfter_of_ne _ hc hk, Headers.values_keepOpen_of_ne _ _ hc hk, merged]

/-- The fields of a refused websocket handshake. -/
def refusedHeaders (idle : Duration) (c : Context) (source : Headers) : Headers :=
  let h := (Headers.empty.insert .contentLength .zero).mergeEndToEnd source
  ((h.insert .contentLength .zero).keepOpen (.keepAliveFor idle)).stampId c.requestId

/-- The fields of the answer to a websocket handshake that failed. -/
def failedSocketHeaders (idle : Duration) (c : Context) : Headers :=
  ((Headers.empty.insert .contentLength .zero).keepOpen (.keepAliveFor idle)).stampId c.requestId

end Gateway
