import Gateway.Proofs.Gate.Decision
import Gateway.WebSocket.Handshake

/-!
# How a tunnel is opened

A tunnel is opened by two handshakes. That of the client ends at the gateway, which answers its key; to the backend goes
another one. Three sources have a part in this request: the client, the gateway, and what generates the fields that make
a handshake. `Headers.Merges` says which of them is heard about which name.

The main theorem is `opens_tunnel`.
-/

namespace Gateway

/-! ## The answer to a key -/

theorem Base64.isFieldByte_digit (n : Nat) : isFieldByte (UInt8.ofNat (digit n).toNat) = true := by
  have all : ∀ k : Fin 64, isFieldByte (UInt8.ofNat (digit k).toNat) = true := by decide +kernel
  have reduced : digit n = digit (n % 64) := by
    unfold digit
    simp only [Nat.mod_mod]
  rw [reduced]
  exact all ⟨n % 64, Nat.mod_lt _ (by decide)⟩

theorem Base64.isFieldByte_encode (bs : Bytes) : (charBytes (encode bs)).all isFieldByte = true := by
  have pad : isFieldByte (UInt8.ofNat '='.toNat) = true := by decide
  induction bs using encode.induct with
  | case1 a b c rest ih =>
    rw [encode]
    simp only [charBytes, List.map_cons, List.all_cons, isFieldByte_digit, Bool.true_and]
    exact ih
  | case2 | case3 =>
    rw [encode]
    simp only [charBytes, List.map_cons, List.all_cons, isFieldByte_digit, pad, Bool.true_and]
    rfl
  | case4 => rfl

namespace WebSocket

/-- Every key has an answer. -/
theorem accept?_spec (key : Bytes) : ∃ v, accept? key = some v ∧ v.bytes = charBytes (acceptText key) := by
  have legal : (HeaderValue.ofBytes? (charBytes (acceptText key))).isSome = true := by
    rw [HeaderValue.ofBytes?_isSome]
    exact Base64.isFieldByte_encode _
  obtain ⟨v, hv⟩ := Option.isSome_iff_exists.1 legal
  exact ⟨v, hv, HeaderValue.ofBytes?_eq_some_iff.1 hv⟩

/-! ## What is generated -/

/-- The names values are generated for. -/
def generatedNames : List HeaderName := [.host, .connection, .upgrade, .secWebSocketVersion, .secWebSocketKey]

/-- Each of these names has one value, and no other name has any. -/
def Generates (generate : Generator) : Prop :=
  ∀ uri generated, generate uri = .ok generated →
    (∀ n ∈ generatedNames, ∃ v, generated.values n = [v]) ∧ ∀ n, n ∉ generatedNames → generated.values n = []

theorem values_freshHandshake (host key : HeaderValue) (n : HeaderName) :
    (freshHandshake host key).values n =
      if n = .host then [host] else if n = .connection then [.upgradeToken] else if n = .upgrade then [.websocket]
      else if n = .secWebSocketVersion then [.thirteen] else if n = .secWebSocketKey then [key] else [] := by
  unfold freshHandshake
  simp only [Headers.values_append, Headers.values_empty, List.nil_append]
  by_cases hh : n = .host
  · subst hh; rfl
  by_cases hc : n = .connection
  · subst hc; rfl
  by_cases hu : n = .upgrade
  · subst hu; rfl
  by_cases hv : n = .secWebSocketVersion
  · subst hv; rfl
  by_cases hk : n = .secWebSocketKey
  · subst hk; rfl
  simp only [hh, hc, hu, hv, hk, Ne.symm hh, Ne.symm hc, Ne.symm hu, Ne.symm hv, Ne.symm hk, if_false]

theorem generates_withKey (key : HeaderValue) : Generates (withKey key) := by
  intro uri generated made
  unfold withKey at made
  split at made
  · cases made
  · rename_i host _
    cases made
    refine ⟨fun n hn => ?_, fun n hn => ?_⟩
    · rw [values_freshHandshake]
      simp only [generatedNames, List.mem_cons, List.not_mem_nil, or_false] at hn
      rcases hn with rfl | rfl | rfl | rfl | rfl <;> exact ⟨_, rfl⟩
    · simp only [generatedNames, List.mem_cons, List.not_mem_nil, or_false, not_or] at hn
      obtain ⟨hh, hc, hu, hv, hk⟩ := hn
      rw [values_freshHandshake, if_neg hh, if_neg hc, if_neg hu, if_neg hv, if_neg hk]

end WebSocket

/-! ## What is asked -/

namespace Headers

/-- The fields of a handshake request, by where they come from. -/
structure Merges (sent generated passed : Headers) : Prop where
  /-- what makes the handshake is generated, and not heard from anybody else -/
  made : ∀ n ∈ [HeaderName.connection, .upgrade, .secWebSocketKey, .secWebSocketVersion],
    ∃ v, generated.values n = [v] ∧ sent.values n = [v]
  extensions : sent.values .secWebSocketExtensions = []
  accept : sent.values .secWebSocketAccept = []
  hosted : passed.values .host ≠ [] → sent.values .host = passed.values .host
  unhosted : passed.values .host = [] → ∃ v, generated.values .host = [v] ∧ sent.values .host = [v]
  others : ∀ n, n ≠ .host → n ∉ WebSocket.handshakeNames → sent.values n = passed.values n

theorem values_handshakeHeaders (generated passed : Headers) (n : HeaderName) :
    (WebSocket.handshakeHeaders generated passed).values n
      = (if n = .host ∧ passed.values .host ≠ [] then [] else generated.values n)
        ++ if n ∈ WebSocket.handshakeNames then [] else passed.values n := by
  have kept : (if passed.contains .host then generated.remove .host else generated).values n
      = if n = .host ∧ passed.values .host ≠ [] then [] else generated.values n := by
    rw [contains_eq]
    by_cases hosted : passed.values .host = []
    · rw [hosted]
      simp
    · have named : (!(passed.values .host).isEmpty) = true := by simpa using hosted
      rw [if_pos named, values_remove]
      simp [hosted]
  unfold WebSocket.handshakeHeaders
  dsimp only
  rw [values_addAll, kept, values_filterNames]
  congr 1
  by_cases made : n ∈ WebSocket.handshakeNames <;> simp [made]

/-- Whatever is passed on, the names that make a handshake have the values that were generated. -/
theorem values_handshakeHeaders_of_mem (generated passed : Headers) {n : HeaderName} (hn : n ∈ WebSocket.handshakeNames) :
    (WebSocket.handshakeHeaders generated passed).values n = generated.values n := by
  have foreign : n ≠ .host := by
    rintro rfl
    exact absurd hn (by decide)
  rw [values_handshakeHeaders, if_neg (fun h => foreign h.1), if_pos hn, List.append_nil]

theorem merges_handshakeHeaders {generated : Headers} (one : ∀ n ∈ WebSocket.generatedNames, ∃ v, generated.values n = [v])
    (none : ∀ n, n ∉ WebSocket.generatedNames → generated.values n = []) (passed : Headers) :
    (WebSocket.handshakeHeaders generated passed).Merges generated passed where
  made := by
    intro n hn
    have both : n ∈ WebSocket.generatedNames ∧ n ∈ WebSocket.handshakeNames := by
      simp only [List.mem_cons, List.not_mem_nil, or_false] at hn
      rcases hn with rfl | rfl | rfl | rfl <;> decide
    obtain ⟨v, hv⟩ := one n both.1
    exact ⟨v, hv, (values_handshakeHeaders_of_mem generated passed both.2).trans hv⟩
  extensions := (values_handshakeHeaders_of_mem generated passed (by decide)).trans (none _ (by decide))
  accept := (values_handshakeHeaders_of_mem generated passed (by decide)).trans (none _ (by decide))
  hosted := fun hosted => by
    rw [values_handshakeHeaders, if_pos ⟨rfl, hosted⟩, if_neg (by decide), List.nil_append]
  unhosted := fun unhosted => by
    obtain ⟨v, hv⟩ := one .host (by decide)
    refine ⟨v, hv, ?_⟩
    rw [values_handshakeHeaders, if_neg (fun h => h.2 unhosted), if_neg (by decide), hv, unhosted, List.append_nil]
  others := fun n hn unmade => by
    have foreign : n ∉ WebSocket.generatedNames := by
      simp only [WebSocket.handshakeNames, WebSocket.generatedNames, List.mem_cons, List.not_mem_nil, or_false,
        not_or] at unmade ⊢
      obtain ⟨hc, hu, hk, hv, -, -⟩ := unmade
      exact ⟨hn, hc, hu, hv, hk⟩
    rw [values_handshakeHeaders, if_neg (fun h => hn h.1), if_neg unmade, none n foreign, List.nil_append]

end Headers

namespace WebSocket

variable {generate : Generator} {target : Target} {uri : Uri} {generated : Headers}

/-- Where there is a URI and a handshake for it, this is what is asked. -/
theorem handshakeRequest_of_ok (made : target.absoluteUri "ws" = .ok uri) (fresh : generate uri = .ok generated)
    (passed : Headers) : handshakeRequest generate target passed = .ok (uri, handshakeHeaders generated passed) := by
  unfold handshakeRequest
  rw [made]
  dsimp only
  rw [fresh]

theorem connectWith_of_request {passed sent : Headers} (asks : handshakeRequest generate target passed = .ok (uri, sent))
    (dial : Uri → Headers → Reply) : connectWith generate dial target passed = (dial uri sent).answer := by
  unfold connectWith
  rw [asks]

end WebSocket

/-- The client is told the answer to its key and the subprotocol, where there is one. -/
theorem Response.values_switching (accept : HeaderValue) (protocol : Option HeaderValue) :
    (switching (some accept) protocol).head.headers.values .secWebSocketAccept = [accept]
      ∧ (switching (some accept) protocol).head.headers.values .secWebSocketProtocol = protocol.toList := by
  unfold switching
  cases protocol with
  | none => exact ⟨rfl, rfl⟩
  | some name => exact ⟨rfl, rfl⟩

namespace Exchange

variable {x y start : Exchange} {request : RequestHead} {tls : Bool} {client : SocketAddress} {es : List Event}
  {e : Event} {key : HeaderValue}

/-! ## Waiting for a websocket -/

/-- What a resolver says of a request has the handler ask a target for a websocket with these fields, and keep this key. -/
structure Dials (resolution : Resolution) (c : Context) (key : HeaderValue) (target : Target) (passed : Headers) : Prop where
  forward : resolution.hop = .ok (.forward target)
  keyed : resolution.head.headers.get? .secWebSocketKey = some key
  composes : ∃ host uri, outboundHead c target host "ws" resolution.head.headers = .ok (uri, passed)

/-- A handler that waits for a websocket has waited for it before, or has just asked for it. -/
theorem Step.connecting (step : Step x e y) (phase : y.handler = .connecting key) :
    (x.handler = .connecting key ∧ y.calls = x.calls)
      ∨ (x.handler = .resolving ∧ ∃ target passed, .socketAsked target passed ∈ y.calls
        ∧ Dials (x.resolver x.head x.context.tls) x.context key target passed) := by
  have same (handler : y.handler = x.handler) : x.handler = .connecting key ∧ y.calls = x.calls := by
    rw [phase] at handler
    refine ⟨handler.symm, ?_⟩
    rcases step.calls_eq with same | ⟨-, -, resolving⟩
    · exact same
    · simp [resolving] at handler
  cases step.turn with
  | aside frame => exact .inl (same frame.handler)
  | arrived ids idle => cases phase
  | deserted waiting =>
    obtain ⟨_, _, _, _, dropped⟩ := touches_dropHandler x
    rw [dropped] at phase
    cases phase
  | upload hy => exact .inl (same hy.keeps.handler)
  | relay hy => exact .inl (same hy.keeps.handler)
  | handler hy =>
    cases stepHandler_cases hy with
    | resolved resolving _ answer next =>
      cases next with
      | @socketAsked target _ _ uri headers _ _ keyed outbound =>
        cases phase
        refine .inr ⟨resolving, target, headers, ?_, ?_⟩
        · rw [calls_awaitSocket]
          exact List.mem_append_right _ (List.mem_singleton_self _)
        · rw [answer]
          exact ⟨rfl, keyed, _, _, outbound⟩
      | refused | answered | hostless | keyless | socketFailed | unsendable | sent => cases phase
    | forwarded _ next => cases next <;> cases phase
    | failed => cases phase
    | responded next => cases next <;> cases phase
    | @connected _ answer => cases answer <;> cases phase

/-- Whatever has happened since, a handler that waits for a websocket goes by what the resolver said of the request. -/
theorem Run.dials (begins : start.Begins request tls client) (run : Run start es x) (phase : x.handler = .connecting key) :
    ∃ ids target passed, .arrived ids ∈ es ∧ .socketAsked target passed ∈ x.calls
      ∧ Dials (start.resolver { request with headers := (ids.assign request.headers).2.1 } tls)
          (start.arrive ids).1.context key target passed := by
  induction run with
  | refl =>
    obtain ⟨idle, -⟩ := begins.fresh.idle
    rw [idle] at phase
    cases phase
  | @snoc es x e y run step ih =>
    rcases step.connecting phase with ⟨before, same⟩ | ⟨resolving, target, passed, asked, dials⟩
    · obtain ⟨ids, target, passed, arrived, asked, dials⟩ := ih before
      exact ⟨ids, target, passed, List.mem_append_left _ arrived, same ▸ asked, dials⟩
    · obtain ⟨ids, arrived, resolver, context, head⟩ := begins.resolving run resolving
      have encrypted : (start.arrive ids).1.context.tls = tls := by rw [begins.context_arrive]
      rw [resolver, context, head, encrypted] at dials
      exact ⟨ids, target, passed, List.mem_append_left _ arrived, asked, dials⟩

/-! ## The answer to the client -/

theorem milestones_finishTraced (x : Exchange) (head : ResponseHead) (body : Body) :
    (x.finishTraced head (.direct body)).milestones = x.milestones ++ [.answered head body.isEnded body.exactLength] := by
  unfold finishTraced
  rw [milestones_finish_direct, milestones_trace]

/-- Once the backend has accepted, the handler answers the key of the client, with the subprotocol of the backend. -/
theorem Sound.accepts (sound : x.Sound) (phase : x.handler = .connecting key) {protocol : Option HeaderValue}
    (accepted : x.socketAnswer = some (.accepted protocol)) (now : Nat) :
    ∃ y head v, x.stepHandler now = some y ∧ y.milestones = [.answered head true (some 0)]
      ∧ head.status = .switchingProtocols ∧ head.headers.values .secWebSocketAccept = [v]
      ∧ v.bytes = charBytes (WebSocket.acceptText key.bytes)
      ∧ head.headers.values .secWebSocketProtocol = protocol.toList := by
  obtain ⟨unanswered, -⟩ := sound.waiting (.inr (.inr ⟨key, phase⟩))
  obtain ⟨v, answers, bytes⟩ := WebSocket.accept?_spec key.bytes
  obtain ⟨accept, selected⟩ := Response.values_switching v protocol
  have stepped : x.stepHandler now = some (x.answerSocket key (.accepted protocol)) := by
    simp only [Exchange.stepHandler, phase, accepted, Option.map_some]
  refine ⟨_, headWith (.switching (some v) protocol)
    ((Response.switching (some v) protocol).head.headers.stampId x.context.requestId), v, stepped, ?_, rfl, ?_, bytes, ?_⟩
  · unfold answerSocket
    rw [answers, milestones_finishTraced]
    show x.milestones ++ _ = _
    rw [unanswered.milestones]
    rfl
  · rw [headers_headWith, Headers.values_stampId_of_ne _ _ (by decide), accept]
  · rw [headers_headWith, Headers.values_stampId_of_ne _ _ (by decide), selected]

/-! ## Both handshakes -/

/-- Assume that one value is generated for each name that makes a handshake. Then, whatever is passed on to whichever
target, the handshake with it has the generated values and no others for these names, the `host` that is passed on if
there is one, and every other field that is passed on. When the backend accepts a handshake that a request came to, the
client is answered: its first key, and the subprotocol of the backend. -/
theorem opens_tunnel {generate : WebSocket.Generator} (generates : WebSocket.Generates generate) :
    (∀ target passed uri generated, target.absoluteUri "ws" = .ok uri → generate uri = .ok generated →
      ∃ sent, WebSocket.handshakeRequest generate target passed = .ok (uri, sent) ∧ sent.Merges generated passed
        ∧ ∀ dial, WebSocket.connectWith generate dial target passed = (dial uri sent).answer)
    ∧ ∀ start request tls client es x key, Begins start request tls client → Run start es x →
      x.handler = .connecting key →
      ∃ ids resolved target passed uri, .arrived ids ∈ es
        ∧ start.resolver { request with headers := (ids.assign request.headers).2.1 } tls
            = ⟨resolved, .ok (.forward target)⟩
        ∧ resolved.headers.get? .secWebSocketKey = some key
        ∧ .socketAsked target passed ∈ x.log ∧ target.absoluteUri "ws" = .ok uri
        ∧ ∀ sent dial accepted, WebSocket.handshakeRequest generate target passed = .ok (uri, sent) →
            dial uri sent = .accepted accepted →
            x.socketAnswer = some (WebSocket.connectWith generate dial target passed) →
            ∀ now, ∃ y head v, x.stepHandler now = some y ∧ y.milestones = [.answered head true (some 0)]
              ∧ head.status = .switchingProtocols ∧ head.headers.values .secWebSocketAccept = [v]
              ∧ v.bytes = charBytes (WebSocket.acceptText key.bytes)
              ∧ head.headers.values .secWebSocketProtocol = (accepted.get? .secWebSocketProtocol).toList := by
  constructor
  · intro target passed uri generated made fresh
    obtain ⟨one, none⟩ := generates uri generated fresh
    have asks := WebSocket.handshakeRequest_of_ok made fresh passed
    exact ⟨_, asks, Headers.merges_handshakeHeaders one none passed, WebSocket.connectWith_of_request asks⟩
  · intro start request tls client es x key begins run phase
    obtain ⟨ids, target, passed, arrived, asked, dials⟩ := run.dials begins phase
    obtain ⟨host, uri, composes⟩ := dials.composes
    refine ⟨ids, _, target, passed, uri, arrived, ?_, dials.keyed, (List.mem_filter.1 asked).1,
      absoluteUri_of_outboundHead composes, ?_⟩
    · rw [← dials.forward]
    · intro sent dial accepted asks replied answer now
      rw [WebSocket.connectWith_of_request asks, replied] at answer
      exact (run.sound begins.fresh).accepts phase answer now

/-- A client that wants to chat with a backend. -/
def chatting : Exchange := towards (.forward ⟨"backend", 80, "/", ""⟩) handshake.headers (.buffered [])

/-- What the backend answers it. -/
def answeredBy (answer : SocketAnswer) : List Event :=
  [.arrived ⟨7⟩, .resolverAllowed, .handlerStepped 0, .socketAnswered answer]

theorem run_answeredBy (answer : SocketAnswer) :
    ∃ x key, Run chatting (answeredBy answer) x ∧ x.handler = .connecting key ∧ x.socketAnswer = some answer
      ∧ key.bytes = charBytes "dGhlIHNhbXBsZSBub25jZQ==".toList := by
  let key : HeaderValue := ⟨charBytes "dGhlIHNhbXBsZSBub25jZQ==".toList, by decide⟩
  have asked : ([.arrived ⟨7⟩, .resolverAllowed, .handlerStepped 0].foldlM perform chatting).any (fun x =>
      x.handler = .connecting key) = true := by decide +kernel
  obtain ⟨x, hx, phase⟩ := (Option.any_eq_true _ _).1 asked
  exact ⟨_, key, (run_of_perform hx).snoc (.answerSocket answer), of_decide_eq_true phase, rfl, rfl⟩

/-- A subprotocol. -/
def chat : HeaderValue := ⟨charBytes "chat".toList, by decide⟩

/-- The answer to a key that many clients are tried with is the known one, and the backend gets another key. -/
theorem opens_tunnel_chatting : ∃ x y head v passed uri sent, WebSocket.Generates (WebSocket.withKey .thirteen)
    ∧ Run chatting (answeredBy (.accepted (some chat))) x ∧ .socketAsked ⟨"backend", 80, "/", ""⟩ passed ∈ x.log
    ∧ WebSocket.handshakeRequest (WebSocket.withKey .thirteen) ⟨"backend", 80, "/", ""⟩ passed = .ok (uri, sent)
    ∧ sent.values .secWebSocketKey = [.thirteen]
    ∧ x.stepHandler 0 = some y ∧ y.milestones = [.answered head true (some 0)]
    ∧ head.headers.values .secWebSocketAccept = [v] ∧ v.bytes = charBytes "s3pPLMBiTxaQ9kYGzzhZRbK+xOo=".toList
    ∧ head.headers.values .secWebSocketProtocol = [chat] := by
  let backend : Target := ⟨"backend", 80, "/", ""⟩
  obtain ⟨x, key, run, phase, answer, known⟩ := run_answeredBy (.accepted (some chat))
  obtain ⟨composes, opens⟩ := opens_tunnel (WebSocket.generates_withKey .thirteen)
  obtain ⟨ids, head, target, passed, uri, -, resolved, -, asked, made, answers⟩ :=
    opens chatting _ _ _ _ x key (begins_towards _ _ _) run phase
  obtain rfl : backend = target := by
    injection resolved with _ hop
    injection hop with hop
    injection hop
  -- the URI of the backend has a host to generate a handshake for
  have hosted : (backend.absoluteUri "ws").toOption.bind WebSocket.handshakeHost? ≠ none := by decide +kernel
  rw [made] at hosted
  obtain ⟨host, named⟩ := Option.ne_none_iff_exists'.1 hosted
  have fresh : WebSocket.withKey .thirteen uri = .ok (WebSocket.freshHandshake host .thirteen) := by
    have named : WebSocket.handshakeHost? uri = some host := named
    simp only [WebSocket.withKey, named]
  obtain ⟨sent, asks, merges, connects⟩ := composes backend passed uri _ made fresh
  obtain ⟨y, head, v, step, milestones, -, accept, bytes, protocol⟩ :=
    answers sent (fun _ _ => .accepted ⟨[(.secWebSocketProtocol, chat)]⟩) _ asks rfl (by rw [connects, answer]; rfl) 0
  obtain ⟨_, generated, value⟩ := merges.made .secWebSocketKey (by decide)
  rw [WebSocket.values_freshHandshake] at generated
  rw [known] at bytes
  exact ⟨x, y, head, v, passed, uri, sent, WebSocket.generates_withKey _, run, asked, asks, value.trans generated.symm, step,
    milestones, accept, bytes.trans (by decide +kernel), protocol⟩

end Exchange

end Gateway
