import Gateway.Exchange.Tasks

/-!
# What happens to an exchange from outside

The neighbours of an exchange act on it: the client sends, reads and leaves, the resolver answers, the backend reads the
request body and answers. An action that finds nothing to act on leaves the exchange as it is and says so by `none`.
-/

namespace Gateway

namespace Exchange

/-! ## The client -/

/-- One more item of the request body arrives. -/
def pushRequest (x : Exchange) (item : Item) : Exchange :=
  match x.upload with
  | some t => { x with upload := some { t with pump := { t.pump with source := t.pump.source.push item } } }
  | none => { x with inbound := x.inbound.push item }

/-- The client reads an item of the response body; the inner `none` says that nothing is there yet. -/
def clientRead (x : Exchange) : Option (Option Item × Exchange) :=
  match x.clientBody with
  | none => none
  | some (.direct body) =>
    let (item, body) := body.read
    some (item, { x with clientBody := some (.direct body) })
  | some .relayed =>
    match x.relay with
    | none => none
    | some t =>
      let (item, pipe) := t.pump.pipe.read
      some (item, { x with relay := some { t with pump := { t.pump with pipe } } })

/-- The client gives the response body up. -/
def dropResponse (x : Exchange) : Option Exchange :=
  match x.clientBody with
  | none => none
  | some (.direct _) => some { x with clientBody := none }
  | some .relayed =>
    some { x with
      clientBody := none
      relay := x.relay.map fun t => { t with pump := { t.pump with pipe := t.pump.pipe.closeReader } } }

/-- The client leaves while the handler waits: the request is given up, and the failure is reported. -/
def dropHandler (x : Exchange) : Exchange :=
  let call := match x.backendCall with
    | .waiting => .dropped
    | call => call
  let x := { x with handler := .dropped, inbound := x.inbound.release, backendCall := call }
  ((x.trace .clientLeft).fail .clientLeft).abandon

/-- The client leaves. -/
def dropClient (x : Exchange) : Option Exchange :=
  if x.isWaiting then some x.dropHandler else x.dropResponse

/-! ## The resolver -/

/-- The resolver may answer. -/
def allowResolve (x : Exchange) : Option Exchange :=
  match x.handler with
  | .resolving => if x.resolverReady then none else some { x with resolverReady := true }
  | _ => none

/-! ## The backend -/

/-- The backend reads an item of the request body. -/
def backendRead (x : Exchange) : Option (Option Item × Exchange) :=
  match x.backendBody with
  | none => none
  | some (.complete body) =>
    let (item, body) := body.read
    some (item, { x with backendBody := some (.complete body) })
  | some .uploaded =>
    match x.upload with
    | none => none
    | some t =>
      let (item, pipe) := t.pump.pipe.read
      some (item, { x with upload := some { t with pump := { t.pump with pipe } } })

/-- The backend gives the request body up. -/
def backendDropBody (x : Exchange) : Option Exchange :=
  match x.backendBody with
  | none => none
  | some (.complete _) => some { x with backendBody := none }
  | some .uploaded =>
    some { x with
      backendBody := none
      upload := x.upload.map fun t => { t with pump := { t.pump with pipe := t.pump.pipe.closeReader } } }

/-- The backend answers, or cannot. -/
def answerBackend (x : Exchange) (answer : Except Cause Response) : Option Exchange :=
  match x.backendCall with
  | .waiting => some { x with backendAnswer := some answer }
  | _ => none

/-- The source of the response body, wherever it is held. What the backend would answer is not there before it was
asked. -/
def responseSource? (x : Exchange) : Option Source :=
  match x.relay with
  | some t => t.pump.source.source?
  | none =>
    match x.backendCall, x.backendAnswer with
    | .answered, some (.ok response) => response.body.source?
    | _, _ =>
      match x.clientBody with
      | some (.direct body) => body.source?
      | _ => none

/-- The source of the request body, wherever it is held. -/
def requestSource? (x : Exchange) : Option Source :=
  match x.upload with
  | some t => t.pump.source.source?
  | none => x.inbound.source?

/-- One more item of the response body arrives. -/
def pushResponse (x : Exchange) (item : Item) : Exchange :=
  match x.relay with
  | some t => { x with relay := some { t with pump := { t.pump with source := t.pump.source.push item } } }
  | none =>
    match x.backendCall, x.backendAnswer with
    | .answered, some (.ok response) =>
      { x with backendAnswer := some (.ok { response with body := response.body.push item }) }
    | _, _ =>
      match x.clientBody with
      | some (.direct body) => { x with clientBody := some (.direct (body.push item)) }
      | _ => x

/-! ## What an action can do -/

variable {x y : Exchange}

/-- The client reads a body of its own, or from the pipe of the relay. -/
theorem clientRead_cases {item : Option Item} (h : x.clientRead = some (item, y)) :
    (∃ body rest, x.clientBody = some (.direct body) ∧ y = { x with clientBody := rest })
      ∨ ∃ t pipe, x.clientBody = some .relayed ∧ x.relay = some t ∧ t.pump.pipe.read = (item, pipe)
        ∧ y = { x with relay := some { t with pump := { t.pump with pipe } } } := by
  unfold clientRead at h
  split at h
  · cases h
  · rename_i body hc
    cases h
    exact .inl ⟨body, _, hc, rfl⟩
  · rename_i hc
    split at h
    · cases h
    · rename_i t ht
      cases h
      exact .inr ⟨t, _, hc, ht, rfl, rfl⟩

/-- The client gives up a body of its own, or the reading end of the relay's pipe. -/
theorem dropResponse_cases (h : x.dropResponse = some y) :
    (∃ body, x.clientBody = some (.direct body) ∧ y = { x with clientBody := none })
      ∨ (x.clientBody = some .relayed ∧ y = { x with
          clientBody := none
          relay := x.relay.map fun t => { t with pump := { t.pump with pipe := t.pump.pipe.closeReader } } }) := by
  unfold dropResponse at h
  split at h
  · cases h
  · rename_i body hc
    cases h
    exact .inl ⟨body, hc, rfl⟩
  · rename_i hc
    cases h
    exact .inr ⟨hc, rfl⟩

/-- The backend reads a body it was handed as a whole, or from the pipe of the upload. -/
theorem backendRead_cases {item : Option Item} (h : x.backendRead = some (item, y)) :
    (∃ body rest, x.backendBody = some (.complete body) ∧ y = { x with backendBody := rest })
      ∨ ∃ t pipe, x.backendBody = some .uploaded ∧ x.upload = some t ∧ t.pump.pipe.read = (item, pipe)
        ∧ y = { x with upload := some { t with pump := { t.pump with pipe } } } := by
  unfold backendRead at h
  split at h
  · cases h
  · rename_i body hb
    cases h
    exact .inl ⟨body, _, hb, rfl⟩
  · rename_i hb
    split at h
    · cases h
    · rename_i t ht
      cases h
      exact .inr ⟨t, _, hb, ht, rfl, rfl⟩

/-- The backend gives up a body it was handed as a whole, or the reading end of the upload's pipe. -/
theorem backendDropBody_cases (h : x.backendDropBody = some y) :
    (∃ body, x.backendBody = some (.complete body) ∧ y = { x with backendBody := none })
      ∨ (x.backendBody = some .uploaded ∧ y = { x with
          backendBody := none
          upload := x.upload.map fun t => { t with pump := { t.pump with pipe := t.pump.pipe.closeReader } } }) := by
  unfold backendDropBody at h
  split at h
  · cases h
  · rename_i body hb
    cases h
    exact .inl ⟨body, hb, rfl⟩
  · rename_i hb
    cases h
    exact .inr ⟨hb, rfl⟩

/-! ## What an action touches -/

theorem touches_pushRequest (x : Exchange) (item : Item) : ∃ inbound upload,
    x.pushRequest item = { x with inbound, upload } := by
  unfold pushRequest
  split <;> exact ⟨_, _, rfl⟩

theorem touches_clientRead {item : Option Item} (h : x.clientRead = some (item, y)) : ∃ relay clientBody,
    y = { x with relay, clientBody } := by
  rcases clientRead_cases h with ⟨_, _, -, rfl⟩ | ⟨_, _, -, -, -, rfl⟩ <;> exact ⟨_, _, rfl⟩

theorem touches_dropResponse (h : x.dropResponse = some y) : ∃ relay clientBody, y = { x with relay, clientBody } := by
  rcases dropResponse_cases h with ⟨_, -, rfl⟩ | ⟨-, rfl⟩ <;> exact ⟨_, _, rfl⟩

theorem touches_dropHandler (x : Exchange) : ∃ guard inbound backendCall log,
    x.dropHandler = { x with handler := .dropped, guard, inbound, backendCall, log } := by
  obtain ⟨log, h⟩ := touches_abandon (fail (trace { x with
    handler := .dropped, inbound := x.inbound.release, backendCall := _ } .clientLeft) .clientLeft)
  exact ⟨_, _, _, log, h⟩

theorem touches_allowResolve (h : x.allowResolve = some y) : y = { x with resolverReady := true } := by
  unfold allowResolve at h
  split at h
  · split at h
    · cases h
    · cases h
      rfl
  · cases h

theorem touches_backendRead {item : Option Item} (h : x.backendRead = some (item, y)) : ∃ upload backendBody,
    y = { x with upload, backendBody } := by
  rcases backendRead_cases h with ⟨_, _, -, rfl⟩ | ⟨_, _, -, -, -, rfl⟩ <;> exact ⟨_, _, rfl⟩

theorem touches_backendDropBody (h : x.backendDropBody = some y) : ∃ upload backendBody,
    y = { x with upload, backendBody } := by
  rcases backendDropBody_cases h with ⟨_, -, rfl⟩ | ⟨-, rfl⟩ <;> exact ⟨_, _, rfl⟩

theorem touches_answerBackend {answer : Except Cause Response} (h : x.answerBackend answer = some y) :
    y = { x with backendAnswer := some answer } := by
  unfold answerBackend at h
  split at h
  · cases h
    rfl
  · cases h

theorem touches_pushResponse (x : Exchange) (item : Item) : ∃ relay backendAnswer clientBody,
    x.pushResponse item = { x with relay, backendAnswer, clientBody } := by
  unfold pushResponse
  split
  · exact ⟨_, _, _, rfl⟩
  · split
    · exact ⟨_, _, _, rfl⟩
    · split <;> exact ⟨_, _, _, rfl⟩

end Exchange

end Gateway
