import Gateway.Proofs.Outcome.Standing

/-!
# What happens aside of the end of a request

Most events leave the standing as it is: they move items of a body, or deposit an answer. `Step.turn` says which others
there are: the arrival, the departure of a client that waits, and the steps of handler, upload and relay.
-/

namespace Gateway

namespace Exchange

variable {x y : Exchange}

/-! ## Events that change no standing -/

theorem frame_pushRequest (x : Exchange) (item : Item) : Frame x (x.pushRequest item) := by
  unfold pushRequest
  split
  · rename_i t ht
    exact .unlogged rfl rfl rfl rfl (fun h => by simp [h] at ht) (fun _ => id) (fun _ => id) id rfl rfl
  · exact .of_eq rfl rfl rfl rfl rfl rfl rfl rfl rfl rfl rfl

/-- A change of the relay's pump that leaves it at work or not. -/
theorem frame_relay (x : Exchange) {t u : Transfer} (ht : x.relay = some t) (h : u.running = t.running) :
    Frame x { x with relay := some u } :=
  .of_eq rfl rfl rfl rfl rfl rfl rfl rfl rfl (by simp [relaying, ht, h]) rfl

/-- A change of the upload alone. -/
theorem frame_upload (x : Exchange) {t : Transfer} (ht : x.upload = some t) (u : Option Transfer) :
    Frame x { x with upload := u } :=
  .unlogged rfl rfl rfl rfl (fun h => by simp [h] at ht) (fun _ => id) (fun _ => id) id rfl rfl

theorem frame_clientRead {item : Option Item} (h : x.clientRead = some (item, y)) : Frame x y := by
  rcases clientRead_cases h with ⟨_, _, held, rfl⟩ | ⟨t, _, -, ht, -, rfl⟩
  · exact .unlogged rfl rfl rfl rfl id (fun _ => id) (fun _ => id) (fun none => by simp [none] at held) rfl rfl
  · exact frame_relay x ht rfl

theorem frame_dropResponse (h : x.dropResponse = some y) : Frame x y := by
  rcases dropResponse_cases h with ⟨_, -, rfl⟩ | ⟨-, rfl⟩
  · exact .unlogged rfl rfl rfl rfl id (fun _ => id) (fun _ => id) (fun _ => rfl) rfl rfl
  · refine .unlogged rfl rfl rfl rfl id (fun _ => id) (fun _ => id) (fun _ => rfl) ?_ rfl
    simp only [relaying, Option.map_map]
    rfl

theorem frame_allowResolve (h : x.allowResolve = some y) : Frame x y := by
  obtain rfl := touches_allowResolve h
  exact .of_eq rfl rfl rfl rfl rfl rfl rfl rfl rfl rfl rfl

theorem frame_backendRead {item : Option Item} (h : x.backendRead = some (item, y)) : Frame x y := by
  rcases backendRead_cases h with ⟨_, _, -, rfl⟩ | ⟨t, _, -, ht, -, rfl⟩
  · exact .of_eq rfl rfl rfl rfl rfl rfl rfl rfl rfl rfl rfl
  · exact frame_upload x ht _

theorem frame_backendDropBody (h : x.backendDropBody = some y) : Frame x y := by
  rcases backendDropBody_cases h with ⟨_, -, rfl⟩ | ⟨-, rfl⟩
  · exact .of_eq rfl rfl rfl rfl rfl rfl rfl rfl rfl rfl rfl
  · exact .unlogged rfl rfl rfl rfl (fun h => by simp [h]) (fun _ => id) (fun _ => id) id rfl rfl

/-- A backend that has answered does not answer again. -/
theorem frame_answerBackend {answer : Except Cause Response} (h : x.answerBackend answer = some y) : Frame x y := by
  have asked : x.backendCall = .waiting := by
    unfold answerBackend at h
    split at h
    · assumption
    · cases h
  obtain rfl := touches_answerBackend h
  refine .unlogged rfl rfl rfl rfl id (fun _ => id) (fun _ holds => ?_) id rfl rfl
  rw [holds.1] at asked
  cases asked

theorem frame_pushResponse (x : Exchange) (item : Item) : Frame x (x.pushResponse item) := by
  unfold pushResponse
  split
  · rename_i t ht
    exact frame_relay x ht rfl
  · split
    · rename_i response call answer
      refine .unlogged rfl rfl rfl rfl id (fun _ => id) (fun head holds => ⟨call, _, rfl, ?_⟩) id rfl rfl
      obtain ⟨-, held, answered, same⟩ := holds
      rw [answer] at answered
      cases answered
      exact same
    · split
      · rename_i held
        exact .unlogged rfl rfl rfl rfl id (fun _ => id) (fun _ => id) (fun none => by simp [none] at held) rfl rfl
      · exact .of_eq rfl rfl rfl rfl rfl rfl rfl rfl rfl rfl rfl

/-- What is only traced changes no standing, the end of the response apart. -/
theorem frame_trace (x : Exchange) {e : TraceEvent} (h : e ≠ .answerEnded) : Frame x (x.trace e) := by
  refine ⟨rfl, rfl, rfl, rfl, id, fun _ => id, fun _ => id, id, rfl, milestones_trace x e, ?_, ?_⟩
  · intro o ho
    exact List.mem_append_left _ ho
  · intro o ho
    rcases List.mem_append.1 ho with hx | he
    · exact .inl hx
    · exact .inr ⟨e, List.mem_singleton.1 he, h⟩

theorem Frame.trans {z : Exchange} (f : Frame x y) (g : Frame y z) : Frame x z where
  profile := g.profile.trans f.profile
  context := g.context.trans f.context
  handler := g.handler.trans f.handler
  guard := g.guard.trans f.guard
  upload := fun h => g.upload (f.upload h)
  error := fun idle whole => g.error (f.upload idle) (f.error idle whole)
  holds := fun head h => g.holds head (f.holds head h)
  unclaimed := fun h => g.unclaimed (f.unclaimed h)
  relaying := g.relaying.trans f.relaying
  milestones := g.milestones.trans f.milestones
  log := fun o h => g.log o (f.log o h)
  news := by
    intro o ho
    rcases g.news o ho with hy | hz
    · exact f.news o hy
    · exact .inr hz

theorem frame_endTunnel (x : Exchange) (result : Except Cause Unit) : Frame x (x.endTunnel result) := by
  unfold endTunnel
  split
  · have ended : Frame x { x with tunnel := .over } := .of_eq rfl rfl rfl rfl rfl rfl rfl rfl rfl rfl rfl
    refine ended.trans (frame_trace _ ?_)
    split <;> simp
  · exact .of_eq rfl rfl rfl rfl rfl rfl rfl rfl rfl rfl rfl

theorem frame_stepTunnel (h : x.stepTunnel = some y) : Frame x y := by
  have phase (p : TunnelPhase) : Frame x { x with tunnel := p } := .of_eq rfl rfl rfl rfl rfl rfl rfl rfl rfl rfl rfl
  unfold stepTunnel at h
  split at h
  · cases h
    exact (phase .opened).trans (frame_trace _ (by simp))
  · cases h
    exact (phase .over).trans (frame_trace _ (by simp))
  · cases h

/-! ## Turns -/

/-- An event moves an exchange aside of its end, or makes one of five turns. -/
inductive Turn (x : Exchange) : Exchange → Prop where
  | aside {y : Exchange} (frame : Frame x y) : Turn x y
  | arrived (ids : RequestIds) (idle : x.handler = .idle) : Turn x (x.arrive ids).1
  /-- the client left before the head went out -/
  | deserted (waiting : x.isWaiting) : Turn x x.dropHandler
  | handler {y : Exchange} {now : Nat} (step : x.stepHandler now = some y) : Turn x y
  | upload {y : Exchange} {now : Nat} (moves : UploadMoves x now y) : Turn x y
  | relay {y : Exchange} {now : Nat} (moves : RelayMoves x now y) : Turn x y

theorem Step.turn {e : Event} (hs : Step x e y) : Turn x y := by
  cases hs with
  | arrive ids idle => exact .arrived ids idle
  | pushRequest item => exact .aside (frame_pushRequest x item)
  | clientRead h => exact .aside (frame_clientRead h)
  | leave h =>
    unfold dropClient at h
    split at h
    · rename_i waiting
      cases h
      exact .deserted waiting
    · exact .aside (frame_dropResponse h)
  | allow h => exact .aside (frame_allowResolve h)
  | backendRead h => exact .aside (frame_backendRead h)
  | backendDrop h => exact .aside (frame_backendDropBody h)
  | answer h => exact .aside (frame_answerBackend h)
  | pushResponse item _ => exact .aside (frame_pushResponse x item)
  | answerSocket answer | giveConnection takeover => exact .aside (.of_eq rfl rfl rfl rfl rfl rfl rfl rfl rfl rfl rfl)
  | endTunnel result => exact .aside (frame_endTunnel x result)
  | handler h => exact .handler h
  | upload h => exact .upload (uploadMoves_of_stepUpload h)
  | relay h => exact .relay (relayMoves_of_stepRelay h)
  | moveUpload h => exact .upload (uploadMoves_of_moveUpload h)
  | moveRelay h => exact .relay (relayMoves_of_moveRelay h)
  | tunnel h => exact .aside (frame_stepTunnel h)

end Exchange

end Gateway
