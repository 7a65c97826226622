import Gateway.Proofs.Delivery.Upload

/-!
# Nothing outlives a failure

An upload carries the request body to the backend as a relay carries the response to the client (`Feeds`), but a backend
that stops reading is no failure, and an upload that ends well does not end the request. So the outcome of its
`Delivery` is its own.

The main theorem is `Run.nothing_outlives`: where a request has failed and no part can move, no transfer is at work, the
bodies are given up, and who still reads one that is not complete meets a failure.
-/

namespace Gateway

/-- The pump of a transfer has moved everything. -/
def Transfer.HasMoved (t : Transfer) : Prop := ∃ bytes, t.pump.result? = some (.moved bytes)

/-- A transfer that is over, and has given its body up. -/
structure Transfer.Stopped (t : Transfer) : Prop where
  running : t.running = false
  released : ∀ s, t.pump.source.source? = some s → s.released = true

namespace Exchange

variable {x y start : Exchange} {announced : BodyLength} {offered taken : List Item} {t : Transfer} {es : List Event}
  {e : Event}

/-! ## What an upload has carried -/

/-- The upload of an exchange, what it was offered and what the backend took. -/
structure Feeds (announced : BodyLength) (offered taken : List Item) (t : Transfer) (x : Exchange) : Prop where
  upload : x.upload = some t
  backend : x.backendBody = none ∨ (x.backendBody = some .uploaded ∧ t.pump.pipe.reader = true)
  /-- the outcome is that of the upload alone -/
  delivery : ∃ o, Delivery announced offered taken t o ∧ (o = some .completed → t.HasMoved)

/-- When an upload begins, nothing of the body was read, and nothing was taken. -/
theorem Step.feeds (step : Step x e y) (hx : x.upload = none) (hy : y.upload = some t) :
    ∃ body length, x.inbound = .streamed body ∧ Feeds length body.items [] t y := by
  obtain ⟨body, length, inbound, begun⟩ := step.upload_begins hx (by simp [hy])
  obtain rfl := Option.some.inj (begun.upload.symm.trans hy)
  exact ⟨body, length, inbound, begun.upload, .inr ⟨begun.backend, rfl⟩, none, .flowing rfl (Pump.Flow.new _ _ _), nofun⟩

namespace Feeds

theorem push (h : Feeds announced offered taken t x) (item : Item) :
    ∃ u, Feeds announced (offered ++ [item]) taken u (x.pushRequest item) := by
  obtain ⟨o, delivery, moved⟩ := h.delivery
  refine ⟨{ t with pump := t.pump.push item }, ?_⟩
  unfold pushRequest
  simp only [h.upload]
  exact ⟨rfl, h.backend, o, delivery.push item, moved⟩

theorem read {item : Option Item} (h : Feeds announced offered taken t x) (hy : x.backendRead = some (item, y)) :
    ∃ u, Feeds announced offered (taken ++ item.toList) u y := by
  rcases backendRead_cases hy with ⟨_, _, complete, rfl⟩ | ⟨u, pipe, hb, hu, read, rfl⟩
  · rcases h.backend with hb | ⟨hb, -⟩ <;> simp [hb] at complete
  · obtain rfl : t = u := Option.some.inj (h.upload.symm.trans hu)
    have there : t.pump.pipe.reader = true := by simpa [hb] using h.backend
    obtain ⟨o, delivery, moved⟩ := h.delivery
    exact ⟨_, rfl, .inr ⟨hb, (Pipe.read_spec read).1.trans there⟩, o, delivery.read there read, moved⟩

theorem drop (h : Feeds announced offered taken t x) (hy : x.backendDropBody = some y) :
    ∃ u, Feeds announced offered taken u y := by
  rcases backendDropBody_cases hy with ⟨_, complete, rfl⟩ | ⟨hb, rfl⟩
  · rcases h.backend with hb | ⟨hb, -⟩ <;> simp [hb] at complete
  · obtain ⟨o, delivery, moved⟩ := h.delivery
    exact ⟨_, by rw [h.upload]; rfl, .inl rfl, o, delivery.leave, moved⟩

/-- The upload of an exchange goes on as a transfer that delivers. -/
theorem goesOn {u : Transfer} {o : Option Outcome} (h : Feeds announced offered taken t x) (upload : y.upload = some u)
    (backend : y.backendBody = x.backendBody) (reader : u.pump.pipe.reader = t.pump.pipe.reader)
    (delivery : Delivery announced offered taken u o) (moved : o = some .completed → u.HasMoved) :
    Feeds announced offered taken u y where
  upload := upload
  backend := by
    rw [backend, reader]
    exact h.backend
  delivery := ⟨o, delivery, moved⟩

theorem moves {now : Nat} (h : Feeds announced offered taken t x) (one : (trailerFields (frames offered)).length ≤ 1)
    (hy : UploadMoves x now y) : ∃ u, Feeds announced offered taken u y := by
  obtain ⟨o, delivery, moved⟩ := h.delivery
  cases hy with
  | records => exact ⟨t, h.goesOn h.upload rfl rfl delivery moved⟩
  | @cancels u failure hu running =>
    obtain rfl : t = u := Option.some.inj (h.upload.symm.trans hu)
    exact ⟨_, h.goesOn rfl rfl t.reader_cancel (delivery.cancels running rfl ⟨failure, rfl⟩) nofun⟩
  | @goesOn u pump hu running step unended =>
    obtain rfl : t = u := Option.some.inj (h.upload.symm.trans hu)
    have moves := Pump.move_of_step step
    have kept : Delivery announced offered taken { t with pump } none := delivery.moves running moves unended
    exact ⟨_, h.goesOn rfl rfl (Pump.reader_of_move moves) kept nofun⟩
  | @ends u pump result hu running step ended =>
    obtain rfl : t = u := Option.some.inj (h.upload.symm.trans hu)
    have moves := Pump.move_of_step step
    have pipe := Pump.pipe_of_ended moves ended
    have same : pump.pipe.reader = t.pump.pipe.reader := Pump.reader_of_move moves
    obtain ⟨backend, upload⟩ := upload_endUpload (x := x) { t with pump } result
    have given := (Transfer.reader_cancel { t with pump }).trans same
    cases result with
    | moved bytes =>
      exact ⟨_, h.goesOn upload backend same (delivery.closes running moves ended rfl) fun _ => ⟨bytes, ended⟩⟩
    | sinkClosed =>
      -- a backend that has left takes nothing any more
      have gone := delivery.gone running moves ended one
      have left : Delivery announced offered taken (Transfer.close { t with pump }) none :=
        delivery.departed running gone (same.trans gone)
      exact ⟨_, h.goesOn upload backend same left nofun⟩
    | sourceFailed cause =>
      exact ⟨_, h.goesOn upload backend given (delivery.cancels running pipe ⟨.requestBody cause, rfl⟩) nofun⟩
    | timedOut limit =>
      exact ⟨_, h.goesOn upload backend given (delivery.cancels running pipe
        ⟨.requestBody (.receiveTimeout limit), rfl⟩) nofun⟩

/-- Every event keeps what is known of the upload. -/
theorem step (h : Feeds announced offered taken t x) (sound : x.Sound) (step : Step x e y)
    (one : (trailerFields (frames offered)).length ≤ 1) :
    ∃ u, Feeds announced (offered ++ e.pushes) (taken ++ e.fetches) u y := by
  cases step.uploading sound (by simp [h.upload]) with
  | push item =>
    obtain ⟨u, hu⟩ := h.push item
    exact ⟨u, by simpa [Event.pushes, Event.fetches] using hu⟩
  | read hy =>
    obtain ⟨u, hu⟩ := h.read hy
    exact ⟨u, by simpa [Event.pushes, Event.fetches] using hu⟩
  | dropped hy =>
    obtain ⟨u, hu⟩ := h.drop hy
    exact ⟨u, by simpa [Event.pushes, Event.fetches] using hu⟩
  | step moves pushes fetches =>
    rw [pushes, fetches, List.append_nil, List.append_nil]
    exact h.moves one moves
  | apart upload _ backend pushes fetches =>
    rw [pushes, fetches, List.append_nil, List.append_nil]
    obtain ⟨o, delivery, moved⟩ := h.delivery
    exact ⟨t, h.goesOn (upload.trans h.upload) backend rfl delivery moved⟩

theorem run (h : Feeds announced offered taken t x) (sound : x.Sound) (run : Run x es y)
    (one : (trailerFields (frames (offered ++ pushesOf es))).length ≤ 1) :
    ∃ u, Feeds announced (offered ++ pushesOf es) (taken ++ fetchesOf es) u y := by
  induction run with
  | refl => exact ⟨t, by simpa [pushesOf, fetchesOf] using h⟩
  | @snoc es y e z run step ih =>
    have pushes : offered ++ pushesOf (es ++ [e]) = offered ++ pushesOf es ++ e.pushes := by simp [pushesOf]
    have fetches : taken ++ fetchesOf (es ++ [e]) = taken ++ fetchesOf es ++ e.fetches := by simp [fetchesOf]
    rw [pushes] at one ⊢
    rw [fetches]
    -- what has at most one trailers item had no more before
    have fewer := trailerFields_mono (frames_mono (List.prefix_append (offered ++ pushesOf es) e.pushes))
    have before := Nat.le_trans fewer.length_le one
    obtain ⟨u, hu⟩ := ih before
    have ys : y.Sound := run.invariant (I := fun _ y => y.Sound) sound fun h hs => h.step hs
    exact hu.step ys step before

end Feeds

/-- The run began to upload this body, and these events have followed. -/
def UploadSince (start : Exchange) (es : List Event) (x : Exchange) (body : Body) (after : List Event) : Prop :=
  ∃ before y e z, Run.Cut start es x before y e z after ∧ y.upload = none ∧ z.upload ≠ none ∧ y.inbound = .streamed body

theorem UploadSince.feeds {after : List Event} {body : Body} (fresh : start.Fresh)
    (since : UploadSince start es x body after) (one : (trailerFields (frames (body.items ++ pushesOf after))).length ≤ 1) :
    ∃ length t, Feeds length (body.items ++ pushesOf after) (fetchesOf after) t x := by
  obtain ⟨before, y, e, z, cut, idle, atWork, inbound⟩ := since
  obtain ⟨t, ht⟩ := Option.ne_none_iff_exists'.1 atWork
  obtain ⟨other, length, inbound', begun⟩ := cut.step.feeds idle ht
  obtain rfl : body = other := InboundBody.streamed.inj (inbound.symm.trans inbound')
  obtain ⟨u, hu⟩ := begun.run ((cut.first.sound fresh).step cut.step) cut.rest one
  exact ⟨length, u, hu⟩

theorem Run.uploadSince (run : Run start es x) (hs : start.upload = none) (hx : x.upload ≠ none) :
    ∃ body after, UploadSince start es x body after := by
  obtain ⟨before, y, e, z, after, cut, hy, hz⟩ := run.becomes (P := fun x => x.upload ≠ none) (by simp [hs]) hx
  have idle : y.upload = none := Decidable.not_not.1 hy
  obtain ⟨body, -, inbound, -⟩ := cut.step.upload_begins idle hz
  exact ⟨body, after, before, y, e, z, cut, idle, hz, inbound⟩

/-! ## What a reader can tell -/

/-- What who reads a body finds, after it has taken some of what was offered: a clean end is the end of all of it. Where
the request has failed and no part can move, a reader that is still there finds a failure, unless the transfer ended
well. -/
structure Honest (x : Exchange) (event : Option Item → Event) (offered taken : List Item) (there ended : Prop) :
    Prop where
  whole : ∀ before rest, taken = before ++ .done :: rest → (∀ cause, .failure cause ∉ before) →
    ended ∧ frames offered ++ [.done] <+: offered ∧ chunks before = chunks (frames offered)
      ∧ trailerFields before = trailerFields (frames offered)
  broken : ∀ now failure, x.Blocked now → x.guard.failure = some failure → there → ¬ended → x.MeetsFailure event taken

/-- The backend has the reading end of this pipe. -/
def BackendHolds (x : Exchange) (pipe : Pipe) : Prop :=
  x.backendBody = some .uploaded ∧ ∃ t, x.upload = some t ∧ t.pump.pipe = pipe

theorem reader_backend : Reader .backendRead BackendHolds where
  step := by
    rintro x _ rest item ⟨hb, t, ht, rfl⟩ read
    have reads : x.backendRead
        = some (some item, { x with upload := some { t with pump := { t.pump with pipe := rest } } }) := by
      simp only [backendRead, hb, ht, read]
    exact ⟨_, .backendRead reads, hb, _, rfl, rfl⟩

/-! ## Where no part can move -/

/-- A transfer at work would find the failure and give up. -/
theorem Sound.stopped (h : x.Sound) {now : Nat} (blocked : x.Blocked now) {failure : Rejection}
    (failed : x.guard.failure = some failure) :
    (∀ t, x.upload = some t → t.running = false) ∧ ∀ t, x.relay = some t → t.running = false := by
  have recorded : x.guard.awaitFailure = some failure := h.signalled.awaitFailure.trans failed
  obtain ⟨-, upload_blocked, relay_blocked, -⟩ := blocked_iff.1 blocked
  exact ⟨fun t => (not_running_of_blocked recorded).1 upload_blocked,
    fun t => (not_running_of_blocked recorded).2 relay_blocked⟩

/-- Transfers that are over have given their bodies up. -/
theorem Run.letsGo (run : Run start es x) (fresh : start.Fresh) :
    (∀ t, x.upload = some t → LetsGo t) ∧ ∀ t, x.relay = some t → LetsGo t := by
  induction run with
  | refl =>
    obtain ⟨-, -, upload, relay⟩ := fresh.idle
    exact ⟨by simp [upload], by simp [relay]⟩
  | snoc run step ih =>
    have sound := run.sound fresh
    exact ⟨upload_kept kept_letsGo step sound (fun _ _ => nofun) ih.1,
      relay_kept kept_letsGo step sound (fun _ _ => nofun) ih.2⟩

theorem Feeds.honest (h : Feeds announced offered taken t x) (sound : x.Sound) :
    x.Honest .backendRead offered taken (x.backendBody = some .uploaded) (∃ t, x.upload = some t ∧ t.HasMoved) := by
  obtain ⟨o, delivery, moved⟩ := h.delivery
  constructor
  · intro before rest ht clean
    obtain ⟨completed, all⟩ := delivery.clean ht clean
    exact ⟨⟨t, h.upload, moved completed⟩, all⟩
  · intro now failure blocked failed there unmoved
    have stopped := (sound.stopped blocked failed).1 t h.upload
    cases delivery with
    | flowing running =>
      rw [running] at stopped
      cases stopped
    | whole _ completed => exact absurd ⟨t, h.upload, moved completed⟩ unmoved
    | broken _ _ _ _ _ stream => exact reader_backend.meets ⟨there, t, h.upload, rfl⟩ stream
    | left gone =>
      rcases h.backend with none | ⟨-, reader⟩
      · rw [there] at none
        cases none
      · rw [reader] at gone
        cases gone

theorem Relays.honest (h : Relays announced offered taken t x) (sound : x.Sound) :
    x.Honest .clientRead offered taken (x.clientBody = some .relayed) (x.guard.outcome = some .completed) where
  whole := fun _ _ ht clean => h.delivery.clean ht clean
  broken := fun _ _ blocked failed there _ => h.meets_failure sound (Guard.failure_eq_some_iff.1 failed) blocked there

/-! ## Every run -/

/-- Where a request has failed and no part can move, the transfers are over and have given their bodies up. In every
state, who reads the request body or the response to a clean end has read all of it; who is still there after a failure,
with something missing, meets a failure first. Of the request body this says that the backend takes no part of it for
the whole. -/
theorem Run.nothing_outlives (fresh : start.Fresh) (run : Run start es x) :
    (∀ now failure, x.Blocked now → x.guard.failure = some failure →
        (∀ t, x.upload = some t → t.Stopped) ∧ ∀ t, x.relay = some t → t.Stopped)
      ∧ (x.upload ≠ none → ∃ body after, UploadSince start es x body after)
      ∧ (∀ body after, UploadSince start es x body after →
          (trailerFields (frames (body.items ++ pushesOf after))).length ≤ 1 →
          x.Honest .backendRead (body.items ++ pushesOf after) (fetchesOf after) (x.backendBody = some .uploaded)
            (∃ t, x.upload = some t ∧ t.HasMoved))
      ∧ (x.relay ≠ none → ∃ response after, RelaySince start es x response after)
      ∧ (∀ response after, RelaySince start es x response after →
          x.Honest .clientRead (response.body.items ++ offersOf after) (takesOf after)
            (x.clientBody = some .relayed) (x.guard.outcome = some .completed)) := by
  have sound : x.Sound := run.sound fresh
  obtain ⟨-, -, upload, relay⟩ := fresh.idle
  refine ⟨?_, run.uploadSince upload, ?_, run.relaySince relay, ?_⟩
  · intro now failure blocked failed
    obtain ⟨upload_stopped, relay_stopped⟩ := sound.stopped blocked failed
    obtain ⟨upload_goes, relay_goes⟩ := run.letsGo fresh
    exact ⟨fun t ht => ⟨upload_stopped t ht, upload_goes t ht (upload_stopped t ht)⟩,
      fun t ht => ⟨relay_stopped t ht, relay_goes t ht (relay_stopped t ht)⟩⟩
  · intro body after since one
    obtain ⟨length, t, feeds⟩ := since.feeds fresh one
    exact feeds.honest sound
  · intro response after since
    obtain ⟨t, relays⟩ := since.relays fresh
    exact relays.honest sound

/-- A request body breaks off after one chunk. Once nothing moves any more, the backend that has taken the chunk finds a
failure behind it. -/
theorem nothing_outlives_brokenUpload : ∃ es x body after, brokenUpload.Fresh ∧ Run brokenUpload es x
    ∧ x.guard.failure = some (.requestBody .pipeAborted) ∧ x.Blocked 0 ∧ UploadSince brokenUpload es x body after
    ∧ (∀ t, x.upload = some t → t.Stopped) ∧ fetchesOf after = [.data [1]]
    ∧ x.MeetsFailure .backendRead (fetchesOf after) := by
  let body : Body := .arriving (.ofItems [.data [1], .failure .pipeAborted] false)
  let before : List Event := [.arrived ⟨0⟩, .resolverAllowed]
  let after : List Event := [.uploadStepped 0, .uploadStepped 0, .backendRead none, .uploadStepped 0,
    .backendRead (some (.data [1])), .uploadStepped 0, .uploadStepped 0, .handlerStepped 0]
  have reached : (before.foldlM perform brokenUpload).any (fun y => y.upload.isNone ∧ y.inbound = .streamed body
      ∧ (y.perform (.handlerStepped 0)).any fun z => z.upload.isSome ∧ (after.foldlM perform z).any fun x =>
        x.guard.failure = some (.requestBody .pipeAborted) ∧ (x.step 0).isNone ∧ x.backendBody = some .uploaded
          ∧ x.upload.all fun t => t.pump.result? = some (.sourceFailed .pipeAborted)) = true := by decide +kernel
  obtain ⟨y, hy, h⟩ := (Option.any_eq_true _ _).1 reached
  obtain ⟨idle, inbound, h⟩ := of_decide_eq_true h
  obtain ⟨z, hz, h⟩ := (Option.any_eq_true _ _).1 h
  obtain ⟨begun, h⟩ := of_decide_eq_true h
  obtain ⟨x, hx, h⟩ := (Option.any_eq_true _ _).1 h
  obtain ⟨failed, blocked, there, ended⟩ := of_decide_eq_true h
  have fresh : brokenUpload.Fresh := fresh_towards _ _ _
  have step : Step y (.handlerStepped 0) z := step_of_perform hz
  have first : Run brokenUpload before y := run_of_perform hy
  have rest : Run z after x := run_of_perform hx
  have run : Run brokenUpload (before ++ .handlerStepped 0 :: after) x := by
    rw [List.append_cons]
    exact (first.snoc step).trans rest
  have since : UploadSince brokenUpload (before ++ .handlerStepped 0 :: after) x body after :=
    ⟨before, y, _, z, ⟨rfl, first, step, rest⟩, Option.isNone_iff_eq_none.1 idle, Option.isSome_iff_ne_none.1 begun,
      inbound⟩
  have unmoved : ¬∃ t, x.upload = some t ∧ t.HasMoved := by
    rintro ⟨t, ht, bytes, moved⟩
    have broken := of_decide_eq_true (by simpa only [ht, Option.all_some] using ended)
    rw [moved] at broken
    cases broken
  have rests : x.Blocked 0 := Option.isNone_iff_eq_none.1 blocked
  obtain ⟨stopped, -, upload, -⟩ := Run.nothing_outlives fresh run
  have honest := upload body after since (by decide)
  exact ⟨_, x, body, after, fresh, run, failed, rests, since, (stopped 0 _ rests failed).1, rfl,
    honest.broken 0 _ rests failed there unmoved⟩

end Exchange

end Gateway
