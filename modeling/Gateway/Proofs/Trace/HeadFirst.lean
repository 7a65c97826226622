import Gateway.Proofs.Delivery.Departure
import Gateway.Proofs.Trace.WellFormed

/-!
# The head and the end of a response

The head of a response and the end of its body are traced by different parts: the head by the handler, the end by the
relay that moves the body or, where the body is over, by the handler too. The handler traces the end of such a body while
it holds the head. A relay begins before the head is returned, so it may come to its end before or after that.
`Run.headOrder` says that this alone decides which of the two is traced first.
-/

namespace Gateway

open TraceEvent (Kind times Heralded)

namespace TraceStage

variable {c d : TraceStage} {ks news : List Kind}

/-- The end of a response is traced as its body turns out to be over or by a relay, and the head is not traced with it. -/
theorem Emits.of_answerEnded (emits : Emits c news d) (ended : .answerEnded ∈ news) :
    (c = composed ∨ ∃ headed, c = relaying headed) ∧ .answerHeaded ∉ news := by
  cases emits with
  | ended => exact ⟨.inl rfl, by decide⟩
  | relayEnded headed ends => exact ⟨.inr ⟨headed, rfl⟩, by cases ends <;> decide⟩
  | replies expected => cases expected <;> simp [reply] at ended
  | _ => simp at ended

/-- A relay that is at work behind the head finds it traced. -/
theorem Emitted.headed (emitted : Emitted c ks) (behind : c = relaying true) : .answerHeaded ∈ ks := by
  induction emitted with
  | nil => cases behind
  | snoc _ emits ih =>
    subst behind
    generalize hd : relaying true = d at emits
    cases emits with
    | silent => exact List.mem_append_left _ (ih hd.symm)
    | heads => exact List.mem_append_right _ (List.mem_singleton_self _)
    | relayEnded headed => cases headed <;> simp [relayed] at hd
    | _ => cases hd

end TraceStage

namespace Exchange

variable {x y z start : Exchange} {es : List Event}

/-! ## Order -/

/-- In which order the head of a response and its end are traced, where the exchange was `y` right before the end. -/
structure HeadOrder (x y : Exchange) : Prop where
  /-- the end is traced by the handler, or by a relay at work -/
  bearer : (∃ head, y.handler = .composed head)
    ∨ (y.relaying = some true ∧ (y.handler = .returned ∨ ∃ head, y.handler = .heading head .relayed))
  /-- the head comes first exactly where it had been returned -/
  headed : Heralded .answerHeaded [.answerEnded] x.kinds ↔ y.handler = .returned
  unheaded : y.handler ≠ .returned → Heralded .answerEnded [.answerHeaded] x.kinds

theorem handler_of_composed (h : x.stage = .composed) : ∃ head, x.handler = .composed head := by
  unfold stage at h
  split at h
  case h_7 head phase => exact ⟨head, phase⟩
  all_goals first | cases h | (split at h <;> first | cases h | (split at h <;> cases h))

theorem relaying_of_stage {headed : Bool} (h : x.stage = .relaying headed) : x.relaying = some true := by
  unfold stage at h
  split at h
  case h_8 => split at h <;> first | assumption | cases h
  case h_9 =>
    split at h
    · assumption
    · split at h <;> cases h
  all_goals cases h

/-- A relay at work behind the head or before it. -/
theorem Sound.relaying_phase (sound : x.Sound) (tunnelled : x.Tunnelled) (running : x.relaying = some true) :
    (x.handler = .returned ∨ ∃ head, x.handler = .heading head .relayed)
      ∧ x.stage = .relaying (decide (x.handler = .returned)) := by
  obtain ⟨t, relay, atWork⟩ := Option.map_eq_some_iff.1 running
  have head := (sound.streaming relay atWork).1
  exact ⟨head.phase, (stage_of_headStands head (tunnelled.absent_of_relaying running)).1 running⟩

/-- Right before the end of a response is traced its head is traced, if the handler has returned it, or still to come. -/
theorem Traced.headed_iff (traced : y.Traced) (sound : y.Sound)
    (stage : y.stage = .composed ∨ ∃ headed, y.stage = .relaying headed) :
    ((∃ head, y.handler = .composed head)
      ∨ (y.relaying = some true ∧ (y.handler = .returned ∨ ∃ head, y.handler = .heading head .relayed)))
      ∧ (.answerHeaded ∈ y.kinds ↔ y.handler = .returned) := by
  have listed : ([.answerHeaded], [.unbegun, .resolving, .connecting, .forwarding, .composed, .relaying false, .heading])
      ∈ TraceStage.onceOnly := by decide
  have unheaded (due : y.stage ∈ [.unbegun, .resolving, .connecting, .forwarding, .composed, .relaying false, .heading]) :
      .answerHeaded ∉ y.kinds := fun headed =>
    TraceEvent.times_eq_zero_iff.1 (traced.times_eq_zero listed due) _ headed (List.mem_singleton_self _)
  rcases stage with composed | ⟨headed, relaying⟩
  · obtain ⟨head, phase⟩ := handler_of_composed composed
    exact ⟨.inl ⟨head, phase⟩, iff_of_false (unheaded (by simp [composed])) (by simp [phase])⟩
  · have running := relaying_of_stage relaying
    obtain ⟨phase, stage⟩ := sound.relaying_phase traced.tunnelled running
    refine ⟨.inr ⟨running, phase⟩, ?_⟩
    by_cases returned : y.handler = .returned
    · rw [decide_eq_true returned] at stage
      exact iff_of_true (List.mem_filter.1 (traced.emitted.headed stage)).1 returned
    · rw [decide_eq_false returned] at stage
      exact iff_of_false (unheaded (by simp [stage])) returned

/-- An event by which the end of a response is traced does not trace its head, and nothing that follows changes which of
them came first. -/
theorem headOrder_of_step {e : Event} (traced : y.Traced) (sound : y.Sound) (step : Step y e z)
    (unended : .answerEnded ∉ y.kinds) (ended : .answerEnded ∈ z.kinds) (later : ∃ news, x.kinds = z.kinds ++ news) :
    x.HeadOrder y := by
  obtain ⟨events, goes⟩ := step.advances traced.tunnelled sound
  obtain ⟨news, rest⟩ := later
  have kept (k : Kind) (h : k.endsBody = false) : k ∈ TraceEvent.stageKinds events ↔ k ∈ events.map TraceEvent.kind := by
    simp [TraceEvent.stageKinds, List.mem_filter, h]
  have now : .answerEnded ∈ events.map TraceEvent.kind := by
    rw [goes.kinds] at ended
    exact (List.mem_append.1 ended).resolve_left unended
  obtain ⟨stage, apart⟩ := goes.emits.of_answerEnded ((kept _ rfl).2 now)
  obtain ⟨bearer, headed⟩ := traced.headed_iff sound stage
  have unheaded (unreturned : y.handler ≠ .returned) : .answerHeaded ∉ z.kinds := by
    rw [goes.kinds, List.mem_append, not_or]
    exact ⟨mt headed.1 unreturned, mt (kept _ rfl).2 apart⟩
  refine ⟨bearer, ⟨fun heralded => ?_, fun returned => ?_⟩, fun unreturned => ?_⟩ <;> rw [rest] at *
  · by_cases returned : y.handler = .returned
    · exact returned
    · exact absurd heralded (TraceEvent.not_heralded_of_mem ended (unheaded returned) news)
  · have before : Heralded .answerHeaded [.answerEnded] y.kinds :=
      TraceEvent.heralded_of_times (TraceEvent.times_eq_zero_iff.2 fun k hk => by rintro h; simp_all)
    rw [goes.kinds, List.append_assoc]
    exact before.append (.inl (headed.2 returned))
  · have before : Heralded .answerEnded [.answerHeaded] z.kinds :=
      TraceEvent.heralded_of_times (TraceEvent.times_eq_zero_iff.2 fun k hk => by rintro h; simp_all)
    exact before.append (.inl ended)

/-! ## Runs -/

theorem Run.extends_kinds (run : Run z es x) (sound : z.Sound) (traced : z.Traced) : ∃ news, x.kinds = z.kinds ++ news := by
  have reached : x.Sound ∧ x.Traced ∧ ∃ news, x.kinds = z.kinds ++ news := by
    refine run.invariant (I := fun _ x => x.Sound ∧ x.Traced ∧ ∃ news, x.kinds = z.kinds ++ news)
      ⟨sound, traced, [], (List.append_nil _).symm⟩ ?_
    rintro es x e y ⟨sound, traced, news, told⟩ step
    obtain ⟨events, goes⟩ := step.advances traced.tunnelled sound
    refine ⟨sound.step step, traced.advances goes, news ++ events.map TraceEvent.kind, ?_⟩
    rw [goes.kinds, told, List.append_assoc]
  exact reached.2.2

theorem Fresh.kinds (fresh : start.Fresh) : start.kinds = [] := by
  obtain ⟨profile, resolver, head, tls, client, inbound, ready, answer, socket, takeover, rfl⟩ := fresh
  rfl

/-- Whatever happens to a request and in whichever order: the head of the response is traced once at most, and where the
end is traced, it is so before the head exactly if the handler had not returned the head by then. -/
theorem Run.headOrder (fresh : start.Fresh) (run : Run start es x) :
    times [.answerHeaded] x.kinds ≤ 1
      ∧ (.answerEnded ∈ x.kinds → ∃ before y e z after, Run.Cut start es x before y e z after
        ∧ .answerEnded ∉ y.kinds ∧ .answerEnded ∈ z.kinds ∧ x.HeadOrder y) := by
  refine ⟨(run.traced fresh).times_le_one (by decide), fun ended => ?_⟩
  obtain ⟨before, y, e, z, after, cut, unended, now⟩ :=
    run.becomes (P := fun x => .answerEnded ∈ x.kinds) (by simp [fresh.kinds]) ended
  have soundly : y.Sound := cut.first.sound fresh
  have sofar : Run start (before ++ [e]) z := cut.first.snoc cut.step
  have later := cut.rest.extends_kinds (sofar.sound fresh) (sofar.traced fresh)
  exact ⟨before, y, e, z, after, cut, unended, now,
    headOrder_of_step (cut.first.traced fresh) soundly cut.step unended now later⟩

/-- A relay that moves a body of one chunk traces its end once the chunk was asked for, for which the head had to be out. -/
theorem headOrder_oneChunk : ∃ es x before y e z after, oneChunkAsked.Fresh ∧ Run oneChunkAsked es x
    ∧ .answerEnded ∈ x.kinds ∧ Run.Cut oneChunkAsked es x before y e z after ∧ x.HeadOrder y := by
  let es : List Event := oneChunkAnswered ++ [.handlerStepped 0, .handlerStepped 0, .relayStepped 0, .relayStepped 0,
    .clientRead none, .relayStepped 0, .relayStepped 0]
  have reached : (es.foldlM perform oneChunkAsked).any (fun x => .answerEnded ∈ x.kinds) = true := by decide +kernel
  obtain ⟨x, hx, h⟩ := (Option.any_eq_true _ _).1 reached
  have ended : .answerEnded ∈ x.kinds := of_decide_eq_true h
  have fresh : oneChunkAsked.Fresh := fresh_towards _ _ _
  have run : Run oneChunkAsked es x := run_of_perform hx
  obtain ⟨-, order⟩ := Run.headOrder fresh run
  obtain ⟨before, y, e, z, after, cut, -, -, order⟩ := order ended
  exact ⟨es, x, before, y, e, z, after, fresh, run, ended, cut, order⟩

/-- A response whose body is not known to be over and turns out to hold nothing. -/
def nothingStreamed : Response where
  head := { status := .ok, phrase := none, headers := .empty }
  body := .arriving (.ofItems [.done] false)

/-- Where the backend answers with no body at all, the end of the response is traced while its head is not; and where it
streams a body that holds nothing, the relay may trace the end before the handler returns the head. -/
theorem not_heralded_of_bodiless :
    (∃ es x, Run oneChunkAsked es x ∧ x.relay = none ∧ ¬Heralded .answerHeaded [.answerEnded] x.kinds)
      ∧ ∃ es x, Run oneChunkAsked es x ∧ x.relay ≠ none ∧ ¬Heralded .answerHeaded [.answerEnded] x.kinds := by
  have early (es : List Event) (before after : List Kind) (relayed : Bool) (h : (es.foldlM perform oneChunkAsked).any (fun x =>
        x.kinds = before ++ .answerEnded :: after ∧ x.relay.isSome = relayed) = true) (unheaded : .answerHeaded ∉ before) :
      ∃ x, Run oneChunkAsked es x ∧ x.relay.isSome = relayed ∧ ¬Heralded .answerHeaded [.answerEnded] x.kinds := by
    obtain ⟨x, hx, h⟩ := (Option.any_eq_true _ _).1 h
    obtain ⟨traced, relay⟩ := of_decide_eq_true h
    exact ⟨x, run_of_perform hx, relay, fun heralded =>
      unheaded (heralded _ _ _ traced (List.mem_singleton_self _))⟩
  let asked : List Event := [.arrived ⟨0⟩, .resolverAllowed, .handlerStepped 0]
  let handled : List Event := [.handlerStepped 0, .handlerStepped 0, .handlerStepped 0]
  let begun : List Kind := [.requestStarted, .hopResolved, .requestEnded, .forwardStarted, .responseStarted, .answerStarted,
    .responseEnded]
  obtain ⟨x, whole, alone, unheralded⟩ :=
    early (asked ++ [.backendAnswered (.ok (.bodiless .ok))] ++ handled ++ [.handlerStepped 0]) begun [.answerHeaded] false
      (by decide +kernel) (by decide)
  obtain ⟨y, streamed, beside, overtaken⟩ :=
    early (asked ++ [.backendAnswered (.ok nothingStreamed)] ++ handled ++ [.relayStepped 0, .relayStepped 0,
      .handlerStepped 0]) begun [.answerHeaded] true (by decide +kernel) (by decide)
  exact ⟨⟨_, x, whole, by simpa using alone, unheralded⟩,
    ⟨_, y, streamed, Option.isSome_iff_ne_none.1 beside, overtaken⟩⟩

end Exchange

end Gateway
