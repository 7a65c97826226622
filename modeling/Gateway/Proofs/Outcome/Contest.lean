import Gateway.Guard

/-!
# A guard that many call at once

Whoever ends a request does so by steps. An outcome is recorded, unless there is one; a call that has recorded a failure
signals it; then the call returns. Whoever waits for a failure sees the signal first and looks for the failure then. Other
calls are made in between, others wait, and anybody may look at the outcome. `Contest` is a guard in the midst of this.

The call that recorded the outcome is the only one that wins, and nobody else signals anything (`Wins`). There may be a
failure that was not signalled yet, but never a signal without a failure.

The main theorem is `Contest.Run.settles_once`.
-/

namespace Gateway

namespace Guard

/-- Ends the request with an outcome; the answer says whether this call did. -/
def settle (g : Guard) : Outcome → Bool × Guard
  | .completed => g.complete
  | .failed failure => g.fail failure

theorem awaitFailure_eq_some_iff {g : Guard} {f : Rejection} :
    g.awaitFailure = some f ↔ g.signalled = true ∧ g.failure = some f := by
  unfold awaitFailure
  split <;> simp [*]

/-- What was recorded and signalled stays so. -/
structure Later (g h : Guard) : Prop where
  outcome : ∀ o, g.outcome = some o → h.outcome = some o
  signalled : g.signalled = true → h.signalled = true

theorem Later.refl (g : Guard) : Later g g := ⟨fun _ => id, id⟩

theorem Later.trans {g h k : Guard} (first : Later g h) (second : Later h k) : Later g k where
  outcome := fun o recorded => second.outcome o (first.outcome o recorded)
  signalled := fun signalled => second.signalled (first.signalled signalled)

theorem later_record (g : Guard) (o : Outcome) : Later g (g.record o).2 := by
  cases h : g.outcome with
  | none =>
    refine ⟨fun p recorded => ?_, fun signalled => by simpa [record, h] using signalled⟩
    rw [h] at recorded
    cases recorded
  | some p =>
    rw [record_of_set h]
    exact .refl g

theorem later_signal (g : Guard) : Later g g.signal := ⟨fun _ => id, fun _ => rfl⟩

end Guard

/-- How far a call is. -/
inductive CallStage where
  | made
  /-- it has recorded its failure, and has to signal it -/
  | recorded
  /-- it knows its answer -/
  | decided (won : Bool)
  | returned (won : Bool)
deriving DecidableEq

namespace CallStage

/-- What comes after the attempt to record an outcome. -/
def after : Outcome → Bool → CallStage
  | .failed _, true => recorded
  | _, won => decided won

/-- The call has recorded the outcome. -/
def won : CallStage → Bool
  | made => false
  | recorded => true
  | decided won | returned won => won

theorem after_lost (o : Outcome) : after o false = decided false := by cases o <;> rfl

theorem won_after (o : Outcome) (won : Bool) : (after o won).won = won := by cases o <;> cases won <;> rfl

theorem after_ne_made (o : Outcome) (won : Bool) : after o won ≠ made := by
  cases o <;> cases won <;> exact CallStage.noConfusion

theorem after_ne_returned (o : Outcome) (won other : Bool) : after o won ≠ returned other := by
  cases o <;> cases won <;> exact CallStage.noConfusion

theorem after_eq_recorded_iff {o : Outcome} : after o true = recorded ↔ ∃ f, o = .failed f := by
  cases o <;> simp [after]

end CallStage

/-- How far a party is that waits for a failure. -/
inductive WaitStage where
  | waiting
  /-- it has seen the signal -/
  | woken
  | got (failure : Rejection)
  /-- it has seen the signal and found no failure, and goes on waiting -/
  | stranded
deriving DecidableEq

/-- What a party has got accords with the guard. -/
def WaitStage.Fits (g : Guard) : WaitStage → Prop
  | waiting => True
  | woken => g.signalled = true
  | got failure => g.outcome = some (.failed failure)
  | stranded => False

theorem WaitStage.Fits.later {g h : Guard} {w : WaitStage} (fits : w.Fits g) (later : g.Later h) : w.Fits h := by
  cases w with
  | waiting => trivial
  | woken => exact later.signalled fits
  | got f => exact later.outcome _ fits
  | stranded => exact fits

/-- A guard with the calls that were made, each with the outcome it is to record, and those who wait for a failure. -/
structure Contest where
  guard : Guard
  calls : List (Outcome × CallStage)
  waits : List WaitStage
deriving DecidableEq

namespace Contest

/-- Before the first call. -/
def start : Contest := ⟨.unset, [], []⟩

/-- What happens at one moment. -/
inductive Event where
  | called (o : Outcome)
  /-- the call has tried to record its outcome -/
  | recorded (i : Nat)
  | signalled (i : Nat)
  | returned (i : Nat) (won : Bool)
  /-- somebody looked at the outcome, which also tells whether the request ended and what failed -/
  | looked (seen : Option Outcome)
  /-- somebody begins to wait -/
  | awaited
  | woken (j : Nat)
  | resolved (j : Nat) (failure : Rejection)
  | stranded (j : Nat)
deriving DecidableEq

/-- A contest before and after that. -/
inductive Step : Contest → Event → Contest → Prop where
  | call {c : Contest} (o : Outcome) : Step c (.called o) { c with calls := c.calls ++ [(o, .made)] }
  | record {c : Contest} {i : Nat} {o : Outcome} (made : c.calls[i]? = some (o, .made)) :
      Step c (.recorded i)
        { c with guard := (c.guard.record o).2, calls := c.calls.set i (o, .after o (c.guard.record o).1) }
  | signal {c : Contest} {i : Nat} {o : Outcome} (recorded : c.calls[i]? = some (o, .recorded)) :
      Step c (.signalled i) { c with guard := c.guard.signal, calls := c.calls.set i (o, .decided true) }
  | answer {c : Contest} {i : Nat} {o : Outcome} {won : Bool} (decided : c.calls[i]? = some (o, .decided won)) :
      Step c (.returned i won) { c with calls := c.calls.set i (o, .returned won) }
  | look {c : Contest} : Step c (.looked c.guard.outcome) c
  | await {c : Contest} : Step c .awaited { c with waits := c.waits ++ [.waiting] }
  | wake {c : Contest} {j : Nat} (waiting : c.waits[j]? = some .waiting) (signalled : c.guard.signalled = true) :
      Step c (.woken j) { c with waits := c.waits.set j .woken }
  | resolve {c : Contest} {j : Nat} {failure : Rejection} (woken : c.waits[j]? = some .woken)
      (found : c.guard.failure = some failure) :
      Step c (.resolved j failure) { c with waits := c.waits.set j (.got failure) }
  | strand {c : Contest} {j : Nat} (woken : c.waits[j]? = some .woken) (none : c.guard.failure = none) :
      Step c (.stranded j) { c with waits := c.waits.set j .stranded }

/-- From one contest to another by a list of events. -/
inductive Run (begun : Contest) : List Event → Contest → Prop where
  | refl : Run begun [] begun
  | snoc {es : List Event} {c : Contest} {e : Event} {d : Contest} (run : Run begun es c) (step : Step c e d) :
      Run begun (es ++ [e]) d

/-- The call that returns as the winner. -/
def Event.winner? : Event → Option Nat
  | returned i true => some i
  | _ => none

/-- The outcome somebody saw. -/
def Event.seen? : Event → Option (Option Outcome)
  | looked seen => some seen
  | _ => none

/-- The call whose step this is. -/
def Event.call? : Event → Option Nat
  | recorded i | signalled i | returned i _ => some i
  | _ => none

/-- The party whose waiting goes on by this. -/
def Event.wait? : Event → Option Nat
  | woken j | resolved j _ | stranded j => some j
  | _ => none

/-- What a party was given accords with the guard. -/
def Event.Fits (g : Guard) : Event → Prop
  | resolved _ failure => g.outcome = some (.failed failure)
  | stranded _ => False
  | _ => True

/-- The calls that returned as winners, in their order. -/
def winners (es : List Event) : List Nat := es.filterMap Event.winner?

/-- The outcomes that were seen, in their order. -/
def sightings (es : List Event) : List (Option Outcome) := es.filterMap Event.seen?

variable {begun c d : Contest} {es fs : List Event} {e : Event} {g : Guard} {calls : List (Outcome × CallStage)}
  {i j k : Nat} {o p : Outcome} {s t : CallStage}

namespace Run

theorem single (step : Step c e d) : Run c [e] d := .snoc .refl step

theorem trans (first : Run begun es c) (second : Run c fs d) : Run begun (es ++ fs) d := by
  induction second with
  | refl => simpa using first
  | snoc _ step ih => rw [← List.append_assoc]; exact .snoc ih step

end Run

/-! ## Lists of calls -/

section

variable {α : Type} {l : List α} {a b : α}

theorem getElem?_set_of (there : l[i]? = some a) (b : α) (j : Nat) :
    (l.set i b)[j]? = if i = j then some b else l[j]? := by
  simp only [List.getElem?_set, (List.getElem?_eq_some_iff.1 there).1, if_true]

theorem getElem?_set_self_of (there : l[i]? = some a) (b : α) : (l.set i b)[i]? = some b :=
  List.getElem?_set_self (List.getElem?_eq_some_iff.1 there).1

theorem of_getElem?_concat (h : (l ++ [a])[j]? = some b) : l[j]? = some b ∨ b = a := by
  rw [List.getElem?_append] at h
  split at h
  · exact .inl h
  · rw [List.getElem?_singleton] at h
    exact .inr (Option.some.inj (Option.ite_none_right_eq_some.1 h).2).symm

theorem getElem?_concat_of (there : l[i]? = some a) (b : α) : (l ++ [b])[i]? = some a := by
  rw [List.getElem?_append_left (List.getElem?_eq_some_iff.1 there).1, there]

end

/-! ## The call that wins -/

/-- A call has recorded the outcome and stands at a stage. No other call has, and a failure was signalled unless this call
has still to do so. -/
structure Wins (g : Guard) (calls : List (Outcome × CallStage)) (i : Nat) (o : Outcome) (s : CallStage) : Prop where
  outcome : g.outcome = some o
  there : calls[i]? = some (o, s)
  won : s.won = true
  due : s = .recorded → ∃ f, o = .failed f
  signalled : g.signalled = true ↔ (∃ f, o = .failed f) ∧ s ≠ .recorded
  alone : ∀ j call, calls[j]? = some call → call.2.won = true → j = i

namespace Wins

theorem called (w : Wins g calls i o s) (p : Outcome) : Wins g (calls ++ [(p, .made)]) i o s :=
  { w with
    there := getElem?_concat_of w.there _
    alone := by
      intro j call there won
      rcases of_getElem?_concat there with before | rfl
      · exact w.alone j call before won
      · cases won }

/-- A call that has not won goes on without having won. -/
theorem beside (w : Wins g calls i o s) (there : calls[j]? = some (p, t)) (lost : t.won = false) {t' : CallStage}
    (loses : t'.won = false) : Wins g (calls.set j (p, t')) i o s := by
  have other : j ≠ i := by
    rintro rfl
    obtain ⟨-, rfl⟩ := Prod.mk.inj (Option.some.inj (there.symm.trans w.there))
    exact Bool.false_ne_true (lost.symm.trans w.won)
  refine { w with there := ?_, alone := ?_ }
  · rw [getElem?_set_of there, if_neg other, w.there]
  · intro k call hk won
    rw [getElem?_set_of there] at hk
    split at hk
    · cases hk
      simp [loses] at won
    · exact w.alone k call hk won

/-- The call that has won goes on. -/
theorem goesOn (w : Wins g calls i o s) {g' : Guard} {s' : CallStage} (outcome : g'.outcome = g.outcome)
    (won : s'.won = true) (past : s' ≠ .recorded) (signalled : g'.signalled = true ↔ ∃ f, o = .failed f) :
    Wins g' (calls.set i (o, s')) i o s' where
  outcome := outcome.trans w.outcome
  there := getElem?_set_self_of w.there _
  won := won
  due := fun recorded => absurd recorded past
  signalled := by rw [signalled, and_iff_left past]
  alone := by
    intro k call hk won
    rw [getElem?_set_of w.there] at hk
    split at hk
    · exact Eq.symm ‹_›
    · exact w.alone k call hk won

/-- Whoever has won is this call. -/
theorem eq (w : Wins g calls i o s) (there : calls[j]? = some (p, t)) (won : t.won = true) : j = i ∧ p = o ∧ t = s := by
  obtain rfl := w.alone j _ there won
  exact ⟨rfl, Prod.mk.inj (Option.some.inj (there.symm.trans w.there))⟩

end Wins

/-- How a guard and its calls stand: nothing was recorded and no call has done anything, or one call has won. -/
inductive Standing (g : Guard) (calls : List (Outcome × CallStage)) : Prop where
  | undecided (unset : g = .unset) (made : ∀ call ∈ calls, call.2 = .made)
  | won {i : Nat} {o : Outcome} {s : CallStage} (wins : Wins g calls i o s)

namespace Standing

theorem called (h : Standing g calls) (o : Outcome) : Standing g (calls ++ [(o, .made)]) := by
  cases h with
  | undecided unset made =>
    refine .undecided unset fun call mem => ?_
    rcases List.mem_append.1 mem with before | last
    · exact made call before
    · rw [List.mem_singleton.1 last]
  | won wins => exact .won (wins.called o)

theorem recorded (h : Standing g calls) (made : calls[i]? = some (o, .made)) :
    Standing (g.record o).2 (calls.set i (o, .after o (g.record o).1)) := by
  cases h with
  | undecided unset all =>
    -- the first to try has won, and owes the signal if its outcome is a failure
    subst unset
    refine .won (i := i) (o := o) (s := .after o true) ⟨rfl, getElem?_set_self_of made _, CallStage.won_after o true,
      CallStage.after_eq_recorded_iff.1, ?_, ?_⟩
    · refine ⟨fun signalled => absurd signalled Bool.false_ne_true, fun ⟨failed, signalled⟩ => ?_⟩
      exact absurd (CallStage.after_eq_recorded_iff.2 failed) signalled
    · intro k call hk won
      rw [getElem?_set_of made] at hk
      split at hk
      · exact Eq.symm ‹_›
      · rw [all call (List.mem_of_getElem? hk)] at won
        cases won
  | won wins =>
    rw [Guard.record_of_set wins.outcome, CallStage.after_lost]
    exact .won (wins.beside made rfl rfl)

theorem signalled (h : Standing g calls) (recorded : calls[i]? = some (o, .recorded)) :
    Standing g.signal (calls.set i (o, .decided true)) := by
  cases h with
  | undecided _ made => cases made _ (List.mem_of_getElem? recorded)
  | won wins =>
    obtain ⟨rfl, rfl, rfl⟩ := wins.eq recorded rfl
    exact .won (wins.goesOn rfl rfl (by simp) (iff_of_true rfl (wins.due rfl)))

theorem answered {won : Bool} (h : Standing g calls) (decided : calls[i]? = some (o, .decided won)) :
    Standing g (calls.set i (o, .returned won)) := by
  cases h with
  | undecided _ made => cases made _ (List.mem_of_getElem? decided)
  | won wins =>
    -- a call with the answer that it has won is the one that has
    cases won with
    | false => exact .won (wins.beside decided rfl rfl)
    | true =>
      obtain ⟨rfl, rfl, rfl⟩ := wins.eq decided rfl
      exact .won (wins.goesOn rfl rfl (by simp) (by simpa using wins.signalled))

theorem step (h : Standing c.guard c.calls) (step : Step c e d) : Standing d.guard d.calls := by
  cases step with
  | call o => exact h.called o
  | record made => exact h.recorded made
  | signal recorded => exact h.signalled recorded
  | answer decided => exact h.answered decided
  | look | await | wake | resolve | strand => exact h

/-- There is no signal without a failure. -/
theorem failed_of_signalled (h : Standing g calls) (signalled : g.signalled = true) :
    ∃ f, g.outcome = some (.failed f) := by
  cases h with
  | undecided unset =>
    rw [unset] at signalled
    cases signalled
  | won wins =>
    obtain ⟨⟨f, rfl⟩, -⟩ := wins.signalled.1 signalled
    exact ⟨f, wins.outcome⟩

/-- While no call has still to signal, a failure and its signal are there together. -/
theorem wellSignalled (h : Standing g calls) (past : ∀ call ∈ calls, call.2 ≠ .recorded) : g.WellSignalled := by
  cases h with
  | undecided unset =>
    rw [unset]
    rfl
  | @won i o s wins =>
    have signalled : g.signalled = true ↔ ∃ f, o = .failed f := by
      rw [wins.signalled, and_iff_left (past _ (List.mem_of_getElem? wins.there))]
    rw [Guard.WellSignalled, Bool.eq_iff_iff, signalled, Option.isSome_iff_exists]
    simp only [Guard.failure_eq_some_iff, wins.outcome, Option.some.injEq]

end Standing

/-! ## The outcome stays -/

theorem Step.later (step : Step c e d) : c.guard.Later d.guard := by
  cases step with
  | @record _ o => exact c.guard.later_record o
  | signal => exact c.guard.later_signal
  | call | answer | look | await | wake | resolve | strand => exact .refl _

theorem Run.later (run : Run begun es c) : begun.guard.Later c.guard := by
  induction run with
  | refl => exact .refl _
  | snoc _ step ih => exact ih.trans step.later

/-! ## What calls return, and what is seen -/

/-- The calls that returned as winners are those that are said to, each once. -/
structure Tallied (es : List Event) (calls : List (Outcome × CallStage)) : Prop where
  nodup : (winners es).Nodup
  mem : ∀ i, i ∈ winners es ↔ ∃ o, calls[i]? = some (o, .returned true)

/-- A call that goes on without returning as the winner. -/
theorem Tallied.set (h : Tallied es calls) (there : calls[i]? = some (o, s)) (before : s ≠ .returned true)
    (after : t ≠ .returned true) : Tallied es (calls.set i (o, t)) where
  nodup := h.nodup
  mem := by
    intro k
    rw [h.mem, getElem?_set_of there]
    split
    · rename_i same
      rw [← same, there]
      simp [before, after]
    · rfl

theorem Tallied.called (h : Tallied es calls) (o : Outcome) : Tallied es (calls ++ [(o, .made)]) where
  nodup := h.nodup
  mem := by
    intro k
    rw [h.mem]
    refine exists_congr fun p => ⟨fun there => getElem?_concat_of there _, fun there => ?_⟩
    rcases of_getElem?_concat there with before | new
    · exact before
    · cases new

theorem Tallied.returned (h : Tallied es calls) (decided : calls[i]? = some (o, .decided true)) :
    Tallied (es ++ [.returned i true]) (calls.set i (o, .returned true)) := by
  have winners_snoc : winners (es ++ [.returned i true]) = winners es ++ [i] := by simp [winners, Event.winner?]
  have new : i ∉ winners es := by
    rw [h.mem, decided]
    simp
  refine ⟨?_, fun k => ?_⟩
  · rw [winners_snoc]
    exact List.nodup_append.2 ⟨h.nodup, by simp, fun a ha b hb same => new (List.mem_singleton.1 hb ▸ same ▸ ha)⟩
  · rw [winners_snoc, List.mem_append, List.mem_singleton, h.mem, getElem?_set_of decided]
    by_cases same : i = k
    · simp [same]
    · simp [same, Ne.symm same]

theorem Tallied.step (h : Tallied es c.calls) (step : Step c e d) : Tallied (es ++ [e]) d.calls := by
  -- an event by which nobody returns as the winner
  have silent {calls : List (Outcome × CallStage)} (none : e.winner? = none) (h : Tallied es calls) :
      Tallied (es ++ [e]) calls := by
    have same : winners (es ++ [e]) = winners es := by simp [winners, none]
    exact ⟨same ▸ h.nodup, same ▸ h.mem⟩
  cases step with
  | call o => exact silent rfl (h.called o)
  | record made => exact silent rfl (h.set made CallStage.noConfusion (CallStage.after_ne_returned _ _ true))
  | signal recorded => exact silent rfl (h.set recorded CallStage.noConfusion CallStage.noConfusion)
  | @answer _ _ won decided =>
    cases won with
    | false => exact silent rfl (h.set decided CallStage.noConfusion (by simp))
    | true => exact h.returned decided
  | look | await | wake | resolve | strand => exact silent rfl h

/-- At first there was no outcome to be seen, and then always this one. -/
def Seen (es : List Event) (outcome : Option Outcome) : Prop :=
  ∃ n m, sightings es = List.replicate n none ++ List.replicate m outcome

theorem Seen.step (h : Seen es c.guard.outcome) (step : Step c e d) : Seen (es ++ [e]) d.guard.outcome := by
  obtain ⟨n, m, seen⟩ := h
  have unseen (none : e.seen? = none) : Seen (es ++ [e]) d.guard.outcome := by
    have same : sightings (es ++ [e]) = sightings es := by simp [sightings, none]
    rw [Seen, same, seen]
    -- an outcome can only be new where there was none, and so was none to be seen
    cases ho : c.guard.outcome with
    | none => exact ⟨n + m, 0, by simp⟩
    | some o => exact ⟨n, m, by rw [step.later.outcome o ho]⟩
  cases step with
  | look =>
    have looked : sightings (es ++ [.looked c.guard.outcome]) = sightings es ++ [c.guard.outcome] := by
      simp [sightings, Event.seen?]
    exact ⟨n, m + 1, by rw [looked, seen, List.append_assoc, List.replicate_succ']⟩
  | call | record | signal | answer | await | wake | resolve | strand => exact unseen rfl

/-! ## Those who wait -/

theorem Event.Fits.later {h : Guard} (fits : e.Fits g) (later : g.Later h) : e.Fits h := by
  cases e with
  | resolved j f => exact later.outcome _ fits
  | stranded j => exact fits
  | _ => trivial

/-- What a contest keeps. -/
structure Kept (es : List Event) (c : Contest) : Prop where
  standing : Standing c.guard c.calls
  tallied : Tallied es c.calls
  seen : Seen es c.guard.outcome
  waits : ∀ w ∈ c.waits, w.Fits c.guard
  events : ∀ e ∈ es, e.Fits c.guard

namespace Kept

theorem start : Kept [] start where
  standing := .undecided rfl fun _ none => nomatch none
  tallied := ⟨List.nodup_nil, fun _ => by simp [winners, Contest.start]⟩
  seen := ⟨0, 0, rfl⟩
  waits := fun _ none => nomatch none
  events := fun _ none => nomatch none

/-- Whoever has seen the signal finds a failure. -/
theorem failure_of_woken (h : Kept es c) (woken : c.waits[j]? = some .woken) : ∃ f, c.guard.failure = some f := by
  have signalled : c.guard.signalled = true := h.waits _ (List.mem_of_getElem? woken)
  obtain ⟨f, failed⟩ := h.standing.failed_of_signalled signalled
  exact ⟨f, Guard.failure_eq_some_iff.2 failed⟩

/-- One party goes on waiting or stops. -/
theorem waits_set (h : Kept es c) {w : WaitStage} (fits : w.Fits c.guard) : ∀ v ∈ c.waits.set j w, v.Fits c.guard := by
  intro v mem
  rcases List.mem_or_eq_of_mem_set mem with before | rfl
  · exact h.waits v before
  · exact fits

theorem waits_step (h : Kept es c) (step : Step c e d) : (∀ w ∈ d.waits, w.Fits d.guard) ∧ e.Fits d.guard := by
  have others : ∀ w ∈ c.waits, w.Fits d.guard := fun w mem => (h.waits w mem).later step.later
  cases step with
  | call | record | signal | answer | look => exact ⟨others, trivial⟩
  | await =>
    refine ⟨fun w mem => ?_, trivial⟩
    rcases List.mem_append.1 mem with before | last
    · exact h.waits w before
    · rw [List.mem_singleton.1 last]
      trivial
  | wake _ signalled => exact ⟨h.waits_set signalled, trivial⟩
  | resolve _ found =>
    have failed := Guard.failure_eq_some_iff.1 found
    exact ⟨h.waits_set failed, failed⟩
  | strand woken none =>
    obtain ⟨f, found⟩ := h.failure_of_woken woken
    rw [none] at found
    cases found

theorem step (h : Kept es c) (step : Step c e d) : Kept (es ++ [e]) d := by
  obtain ⟨waits, fits⟩ := h.waits_step step
  refine ⟨h.standing.step step, h.tallied.step step, h.seen.step step, waits, fun f mem => ?_⟩
  rcases List.mem_append.1 mem with before | last
  · exact (h.events f before).later step.later
  · rw [List.mem_singleton.1 last]
    exact fits

theorem run (h : Kept es c) (run : Run c fs d) : Kept (es ++ fs) d := by
  induction run with
  | refl => simpa using h
  | snoc _ step ih =>
    rw [← List.append_assoc]
    exact ih.step step

end Kept

theorem Run.kept (run : Run start es c) : Kept es c := by
  simpa using Kept.start.run run

/-! ## Calls return, and whoever waits for a failure gets it -/

/-- The call can return by steps of its own. -/
def Returns (c : Contest) (i : Nat) (o : Outcome) : Prop :=
  ∃ fs d won, Run c fs d ∧ (∀ f ∈ fs, f.call? = some i) ∧ d.calls[i]? = some (o, .returned won)

theorem Returns.after (h : Returns d i o) (first : Step c e d) (own : e.call? = some i) : Returns c i o := by
  obtain ⟨fs, d', won, run, owns, there⟩ := h
  exact ⟨[e] ++ fs, d', won, (Run.single first).trans run, by simpa [own] using owns, there⟩

theorem returns_of_decided {won : Bool} (there : c.calls[i]? = some (o, .decided won)) : c.Returns i o :=
  ⟨_, _, won, .single (.answer there), by simp [Event.call?], getElem?_set_self_of there _⟩

theorem returns_of_recorded (there : c.calls[i]? = some (o, .recorded)) : c.Returns i o :=
  (returns_of_decided (getElem?_set_self_of there _)).after (.signal there) rfl

theorem returns_of_made (there : c.calls[i]? = some (o, .made)) : c.Returns i o := by
  have next := getElem?_set_self_of there (o, CallStage.after o (c.guard.record o).1)
  refine Returns.after ?_ (.record there) rfl
  cases hs : CallStage.after o (c.guard.record o).1 with
  | made => exact absurd hs (CallStage.after_ne_made _ _)
  | recorded => exact returns_of_recorded (hs ▸ next)
  | decided won => exact returns_of_decided (hs ▸ next)
  | returned won => exact absurd hs (CallStage.after_ne_returned _ _ won)

theorem returns (there : c.calls[i]? = some (o, s)) : c.Returns i o := by
  cases s with
  | made => exact returns_of_made there
  | recorded => exact returns_of_recorded there
  | decided won => exact returns_of_decided there
  | returned won => exact ⟨[], c, won, .refl, List.forall_mem_nil _, there⟩

/-- The party can get the failure by steps of its own. -/
def Resolves (c : Contest) (j : Nat) (failure : Rejection) : Prop :=
  ∃ fs d, Run c fs d ∧ (∀ f ∈ fs, f.wait? = some j) ∧ d.waits[j]? = some (.got failure)

theorem resolves_of_woken {failure : Rejection} (there : c.waits[j]? = some .woken)
    (found : c.guard.failure = some failure) : c.Resolves j failure :=
  ⟨_, _, .single (.resolve there found), by simp [Event.wait?], getElem?_set_self_of there _⟩

theorem resolves_of_waiting {failure : Rejection} (there : c.waits[j]? = some .waiting)
    (signalled : c.guard.signalled = true) (found : c.guard.failure = some failure) : c.Resolves j failure := by
  have woken := Step.wake there signalled
  obtain ⟨fs, d, run, owns, got⟩ := resolves_of_woken (c := { c with waits := c.waits.set j .woken })
    (getElem?_set_self_of there _) found
  exact ⟨[.woken j] ++ fs, d, (Run.single woken).trans run, by simpa [Event.wait?] using owns, got⟩

theorem Kept.resolves (h : Kept es c) {failure : Rejection} (got : c.guard.awaitFailure = some failure) {w : WaitStage}
    (there : c.waits[j]? = some w) : c.Resolves j failure := by
  obtain ⟨signalled, found⟩ := Guard.awaitFailure_eq_some_iff.1 got
  have fits := h.waits w (List.mem_of_getElem? there)
  cases w with
  | waiting => exact resolves_of_waiting there signalled found
  | woken => exact resolves_of_woken there found
  | got f =>
    obtain rfl : f = failure := Option.some.inj ((Guard.failure_eq_some_iff.2 fits).symm.trans found)
    exact ⟨[], c, .refl, List.forall_mem_nil _, there⟩
  | stranded => exact fits.elim

/-! ## Calls at once -/

/-- A call that nobody interrupts. -/
def settleAtOnce (c : Contest) (o : Outcome) : Contest :=
  { c with guard := (c.guard.settle o).2, calls := c.calls ++ [(o, .returned (c.guard.settle o).1)] }

theorem run_of_settle (c : Contest) (o : Outcome) : ∃ fs, Run c fs (c.settleAtOnce o) := by
  have last (s t : CallStage) : (c.calls ++ [(o, s)]).set c.calls.length (o, t) = c.calls ++ [(o, t)] := by simp
  have there (s : CallStage) : (c.calls ++ [(o, s)])[c.calls.length]? = some (o, s) := by simp
  have tried := (Run.single (.call (c := c) o)).snoc (.record (there .made))
  rw [last] at tried
  unfold settleAtOnce
  cases ho : c.guard.outcome with
  | some p =>
    have lost : c.guard.settle o = (false, c.guard) := by
      cases o with
      | completed => exact Guard.complete_of_set ho
      | failed f => exact Guard.fail_of_set ho f
    rw [Guard.record_of_set ho, CallStage.after_lost] at tried
    have returned := tried.snoc (.answer (there _))
    rw [last] at returned
    rw [lost]
    exact ⟨_, returned⟩
  | none =>
    have won : c.guard.record o = (true, ⟨some o, c.guard.signalled⟩) := by simp [Guard.record, ho]
    rw [won] at tried
    cases o with
    | completed =>
      have returned := tried.snoc (.answer (there _))
      rw [last] at returned
      rw [Guard.settle, Guard.complete_of_unset ho]
      exact ⟨_, returned⟩
    | failed f =>
      have signalled := tried.snoc (.signal (there _))
      rw [last] at signalled
      have returned := signalled.snoc (.answer (there _))
      rw [last] at returned
      rw [Guard.settle, Guard.fail_of_unset ho]
      exact ⟨_, returned⟩

/-- Somebody who begins to wait and is not interrupted. -/
theorem run_of_awaitFailure {failure : Rejection} (got : c.guard.awaitFailure = some failure) :
    ∃ fs, Run c fs { c with waits := c.waits ++ [.got failure] } := by
  obtain ⟨signalled, found⟩ := Guard.awaitFailure_eq_some_iff.1 got
  have last (v w : WaitStage) : (c.waits ++ [v]).set c.waits.length w = c.waits ++ [w] := by simp
  have there (v : WaitStage) : (c.waits ++ [v])[c.waits.length]? = some v := by simp
  have woken := (Run.single (.await (c := c))).snoc (.wake (there _) signalled)
  rw [last] at woken
  have resolved := woken.snoc (.resolve (there _) found)
  rw [last] at resolved
  exact ⟨_, resolved⟩

/-! ## One winner -/

/-- What can be seen of a contest that went this way. -/
structure Fair (es : List Event) (c : Contest) : Prop where
  /-- one call at most returned as the winner -/
  single : (winners es).length ≤ 1
  winner : ∀ i ∈ winners es, ∃ o, c.calls[i]? = some (o, .returned true) ∧ c.guard.outcome = some o
  /-- one did once there were calls and all have returned -/
  decided : c.calls ≠ [] → (∀ call ∈ c.calls, ∃ won, call.2 = .returned won) → ∃ i, winners es = [i]
  seen : Seen es c.guard.outcome
  signalled : c.guard.signalled = true → ∃ f, c.guard.outcome = some (.failed f)
  /-- while no call has still to signal, a failure and its signal are there together -/
  settled : (∀ call ∈ c.calls, call.2 ≠ .recorded) → c.guard.WellSignalled
  resolved : ∀ j f, .resolved j f ∈ es → c.guard.outcome = some (.failed f)
  unstranded : ∀ j, .stranded j ∉ es

/-- Whoever returned as the winner has won. -/
theorem Kept.wins (h : Kept es c) (mem : i ∈ winners es) : ∃ o, Wins c.guard c.calls i o (.returned true) := by
  obtain ⟨o, there⟩ := (h.tallied.mem i).1 mem
  cases h.standing with
  | undecided _ made => cases made _ (List.mem_of_getElem? there)
  | won wins =>
    obtain ⟨rfl, rfl, rfl⟩ := wins.eq there rfl
    exact ⟨o, wins⟩

theorem Kept.single (h : Kept es c) : (winners es).length ≤ 1 := by
  have nodup := h.tallied.nodup
  rcases hw : winners es with _ | ⟨i, _ | ⟨k, rest⟩⟩
  · exact Nat.zero_le _
  · exact Nat.le_refl _
  · obtain ⟨o, first⟩ := h.wins (i := i) (by simp [hw])
    obtain ⟨p, second⟩ := h.wins (i := k) (by simp [hw])
    obtain ⟨rfl, -⟩ := first.eq second.there rfl
    simp [hw] at nodup

/-- Once all calls have returned, one of them has as the winner. -/
theorem Kept.decided (h : Kept es c) (called : c.calls ≠ []) (all : ∀ call ∈ c.calls, ∃ won, call.2 = .returned won) :
    ∃ i, winners es = [i] := by
  cases h.standing with
  | undecided _ made =>
    obtain ⟨call, mem⟩ := List.exists_mem_of_ne_nil _ called
    obtain ⟨won, returned⟩ := all call mem
    rw [made call mem] at returned
    cases returned
  | @won i o s wins =>
    obtain ⟨won, rfl⟩ := all _ (List.mem_of_getElem? wins.there)
    obtain rfl : won = true := wins.won
    have mem : i ∈ winners es := (h.tallied.mem i).2 ⟨o, wins.there⟩
    refine ⟨i, ?_⟩
    obtain ⟨k, only⟩ := List.length_eq_one_iff.1 (Nat.le_antisymm h.single (List.length_pos_of_mem mem))
    rw [only, List.mem_singleton] at mem
    rw [only, mem]

theorem Kept.fair (h : Kept es c) : Fair es c where
  single := h.single
  winner := fun i mem => by
    obtain ⟨o, wins⟩ := h.wins mem
    exact ⟨o, wins.there, wins.outcome⟩
  decided := h.decided
  seen := h.seen
  signalled := h.standing.failed_of_signalled
  settled := h.standing.wellSignalled
  resolved := fun _ _ mem => h.events _ mem
  unstranded := fun _ mem => h.events _ mem

/-- However many call a guard and wait for it, and however their steps come in between each other: one call returns as the
winner, once there were calls and all have returned, and never a second one. The outcome is the one this call was to
record, and is seen by everybody from some moment on. Nothing but a failure is ever signalled, so whoever sees the signal
gets the failure that was recorded, and nobody gets one from a request that ended well.

Every call can return by steps of its own, and once the signal is there everybody who waits can get the failure so. A
call, or a wait, that nobody interrupts is a case of this. -/
theorem Run.settles_once (run : Run start es c) :
    Fair es c
    ∧ (∀ fs d, Run c fs d → (∀ o, c.guard.outcome = some o → d.guard.outcome = some o)
        ∧ (c.guard.outcome = some .completed → ∀ j f, .resolved j f ∉ fs))
    ∧ (∀ i o s, c.calls[i]? = some (o, s) → c.Returns i o)
    ∧ (∀ f, c.guard.awaitFailure = some f → ∀ j w, c.waits[j]? = some w → c.Resolves j f)
    ∧ (∀ o, ∃ fs, Run c fs (c.settleAtOnce o))
    ∧ ∀ f, c.guard.awaitFailure = some f → ∃ fs, Run c fs { c with waits := c.waits ++ [.got f] } := by
  have kept := run.kept
  refine ⟨kept.fair, fun fs d further => ⟨further.later.outcome, fun completed j f mem => ?_⟩,
    fun _ _ _ there => returns there, fun _ got _ _ there => kept.resolves got there, c.run_of_settle,
    fun _ got => run_of_awaitFailure got⟩
  have failed := (kept.run further).fair.resolved j f (List.mem_append_right _ mem)
  rw [further.later.outcome _ completed] at failed
  cases failed

/-- A call that fails the request and one that completes it come at the same time, and somebody waits. The failure is
recorded first and seen before it is signalled; meanwhile the other call returns. -/
theorem settles_once_contended : ∃ es c, Run start es c
    ∧ c.calls = [(.failed .clientLeft, .returned true), (.completed, .returned false)]
    ∧ sightings es = [none, some (.failed .clientLeft)] ∧ (∃ i, winners es = [i])
    ∧ .resolved 0 .clientLeft ∈ es ∧ c.guard.outcome = some (.failed .clientLeft) := by
  have called := ((Run.single (.call (c := start) (.failed .clientLeft))).snoc (.call .completed)).snoc .await
  have recorded := (called.snoc .look).snoc (.record (i := 0) rfl)
  have other := ((recorded.snoc .look).snoc (.record (i := 1) rfl)).snoc (.answer (i := 1) rfl)
  have woken := (other.snoc (.signal (i := 0) rfl)).snoc (.wake (j := 0) rfl rfl)
  have run := (woken.snoc (.resolve (j := 0) rfl rfl)).snoc (.answer (i := 0) rfl)
  obtain ⟨fair, -⟩ := run.settles_once
  refine ⟨_, _, run, rfl, rfl, fair.decided (by decide) ?_, by decide, fair.resolved 0 _ (by decide)⟩
  intro call mem
  rcases mem with _ | ⟨_, _ | ⟨_, none⟩⟩
  · exact ⟨true, rfl⟩
  · exact ⟨false, rfl⟩
  · cases none

end Contest

end Gateway
