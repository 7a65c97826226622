import Gateway.Admission

/-!
# How many connections are served at a time

Whoever accepts a connection takes it in by steps: the connection is counted, the count before it is compared with the
limit, and if that was higher the connection is counted off again. Other connections come and end in between, and several
parties may take connections in at the same time. `Intake` is an admission in the midst of this.

At every point the count is that of the connections that are served, not decided yet, or not counted off yet
(`Balanced`). Since a connection is refused only if the count before it was above the limit, one connection more than the
limit is served, but never two.
-/

namespace Gateway

/-- An admission with the connections that are being taken in: those that are counted but not decided, each with the
count before it, and those that are refused but not counted off. -/
structure Intake extends Admission where
  undecided : List (Nat × Nat)
  refused : List Nat
deriving DecidableEq

namespace Intake

/-- An admission while no connection is being taken in. -/
def resting (a : Admission) : Intake := { a with undecided := [], refused := [] }

/-- What happens to one connection at one moment. -/
inductive Event where
  | counted (connection : Nat)
  | admitted (connection : Nat)
  | refused (connection : Nat)
  | countedOff (connection : Nat)
  /-- a served connection ended: it was done, it failed, or its time was up -/
  | finished (connection : Nat)
deriving DecidableEq

/-- An intake before and after an event. -/
inductive Step : Intake → Event → Intake → Prop where
  | count {d : Intake} (c : Nat) :
      Step d (.counted c)
        { d with count := d.count.increment.2, undecided := (c, d.count.increment.1) :: d.undecided }
  | serve {d : Intake} {c before : Nat} (mem : (c, before) ∈ d.undecided) (room : before ≤ d.limit) :
      Step d (.admitted c) { d with undecided := d.undecided.erase (c, before), served := c :: d.served }
  | refuse {d : Intake} {c before : Nat} (mem : (c, before) ∈ d.undecided) (full : d.limit < before) :
      Step d (.refused c) { d with undecided := d.undecided.erase (c, before), refused := c :: d.refused }
  | countOff {d : Intake} {c : Nat} (mem : c ∈ d.refused) :
      Step d (.countedOff c) { d with count := d.count.decrement.2, refused := d.refused.erase c }
  | finish {d : Intake} {c : Nat} (mem : c ∈ d.served) :
      Step d (.finished c) { d with toAdmission := d.toAdmission.finish c }

/-- From one intake to another by a list of events. -/
inductive Run (start : Intake) : List Event → Intake → Prop where
  | refl : Run start [] start
  | snoc {es : List Event} {d : Intake} {e : Event} {d' : Intake} (run : Run start es d) (step : Step d e d') :
      Run start (es ++ [e]) d'

variable {start d d' : Intake} {es fs : List Event} {e : Event} {limit : Nat}

namespace Run

theorem single (step : Step d e d') : Run d [e] d' := .snoc .refl step

theorem trans (first : Run start es d) (second : Run d fs d') : Run start (es ++ fs) d' := by
  induction second with
  | refl => simpa using first
  | snoc _ step ih => rw [← List.append_assoc]; exact .snoc ih step

end Run

/-! ## The count -/

/-- The undecided connections that found room. -/
def admissible (d : Intake) : List (Nat × Nat) := d.undecided.filter fun u => u.2 ≤ d.limit

theorem length_admissible_le (d : Intake) : d.admissible.length ≤ d.undecided.length := List.length_filter_le _ _

/-- Every count is a connection, and of those that found room only one is beyond the limit. -/
structure Balanced (d : Intake) : Prop where
  counted : d.count.current = d.served.length + d.undecided.length + d.refused.length
  room : d.served.length + d.admissible.length ≤ d.limit + 1

theorem balanced_start (limit : Nat) : (resting (.start limit)).Balanced where
  counted := rfl
  room := Nat.zero_le _

/-- Whoever is counted finds room exactly if the count was not above the limit. -/
theorem Balanced.count (h : d.Balanced) (c : Nat) :
    Balanced { d with count := d.count.increment.2, undecided := (c, d.count.increment.1) :: d.undecided } where
  counted := by
    have := h.counted
    simp only [ServedCount.increment, List.length_cons]
    omega
  room := by
    have counted := h.counted
    have room := h.room
    have few := d.length_admissible_le
    by_cases low : d.count.current ≤ d.limit
    · simp only [admissible, ServedCount.increment, low, decide_true, List.filter_cons_of_pos, List.length_cons]
      rw [← admissible]
      omega
    · simp only [admissible, ServedCount.increment, low, decide_false, Bool.false_eq_true, not_false_eq_true,
        List.filter_cons_of_neg]
      exact room

/-- An undecided connection that found room, and the others. -/
theorem length_admissible_erase {c before : Nat} (mem : (c, before) ∈ d.undecided) (room : before ≤ d.limit) :
    ((d.undecided.erase (c, before)).filter fun u => u.2 ≤ d.limit).length + 1 = d.admissible.length := by
  have found : (c, before) ∈ d.admissible := List.mem_filter.2 ⟨mem, by simpa using room⟩
  rw [← List.erase_filter, ← admissible, List.length_erase_of_mem found]
  exact Nat.succ_pred_eq_of_pos (List.length_pos_of_mem found)

theorem Balanced.step (h : d.Balanced) (step : Step d e d') : d'.Balanced := by
  have counted := h.counted
  have room := h.room
  cases step with
  | count c => exact h.count c
  | @serve c before mem low =>
    have others := length_admissible_erase mem low
    have positive := List.length_pos_of_mem mem
    constructor
    · simp only [List.length_cons, List.length_erase_of_mem mem]
      omega
    · simp only [admissible, List.length_cons] at others ⊢
      simp only [admissible] at room
      omega
  | @refuse c before mem full =>
    have positive := List.length_pos_of_mem mem
    constructor
    · simp only [List.length_cons, List.length_erase_of_mem mem]
      omega
    · have fewer : ((d.undecided.erase (c, before)).filter fun u => u.2 ≤ d.limit).length ≤ d.admissible.length :=
        (List.erase_sublist.filter _).length_le
      exact Nat.le_trans (Nat.add_le_add_left fewer _) room
  | @countOff c mem =>
    have positive := List.length_pos_of_mem mem
    constructor
    · simp only [ServedCount.decrement, List.length_erase_of_mem mem]
      omega
    · exact room
  | @finish c mem =>
    have positive := List.length_pos_of_mem mem
    constructor
    · simp only [Admission.finish_of_mem mem, ServedCount.decrement, List.length_erase_of_mem mem]
      omega
    · simp only [admissible, Admission.finish_of_mem mem, List.length_erase_of_mem mem] at room ⊢
      omega

theorem Step.limit_eq (step : Step d e d') : d'.limit = d.limit := by
  cases step with
  | finish mem => simp [Admission.finish_of_mem mem]
  | count | serve | refuse | countOff => rfl

theorem Run.balanced (run : Run (resting (.start limit)) es d) : d.Balanced ∧ d.limit = limit := by
  induction run with
  | refl => exact ⟨balanced_start limit, rfl⟩
  | snoc _ step ih => exact ⟨ih.1.step step, step.limit_eq.trans ih.2⟩

/-- Nothing is counted off that was not counted. -/
theorem Balanced.count_pos (h : d.Balanced) (step : Step d e d') (off : d'.count.current < d.count.current) :
    d'.count.current + 1 = d.count.current := by
  have counted := h.counted
  cases step with
  | count c => exact absurd off (Nat.not_lt.2 (Nat.le_succ _))
  | serve | refuse => exact absurd off (Nat.lt_irrefl _)
  | countOff mem =>
    have positive := List.length_pos_of_mem mem
    simp only [ServedCount.decrement]
    omega
  | finish mem =>
    have positive := List.length_pos_of_mem mem
    simp only [Admission.finish_of_mem mem, ServedCount.decrement]
    omega

end Intake

/-! ## One at a time -/

namespace Admission

/-- A connection that comes, or one that ends, with nothing in between. -/
inductive Call where
  | accept (connection : Nat)
  | finish (connection : Nat)
deriving DecidableEq

/-- An admission after a call. -/
def perform (a : Admission) : Call → Admission
  | .accept connection => (a.accept connection).2
  | .finish connection => a.finish connection

/-- An admission after calls in their order. -/
def performAll (a : Admission) (calls : List Call) : Admission := calls.foldl perform a

theorem performAll_concat (a : Admission) (calls : List Call) (call : Call) :
    a.performAll (calls ++ [call]) = (a.performAll calls).perform call := List.foldl_append ..

end Admission

namespace Intake

variable {limit : Nat}

/-- A call is made of the events of its connection. -/
theorem run_of_perform (a : Admission) (call : Admission.Call) :
    ∃ es, Run (resting a) es (resting (a.perform call)) := by
  cases call with
  | accept c =>
    have counted : Run (resting a) [.counted c]
        { resting a with count := a.count.increment.2, undecided := [(c, a.count.current)] } := .single (.count c)
    by_cases low : a.count.current ≤ a.limit
    · refine ⟨_, counted.snoc (e := .admitted c) ?_⟩
      rw [Admission.perform, Admission.accept_of_le low]
      simpa [resting] using Step.serve (d := { resting a with
        count := a.count.increment.2, undecided := [(c, a.count.current)] }) (List.mem_singleton_self _) low
    · have full : a.limit < a.count.current := Nat.lt_of_not_le low
      have off := Step.countOff (d := { resting a with count := a.count.increment.2, refused := [c] })
        (List.mem_singleton_self c)
      have turned : Run (resting a) ([.counted c] ++ [.refused c])
          { resting a with count := a.count.increment.2, refused := [c] } := by
        refine counted.snoc ?_
        simpa [resting] using Step.refuse (d := { resting a with
          count := a.count.increment.2, undecided := [(c, a.count.current)] }) (List.mem_singleton_self _) full
      refine ⟨_, turned.snoc (e := .countedOff c) ?_⟩
      rw [Admission.perform, Admission.accept_of_lt full]
      simpa [resting, ServedCount.increment, ServedCount.decrement] using off
  | finish c =>
    by_cases mem : c ∈ a.served
    · exact ⟨_, .single (.finish (d := resting a) mem)⟩
    · refine ⟨[], ?_⟩
      have unchanged : a.finish c = a := if_neg (by simpa using mem)
      rw [Admission.perform, unchanged]
      exact .refl

theorem run_of_performAll (a : Admission) (calls : List Admission.Call) :
    ∃ es, Run (resting a) es (resting (a.performAll calls)) := by
  induction calls generalizing a with
  | nil => exact ⟨[], .refl⟩
  | cons call calls ih =>
    obtain ⟨es, first⟩ := run_of_perform a call
    obtain ⟨fs, rest⟩ := ih (a.perform call)
    exact ⟨es ++ fs, first.trans rest⟩

/-- Between whole calls the count is that of the connections that are served. -/
theorem count_performAll (limit : Nat) (calls : List Admission.Call) :
    ((Admission.start limit).performAll calls).count.current = ((Admission.start limit).performAll calls).served.length
      ∧ ((Admission.start limit).performAll calls).served.length ≤ limit + 1
      ∧ ((Admission.start limit).performAll calls).limit = limit := by
  obtain ⟨es, run⟩ := run_of_performAll (.start limit) calls
  obtain ⟨balanced, same⟩ := run.balanced
  have counted := balanced.counted
  have room := balanced.room
  simp only [resting, admissible, List.filter_nil, List.length_nil, Nat.add_zero] at counted room same
  exact ⟨counted, by omega, same⟩

/-- As many connections as come are served, up to one beyond the limit. -/
theorem served_range (limit k : Nat) (h : k ≤ limit + 1) :
    ((Admission.start limit).performAll ((List.range k).map .accept)).served.length = k := by
  induction k with
  | zero => rfl
  | succ k ih =>
    have served := ih (by omega)
    obtain ⟨counted, -, same⟩ := count_performAll limit ((List.range k).map .accept)
    rw [List.range_succ, List.map_append, List.map_singleton, Admission.performAll_concat, Admission.perform,
      Admission.accept_of_le (by omega), List.length_cons, served]

/-! ## Every order -/

/-- Whatever comes and ends in whichever order, also while others are being taken in: every count is a connection, each is
counted off once, and a refused one leaves no trace. At most one connection beyond the limit is served at a time; with
every limit there is an order in which it is. -/
theorem counts_and_bounds (limit : Nat) :
    (∀ es d, Run (resting (.start limit)) es d →
        d.count.current = d.served.length + d.undecided.length + d.refused.length
        ∧ d.served.length ≤ limit + 1
        ∧ (∀ e d', Step d e d' → d'.count.current < d.count.current → d'.count.current + 1 = d.count.current))
      ∧ (∀ calls a, a = (Admission.start limit).performAll calls →
        a.count.current = a.served.length
        ∧ (∀ c, (a.accept c).1 = true ↔ a.served.length ≤ limit)
        ∧ (∀ c, (a.accept c).1 = false → (a.accept c).2 = a))
      ∧ ∃ calls, ((Admission.start limit).performAll calls).served.length = limit + 1 := by
  refine ⟨?_, ?_, _, served_range limit (limit + 1) (Nat.le_refl _)⟩
  · intro es d run
    obtain ⟨balanced, same⟩ := run.balanced
    refine ⟨balanced.counted, ?_, fun e d' step off => balanced.count_pos step off⟩
    have room := balanced.room
    omega
  · intro calls a ha
    obtain ⟨counted, -, same⟩ := count_performAll limit calls
    rw [← ha] at counted same
    refine ⟨counted, fun c => ?_, fun c refused => ?_⟩
    · by_cases low : a.count.current ≤ a.limit
      · rw [Admission.accept_of_le low]
        exact iff_of_true rfl (by omega)
      · rw [Admission.accept_of_lt (Nat.lt_of_not_le low)]
        exact iff_of_false Bool.false_ne_true (by omega)
    · by_cases low : a.count.current ≤ a.limit
      · rw [Admission.accept_of_le low] at refused
        cases refused
      · rw [Admission.accept_of_lt (Nat.lt_of_not_le low)]

/-- With a limit of zero: while the second connection is not yet counted off, a third one is counted. -/
theorem counts_and_bounds_overlapping : ∃ es d, Run (resting (.start 0)) es d ∧ d.served = [0] ∧ d.undecided = [(2, 2)]
    ∧ d.refused = [1] ∧ d.count.current = 3 ∧ d.served.length ≤ 0 + 1 := by
  have first : Run (resting (.start 0)) [.counted 0, .admitted 0] { resting (.start 0) with count := ⟨1⟩, served := [0] } :=
    .snoc (.single (.count 0)) (@Step.serve _ 0 0 (by decide) (by decide))
  have second := (first.snoc (.count 1)).snoc (@Step.refuse _ 1 1 (by decide) (by decide))
  have third := second.snoc (.count 2)
  obtain ⟨counted, bounded, -⟩ := (counts_and_bounds 0).1 _ _ third
  exact ⟨_, _, third, rfl, rfl, rfl, counted, bounded⟩

/-- With a limit of one, two connections are served at a time. -/
theorem two_served_of_one : ∃ es d, Run (resting (.start 1)) es d ∧ d.undecided = [] ∧ d.refused = []
    ∧ d.served = [1, 0] ∧ ¬ d.served.length ≤ d.limit := by
  obtain ⟨es, run⟩ := run_of_performAll (.start 1) [.accept 0, .accept 1]
  exact ⟨es, _, run, rfl, rfl, rfl, by decide⟩

end Intake

end Gateway
