import Gateway.Trace.Event

/-!
# How often, and in which order, events are traced

Trace events are read by their kinds: `times` counts them, `Heralded` says that some come only after another.
-/

namespace Gateway

namespace TraceEvent

/-- What an event is about, whatever it carries. -/
inductive Kind where
  | requestStarted
  | requestEnded
  | requestFailed
  | clientLeft
  | hopResolved
  | forwardStarted
  | forwardFailed
  | responseStarted
  | responseEnded
  | responseFailed
  | answerStarted
  | answerHeaded
  | answerEnded
  | answerFailed
  | answeredEarly
  | socketStarted
  | socketFailed
  | tunnelOpened
  | tunnelClosed
  | tunnelFailed
deriving DecidableEq

def kind : TraceEvent → Kind
  | requestStarted _ => .requestStarted
  | requestEnded _ => .requestEnded
  | requestFailed _ => .requestFailed
  | clientLeft => .clientLeft
  | hopResolved _ => .hopResolved
  | forwardStarted .. => .forwardStarted
  | forwardFailed _ => .forwardFailed
  | responseStarted .. => .responseStarted
  | responseEnded _ => .responseEnded
  | responseFailed _ => .responseFailed
  | answerStarted => .answerStarted
  | answerHeaded .. => .answerHeaded
  | answerEnded => .answerEnded
  | answerFailed _ => .answerFailed
  | answeredEarly _ => .answeredEarly
  | socketStarted .. => .socketStarted
  | socketFailed _ => .socketFailed
  | tunnelOpened => .tunnelOpened
  | tunnelClosed => .tunnelClosed
  | tunnelFailed _ => .tunnelFailed

/-- The kinds there are for a websocket only. -/
def socketKinds : List Kind := [.socketStarted, .socketFailed, .tunnelOpened, .tunnelClosed, .tunnelFailed]

/-- Whether an event of this kind says how the client's body ended. -/
def Kind.endsBody : Kind → Bool
  | requestEnded | requestFailed => true
  | _ => false

/-- How many of these are among some kinds. -/
def times (kinds ks : List Kind) : Nat := ks.countP fun k => decide (k ∈ kinds)

variable {kinds later ks news : List Kind} {sooner : Kind}

theorem times_append (kinds ks news : List Kind) : times kinds (ks ++ news) = times kinds ks + times kinds news :=
  List.countP_append

theorem times_eq_zero_iff : times kinds ks = 0 ↔ ∀ k ∈ ks, k ∉ kinds := by
  simp [times, List.countP_eq_zero]

/-- What is left out does not count where it is of another kind. -/
theorem times_filter {p : Kind → Bool} (kept : ∀ k ∈ kinds, p k = true) (ks : List Kind) :
    times kinds (ks.filter p) = times kinds ks := by
  unfold times
  rw [List.countP_filter]
  refine List.countP_congr fun k _ => ?_
  simp only [Bool.and_eq_true, decide_eq_true_eq, and_iff_left_iff_imp]
  exact kept k

/-! ## Order -/

/-- A member of two lists in a row stands in one of them. -/
theorem split_append {α : Type} {l m before after : List α} {a : α} (h : l ++ m = before ++ a :: after) :
    (∃ rest, l = before ++ a :: rest ∧ after = rest ++ m) ∨ ∃ front, before = l ++ front ∧ m = front ++ a :: after := by
  rcases List.append_eq_append_iff.1 h with ⟨front, hb, hm⟩ | ⟨rest, hl, hr⟩
  · exact .inr ⟨front, hb, hm⟩
  · cases rest with
    | nil => exact .inr ⟨[], by simpa using hl.symm, hr.symm⟩
    | cons b rest =>
      obtain ⟨rfl, ha⟩ := List.cons.inj hr
      exact .inl ⟨rest, hl, ha⟩

/-- The later kinds come only once the sooner one has. -/
def Heralded (sooner : Kind) (later ks : List Kind) : Prop :=
  ∀ before k after, ks = before ++ k :: after → k ∈ later → sooner ∈ before

theorem heralded_of_times (h : times later ks = 0) : Heralded sooner later ks := by
  intro before k after split hk
  exact absurd hk (times_eq_zero_iff.1 h k (by simp [split]))

theorem Heralded.append (h : Heralded sooner later ks) (next : sooner ∈ ks ∨ Heralded sooner later news) :
    Heralded sooner later (ks ++ news) := by
  intro before k after split hk
  rcases split_append split with ⟨rest, hks, -⟩ | ⟨front, rfl, hnews⟩
  · exact h before k rest hks hk
  · rcases next with herald | own
    · exact List.mem_append_left _ herald
    · exact List.mem_append_right _ (own front k after hnews hk)

/-- What comes while the other has not is not heralded by it, whatever follows. -/
theorem not_heralded_of_mem {k : Kind} (came : k ∈ ks) (other : sooner ∉ ks) (news : List Kind) :
    ¬Heralded sooner [k] (ks ++ news) := by
  intro heralded
  obtain ⟨before, after, rfl⟩ := List.append_of_mem came
  have before_mem := heralded before k (after ++ news) (by simp) (List.mem_singleton_self k)
  exact other (List.mem_append_left _ before_mem)

/-- What is heralded among those that are left is so among all of them. -/
theorem Heralded.of_filter {p : Kind → Bool} (h : Heralded sooner later (ks.filter p)) (kept : ∀ k ∈ later, p k = true) :
    Heralded sooner later ks := by
  intro before k after split hk
  have left : ks.filter p = before.filter p ++ k :: after.filter p := by
    rw [split, List.filter_append, List.filter_cons, if_pos (kept k hk)]
  exact (List.mem_filter.1 (h _ k _ left hk)).1

end TraceEvent

end Gateway
