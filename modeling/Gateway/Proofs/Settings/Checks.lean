/-!
# Checks in an order

A reader of settings checks one thing after another and stops at the first that fails. `Decides` relates a result to the
list of what was checked: `Decides.ok_iff` and `Decides.error_iff` say what the result is. A reader that is put together
from others checks what they check, in the same order: `Decides.check`, `Decides.bind`.
-/

namespace Gateway

namespace Settings

/-- Something that is checked, and the flaw of what fails there. -/
structure Check (ε : Type) where
  passes : Prop
  flaw : ε

/-- The same check with its flaw told in another way. -/
def Check.map {ε δ : Type} (f : ε → δ) (c : Check ε) : Check δ := ⟨c.passes, f c.flaw⟩

/-- The first check that fails has this flaw. -/
def FirstFlaw {ε : Type} (checks : List (Check ε)) (flaw : ε) : Prop :=
  ∃ before c after, checks = before ++ c :: after ∧ (∀ b ∈ before, b.passes) ∧ ¬ c.passes ∧ c.flaw = flaw

/-- A result that checks decide: it is there if all pass, and otherwise it is the flaw of the first that fails. -/
def Decides {ε α : Type} (checks : List (Check ε)) : Except ε α → Prop
  | .ok _ => ∀ c ∈ checks, c.passes
  | .error flaw => FirstFlaw checks flaw

section Checks

variable {ε δ α β : Type} {c : Check ε} {checks more : List (Check ε)} {flaw : ε} {result : Except ε α}

theorem FirstFlaw.exists_fails (h : FirstFlaw checks flaw) : ∃ c ∈ checks, ¬ c.passes := by
  obtain ⟨before, c, after, rfl, -, fails, -⟩ := h
  exact ⟨c, List.mem_append_right _ List.mem_cons_self, fails⟩

theorem FirstFlaw.cons (passes : c.passes) (h : FirstFlaw checks flaw) : FirstFlaw (c :: checks) flaw := by
  obtain ⟨before, d, after, rfl, passed, fails, same⟩ := h
  exact ⟨c :: before, d, after, rfl, List.forall_mem_cons.2 ⟨passes, passed⟩, fails, same⟩

theorem FirstFlaw.append_right (h : FirstFlaw checks flaw) : FirstFlaw (checks ++ more) flaw := by
  obtain ⟨before, c, after, rfl, passed, fails, same⟩ := h
  exact ⟨before, c, after ++ more, by rw [List.append_assoc, List.cons_append], passed, fails, same⟩

theorem FirstFlaw.append_left (passed : ∀ c ∈ checks, c.passes) (h : FirstFlaw more flaw) :
    FirstFlaw (checks ++ more) flaw := by
  induction checks with
  | nil => exact h
  | cons c checks ih =>
    obtain ⟨first, passed⟩ := List.forall_mem_cons.1 passed
    exact (ih passed).cons first

/-- There is only one first flaw. -/
theorem FirstFlaw.unique {other : ε} (h : FirstFlaw checks flaw) (k : FirstFlaw checks other) : flaw = other := by
  obtain ⟨before, c, after, rfl, passed, fails, rfl⟩ := h
  obtain ⟨before', d, after', same, passed', fails', rfl⟩ := k
  induction before generalizing before' with
  | nil =>
    cases before' with
    | nil =>
      cases same
      rfl
    | cons b before' =>
      cases same
      exact absurd (passed' c List.mem_cons_self) fails
  | cons b before ih =>
    cases before' with
    | nil =>
      cases same
      exact absurd (passed d List.mem_cons_self) fails'
    | cons b' before' =>
      obtain ⟨rfl, rest⟩ := List.cons.inj same
      exact ih (fun e he => passed e (List.mem_cons_of_mem _ he)) before' rest
        fun e he => passed' e (List.mem_cons_of_mem _ he)

namespace Decides

theorem ok_iff (h : Decides checks result) : (∃ a, result = .ok a) ↔ ∀ c ∈ checks, c.passes := by
  cases result with
  | ok a => exact iff_of_true ⟨a, rfl⟩ h
  | error flaw =>
    obtain ⟨c, hc, fails⟩ := FirstFlaw.exists_fails h
    exact iff_of_false (by simp) fun all => fails (all c hc)

theorem error_iff (h : Decides checks result) : result = .error flaw ↔ FirstFlaw checks flaw := by
  cases result with
  | ok a =>
    refine iff_of_false (by simp) fun first => ?_
    obtain ⟨c, hc, fails⟩ := first.exists_fails
    exact fails (h c hc)
  | error other =>
    rw [Except.error.injEq]
    exact ⟨fun same => same ▸ h, fun first => FirstFlaw.unique h first⟩

/-- Nothing is left to be checked. -/
theorem done (a : α) : Decides ([] : List (Check ε)) (.ok a) := List.forall_mem_nil _

theorem fails (fails : ¬ c.passes) : Decides (α := α) (c :: checks) (.error c.flaw) :=
  ⟨[], c, checks, rfl, List.forall_mem_nil _, fails, rfl⟩

theorem cons (passes : c.passes) (h : Decides checks result) : Decides (c :: checks) result := by
  cases result with
  | ok a => exact List.forall_mem_cons.2 ⟨passes, h⟩
  | error flaw => exact FirstFlaw.cons passes h

/-- One thing is checked before the rest. -/
theorem check {bad : Prop} [Decidable bad] (passes : c.passes ↔ ¬ bad) (h : Decides checks result) :
    Decides (c :: checks) (if bad then .error c.flaw else result) := by
  split
  · next bad => exact fails fun good => passes.1 good bad
  · next good => exact h.cons (passes.2 good)

/-- What is checked of a value that passed is checked after it. -/
theorem bind {f : α → Except ε β} (h : Decides checks result) (k : ∀ a, Decides more (f a)) :
    Decides (checks ++ more) (result.bind f) := by
  cases result with
  | error flaw => exact FirstFlaw.append_right h
  | ok a =>
    have later := k a
    show Decides (checks ++ more) (f a)
    cases hf : f a with
    | error flaw =>
      rw [hf] at later
      exact FirstFlaw.append_left h later
    | ok b =>
      rw [hf] at later
      exact List.forall_mem_append.2 ⟨h, later⟩

/-- The flaws may be told in another way. -/
theorem mapError {f : ε → δ} (h : Decides checks result) : Decides (checks.map (.map f)) (result.mapError f) := by
  cases result with
  | ok a => exact List.forall_mem_map.2 h
  | error flaw =>
    obtain ⟨before, c, after, rfl, passed, fails, rfl⟩ := h
    exact ⟨before.map (.map f), c.map f, after.map (.map f), by simp, List.forall_mem_map.2 passed, fails, rfl⟩

theorem map {f : α → β} (h : Decides checks result) : Decides checks (result.map f) := by
  cases result with
  | ok a => exact h
  | error flaw => exact h

end Decides

end Checks

end Settings

end Gateway
