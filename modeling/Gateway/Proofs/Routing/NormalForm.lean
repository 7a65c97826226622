import Gateway.Route
import Mathlib.Data.List.DropRight

/-!
# The normal form of a route

Stars are taken off the end of a path first, and slashes after them, once each. So a slash and a slash with a star at the
end never make a difference to each other, but a star that stood before them comes to light and stays. Paths that end
with a star, or hide one in this way, are the only ones whose spellings fall apart.

The main theorem is `Route.new_spellings`.
-/

namespace Gateway

namespace Route

variable {x : Char} {cs : List Char}

/-! ## Ends of a text -/

/-- A text ends with a character. -/
def EndsIn (x : Char) (cs : List Char) : Prop := cs.getLast? = some x

theorem endsIn_iff : EndsIn x cs ↔ ∃ front, cs = front ++ [x] := List.getLast?_eq_some_iff

theorem dropEnd_of_not_endsIn (h : ¬ EndsIn x cs) : dropEnd x cs = cs := by
  refine List.rdropWhile_eq_self_iff.2 fun nonempty last => h ?_
  rw [EndsIn, List.getLast?_eq_some_getLast nonempty, beq_iff_eq.1 last]

theorem dropEnd_concat (x : Char) (cs : List Char) : dropEnd x (cs ++ [x]) = dropEnd x cs :=
  List.rdropWhile_concat_pos (· == x) cs x (beq_self_eq_true x)

theorem dropEnd_append_replicate (x : Char) (cs : List Char) (n : Nat) :
    dropEnd x (cs ++ List.replicate n x) = dropEnd x cs := by
  induction n with
  | zero => rw [List.replicate_zero, List.append_nil]
  | succ n ih => rw [List.replicate_succ', ← List.append_assoc, dropEnd_concat, ih]

theorem not_endsIn_dropEnd (x : Char) (cs : List Char) : ¬ EndsIn x (dropEnd x cs) := by
  intro h
  obtain ⟨front, hf⟩ := endsIn_iff.1 h
  have nonempty : dropEnd x cs ≠ [] := by
    rw [hf]
    exact List.concat_ne_nil x front
  have last := List.rdropWhile_last_not (· == x) cs nonempty
  have same : (dropEnd x cs).getLast nonempty = x := by simp only [hf, List.getLast_concat]
  exact last (beq_iff_eq.2 same)

/-- What is taken off is only that character. -/
theorem eq_dropEnd_append (x : Char) (cs : List Char) : ∃ n, cs = dropEnd x cs ++ List.replicate n x := by
  induction cs using List.reverseRecOn with
  | nil => exact ⟨0, rfl⟩
  | append_singleton cs c ih =>
    by_cases h : c = x
    · subst h
      obtain ⟨n, hn⟩ := ih
      refine ⟨n + 1, ?_⟩
      rw [dropEnd_concat, List.replicate_succ', ← List.append_assoc, ← hn]
    · have kept : ¬ EndsIn x (cs ++ [c]) := by
        rw [EndsIn, List.getLast?_concat, Option.some.injEq]
        exact h
      refine ⟨0, ?_⟩
      rw [dropEnd_of_not_endsIn kept, List.replicate_zero, List.append_nil]

/-! ## Paths in normal form -/

/-- Slashes and then stars are all that is taken off a path. -/
theorem eq_trimPath_append (cs : List Char) : ∃ n m, dropEnd '*' cs = trimPath cs ++ List.replicate n '/'
    ∧ cs = trimPath cs ++ List.replicate n '/' ++ List.replicate m '*' := by
  obtain ⟨m, hm⟩ := eq_dropEnd_append '*' cs
  obtain ⟨n, hn⟩ := eq_dropEnd_append '/' (dropEnd '*' cs)
  refine ⟨n, m, hn, ?_⟩
  rw [trimPath, ← hn, ← hm]

/-- A path is in normal form exactly if it ends with neither. -/
theorem trimPath_eq_self_iff : trimPath cs = cs ↔ ¬ EndsIn '*' cs ∧ ¬ EndsIn '/' cs := by
  constructor
  · intro same
    -- nothing was taken off at all
    obtain ⟨n, m, starless, whole⟩ := eq_trimPath_append cs
    rw [same] at starless whole
    have lengths := congrArg List.length whole
    simp only [List.length_append, List.length_replicate] at lengths
    obtain rfl : n = 0 := by omega
    rw [List.replicate_zero, List.append_nil] at starless
    constructor
    · rw [← starless]
      exact not_endsIn_dropEnd '*' cs
    · rw [← same]
      exact not_endsIn_dropEnd '/' _
  · rintro ⟨star, slash⟩
    rw [trimPath, dropEnd_of_not_endsIn star, dropEnd_of_not_endsIn slash]

theorem trimPath_append_slash (cs : List Char) : trimPath (cs ++ ['/']) = dropEnd '/' cs := by
  have starless : ¬ EndsIn '*' (cs ++ ['/']) := by
    rw [EndsIn, List.getLast?_concat]
    decide
  rw [trimPath, dropEnd_of_not_endsIn starless, dropEnd_concat]

/-- A star behind a slash never makes a difference. -/
theorem trimPath_append_slash_star (cs : List Char) : trimPath (cs ++ ['/', '*']) = trimPath (cs ++ ['/']) := by
  have star : dropEnd '*' (cs ++ ['/'] ++ ['*']) = dropEnd '*' (cs ++ ['/']) := dropEnd_concat _ _
  rw [List.append_assoc] at star
  show dropEnd '/' (dropEnd '*' (cs ++ ['/', '*'])) = dropEnd '/' (dropEnd '*' (cs ++ ['/']))
  rw [← star]
  rfl

/-- A slash more makes no difference to a path, unless that ends with a star. -/
theorem trimPath_append_slash_iff : trimPath (cs ++ ['/']) = trimPath cs ↔ ¬ EndsIn '*' cs := by
  rw [trimPath_append_slash]
  constructor
  · intro same star
    have slashless : ¬ EndsIn '/' cs := by
      rw [EndsIn, show cs.getLast? = some '*' from star]
      decide
    rw [dropEnd_of_not_endsIn slashless] at same
    exact (trimPath_eq_self_iff.1 same.symm).1 star
  · intro starless
    rw [trimPath, dropEnd_of_not_endsIn starless]

/-- A star stands before the slashes that are taken off: it comes to light, and is taken off the next time. -/
def HidesStar (cs : List Char) : Prop :=
  ∃ front n m, cs = front ++ ['*'] ++ List.replicate (n + 1) '/' ++ List.replicate m '*'

theorem endsIn_trimPath_iff : EndsIn '*' (trimPath cs) ↔ HidesStar cs := by
  constructor
  · intro star
    obtain ⟨front, hf⟩ := endsIn_iff.1 star
    obtain ⟨n, m, starless, whole⟩ := eq_trimPath_append cs
    cases n with
    | zero =>
      -- with no slash between, that star would have gone with those behind it
      rw [List.replicate_zero, List.append_nil] at starless
      rw [← starless] at star
      exact absurd star (not_endsIn_dropEnd '*' cs)
    | succ n => exact ⟨front, n, m, by rw [← hf]; exact whole⟩
  · rintro ⟨front, n, m, rfl⟩
    have starless : ¬ EndsIn '*' (front ++ ['*'] ++ List.replicate (n + 1) '/') := by
      rw [List.replicate_succ', ← List.append_assoc, EndsIn, List.getLast?_concat]
      decide
    have slashless : ¬ EndsIn '/' (front ++ ['*']) := by
      rw [EndsIn, List.getLast?_concat]
      decide
    rw [trimPath, dropEnd_append_replicate, dropEnd_of_not_endsIn starless, dropEnd_append_replicate,
      dropEnd_of_not_endsIn slashless]
    exact List.getLast?_concat

theorem trimPath_trimPath_iff : trimPath (trimPath cs) = trimPath cs ↔ ¬ HidesStar cs := by
  rw [trimPath_eq_self_iff, endsIn_trimPath_iff]
  exact and_iff_left (not_endsIn_dropEnd '/' _)

/-! ## Routes in normal form -/

theorem new_eq_iff {mount mount' : String} {target target' : Target} :
    new mount target = new mount' target' ↔ trimPath mount.toList = trimPath mount'.toList
      ∧ target.host = target'.host ∧ target.service = target'.service
      ∧ trimPath target.uri.toList = trimPath target'.uri.toList ∧ target.hostHeader = target'.hostHeader := by
  simp only [new, Route.mk.injEq, Target.mk.injEq, String.ofList_inj]

/-- A route has one normal form, with a slash at the end of a path and with a slash and a star; that without either is the
same exactly if the path does not end with a star. A route is its own normal form unless a star is hidden. -/
theorem new_spellings (mount : String) (target : Target) :
    new (mount ++ "/") target = new (mount ++ "/*") target
      ∧ (new (mount ++ "/") target = new mount target ↔ ¬ EndsIn '*' mount.toList)
      ∧ new mount { target with uri := target.uri ++ "/" } = new mount { target with uri := target.uri ++ "/*" }
      ∧ (new mount { target with uri := target.uri ++ "/" } = new mount target ↔ ¬ EndsIn '*' target.uri.toList)
      ∧ (new (new mount target).mount (new mount target).target = new mount target ↔
          ¬ HidesStar mount.toList ∧ ¬ HidesStar target.uri.toList) := by
  simp only [new_eq_iff, String.toList_append, true_and, and_true]
  refine ⟨(trimPath_append_slash_star _).symm, trimPath_append_slash_iff, (trimPath_append_slash_star _).symm,
    trimPath_append_slash_iff, ?_⟩
  simp only [new, String.toList_ofList, trimPath_trimPath_iff, true_and, and_true]

/-- A star that follows no slash is taken off by itself, and before a slash it stays until the next time. -/
theorem new_ne_of_star :
    new "/a*" ⟨"backend", 80, "/", ""⟩ ≠ new "/a*/" ⟨"backend", 80, "/", ""⟩
      ∧ new (new "/a*/" ⟨"backend", 80, "/", ""⟩).mount (new "/a*/" ⟨"backend", 80, "/", ""⟩).target
        ≠ new "/a*/" ⟨"backend", 80, "/", ""⟩ := by
  decide

end Route

end Gateway
