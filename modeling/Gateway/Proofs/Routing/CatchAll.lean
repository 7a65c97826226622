import Gateway.Proofs.RequestUri
import Gateway.Proofs.Routing.Selection
import Gateway.Resolver
import Mathlib.Data.List.TakeWhile

/-!
# Routes for everything

A route with the empty mount point serves every path that is empty or starts with a slash, which is every path a request
can have but one: the star for the server itself. The star is served by a route only whose mount point is a star.

The main theorem is `RouteTable.forwards_iff`.
-/

namespace Gateway

/-! ## The path that is routed -/

/-- The query is no part of the path. -/
theorem pathOf_append_query {path : String} (clean : '?' ∉ path.toList) (query : Option String) :
    pathOf (path ++ (match query with | some q => "?" ++ q | none => "")) = path.toList := by
  have before : path.toList.takeWhile (· ≠ '?') = path.toList :=
    List.takeWhile_eq_self_iff.2 fun c hc => decide_eq_true (ne_of_mem_of_not_mem hc clean)
  unfold pathOf
  cases query with
  | none => rw [String.append_empty, before]
  | some q =>
    rw [String.toList_append, List.takeWhile_append, before, if_pos rfl, String.toList_append]
    exact List.append_nil _

/-- A request is routed by its path, or by the slash that stands for none. -/
theorem slashFirst_pathOf {uri : Uri} (h : uri.Legal) : Uri.SlashFirst (pathOf uri.pathAndQuery) := by
  have clean : '?' ∉ uri.path.toList := fun question => absurd (h.path _ question) (by decide)
  have raw := pathOf_append_query clean uri.query
  unfold Uri.pathAndQuery
  extract_lets text
  split_ifs
  · rintro c ⟨⟩
    rfl
  · rw [show pathOf text = uri.path.toList from raw]
    exact h.slash

namespace Route

variable {r : Route} {path : List Char}

/-- The empty mount point serves every path that has a slash first. -/
theorem serves_of_mount_empty (h : r.mount = "") (slash : Uri.SlashFirst path) : r.Serves path := by
  unfold Serves
  rw [h]
  cases path with
  | nil => exact .inl rfl
  | cons c path =>
    rw [slash c rfl]
    exact .inr ⟨path, rfl⟩

/-- The star lies under itself alone. -/
theorem serves_star_iff : r.Serves ['*'] ↔ r.mount = "*" := by
  unfold Serves
  rw [← String.toList_inj]
  constructor
  · rintro (same | ⟨rest, longer⟩)
    · exact same.symm
    · -- a mount point and a slash behind it leave no room for a star
      cases h : r.mount.toList with
      | nil =>
        rw [h] at longer
        exact absurd (List.head_eq_of_cons_eq longer) (by decide)
      | cons c cs =>
        have lengths := congrArg List.length longer
        simp only [h, List.length_append, List.length_cons, List.length_nil] at lengths
        omega
  · exact fun same => .inl same.symm

end Route

namespace RouteTable

variable {t : RouteTable} {text : String} {uri : Uri}

/-- A request is forwarded to the target of one of the routes. -/
def Forwards (t : RouteTable) (uri : Uri) : Prop :=
  ∃ r ∈ t.routes, ∃ suffix, t.resolve uri = .forward { r.target with uri := r.target.uri ++ suffix }

/-- A request is forwarded exactly if some route serves its path, and answered at once otherwise. -/
theorem resolve_cases (t : RouteTable) (uri : Uri) :
    (t.Forwards uri ∧ ∃ r ∈ t.routes, r.Serves (pathOf uri.pathAndQuery))
      ∨ (t.resolve uri = .answered (.plainText .notFound "No route found")
        ∧ ¬ ∃ r ∈ t.routes, r.Serves (pathOf uri.pathAndQuery)) := by
  rw [← find_isSome_iff]
  unfold Forwards resolve
  cases found : t.find uri.pathAndQuery with
  | none => exact .inr ⟨rfl, Bool.false_ne_true⟩
  | some target =>
    obtain ⟨r, suffix, longest, -, rfl⟩ := exists_of_find found
    exact .inl ⟨⟨r, longest.mem, suffix, rfl⟩, rfl⟩

/-- With a route for the empty mount point every request is forwarded, but for the one to the server itself: that needs
a route of its own, and without one no route is found for it. -/
theorem forwards_iff (catchAll : ∃ r ∈ t.routes, r.mount = "") (read : Uri.ofString text = .ok uri) :
    (t.Forwards uri ↔ (text = "*" → ∃ r ∈ t.routes, r.mount = "*"))
      ∧ (t.Forwards uri ∨ t.resolve uri = .answered (.plainText .notFound "No route found")) := by
  have served : (∃ r ∈ t.routes, r.Serves (pathOf uri.pathAndQuery)) ↔ (text = "*" → ∃ r ∈ t.routes, r.mount = "*") := by
    rcases Uri.eq_star_or_legal_of_ofString read with ⟨rfl, rfl⟩ | ⟨other, legal⟩
    · have path : pathOf Uri.star.pathAndQuery = ['*'] := by decide
      simp only [path, Route.serves_star_iff, forall_const]
    · obtain ⟨r, member, empty⟩ := catchAll
      refine iff_of_true ⟨r, member, ?_⟩ fun same => absurd same other
      exact Route.serves_of_mount_empty empty (slashFirst_pathOf legal)
  rcases t.resolve_cases uri with ⟨forwards, serving⟩ | ⟨answered, nothing⟩
  · exact ⟨iff_of_true forwards (served.1 serving), .inl forwards⟩
  · refine ⟨iff_of_false ?_ fun own => nothing (served.2 own), .inr answered⟩
    rintro ⟨r, -, suffix, forwarded⟩
    rw [answered] at forwarded
    cases forwarded

/-- A URI in absolute form with a query and no path is forwarded. -/
theorem forwards_pathless :
    (∃ r ∈ [Route.new "/*" ⟨"shop", 80, "/", ""⟩], r.mount = "")
      ∧ Uri.ofString "http://shop.example?x=1" = .ok ⟨some "http", some "shop.example", "", some "x=1"⟩
      ∧ Forwards ⟨[Route.new "/*" ⟨"shop", 80, "/", ""⟩]⟩ ⟨some "http", some "shop.example", "", some "x=1"⟩ := by
  have catchAll : ∃ r ∈ [Route.new "/*" ⟨"shop", 80, "/", ""⟩], r.mount = "" := by decide
  have read : Uri.ofString "http://shop.example?x=1" = .ok ⟨some "http", some "shop.example", "", some "x=1"⟩ := by
    decide +kernel
  have forwards := (forwards_iff (t := ⟨[Route.new "/*" ⟨"shop", 80, "/", ""⟩]⟩) catchAll read).1
  exact ⟨catchAll, read, forwards.2 fun star => absurd star (by decide)⟩

/-- The star finds no route behind the one for everything. -/
theorem resolve_star_of_catchAll :
    (Route.new "/" ⟨"shop", 80, "/", ""⟩).mount = "" ∧ Uri.ofString "*" = .ok Uri.star
      ∧ RouteTable.resolve ⟨[Route.new "/" ⟨"shop", 80, "/", ""⟩]⟩ Uri.star
        = .answered (.plainText .notFound "No route found") := by
  decide +kernel

end RouteTable

end Gateway
