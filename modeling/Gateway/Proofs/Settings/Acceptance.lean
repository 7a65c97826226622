import Gateway.Proofs.Routing.NormalForm
import Gateway.Proofs.Settings.Checks
import Gateway.Settings.Check
import Mathlib.Data.List.Forall2

/-!
# Which settings are accepted

A document is checked for one thing after another. What has to hold is said by `Document.Acceptable`; the checks in their
order are `Document.checks`, and the flaw that is reported belongs to the first that fails. An accepted document decides
the limits (`Document.Carries`) and the routes (`RouteEntry.Describes`); what it leaves out is as if the default were
written.

The main theorem is `Document.build_outcome`.
-/

namespace Gateway

namespace Settings

/-! ## Routes -/

/-- A mount point that may be written: nothing, or what starts with a slash. -/
def MountLegal (mount : String) : Prop := mount = "" ∨ ∃ rest, mount.toList = '/' :: rest

theorem mountLegal_iff {mount : String} : MountLegal mount ↔ ¬ (mount ≠ "" ∧ mount.toList.head? ≠ some '/') := by
  rw [MountLegal, ← List.head?_eq_some_iff]
  tauto

namespace RouteEntry

variable {r : RouteEntry} {rs : List RouteEntry} {route : Route} {routes : List Route}

/-- A route that can be taken: to some host and service, and from a legal mount point if one is written. -/
structure Acceptable (r : RouteEntry) : Prop where
  host : r.host ≠ ""
  service : r.service ≠ 0
  mount : ∀ mount, r.mount = some mount → MountLegal mount

/-- What a route is checked for, in this order. -/
def checks (r : RouteEntry) : List (Check RouteFlaw) := [
  ⟨r.host ≠ "", .noHost⟩,
  ⟨r.service ≠ 0, .zeroService⟩,
  ⟨∀ mount, r.mount = some mount → MountLegal mount, .mount r.mountPoint⟩]

theorem acceptable_iff : r.Acceptable ↔ ∀ c ∈ r.checks, c.passes := by
  constructor
  · rintro ⟨host, service, mount⟩
    exact List.forall_mem_cons.2 ⟨host, List.forall_mem_cons.2 ⟨service, List.forall_mem_singleton.2 mount⟩⟩
  · intro h
    obtain ⟨host, h⟩ := List.forall_mem_cons.1 h
    obtain ⟨service, h⟩ := List.forall_mem_cons.1 h
    exact ⟨host, service, List.forall_mem_singleton.1 h⟩

/-- The root, which stands for a mount point that is not written, is legal. -/
theorem mountLegal_mountPoint : (∀ mount, r.mount = some mount → MountLegal mount) ↔ MountLegal r.mountPoint := by
  unfold mountPoint
  cases r.mount with
  | none => exact iff_of_true (by simp) (.inr ⟨[], rfl⟩)
  | some mount => simp

theorem decides_build (r : RouteEntry) : Decides r.checks r.build :=
  .check (by simp) (.check (by simp) (.check (mountLegal_mountPoint.trans mountLegal_iff) (.done _)))

/-- The routes are built one after another. -/
theorem buildRoutes_cons (r : RouteEntry) (rs : List RouteEntry) : Document.buildRoutes (r :: rs)
    = (r.build.mapError Flaw.route).bind fun route => (Document.buildRoutes rs).map (route :: ·) := by
  rw [Document.buildRoutes]
  cases r.build with
  | error flaw => rfl
  | ok route => cases Document.buildRoutes rs <;> rfl

theorem decides_buildRoutes (rs : List RouteEntry) :
    Decides (rs.flatMap fun r => r.checks.map (.map .route)) (Document.buildRoutes rs) := by
  induction rs with
  | nil => exact .done _
  | cons r rs ih =>
    rw [List.flatMap_cons, buildRoutes_cons]
    exact r.decides_build.mapError.bind fun _ => ih.map

theorem forall_acceptable_iff : (∀ r ∈ rs, r.Acceptable)
    ↔ ∀ c ∈ rs.flatMap fun r => r.checks.map (Check.map Flaw.route), c.passes := by
  simp only [List.forall_mem_flatMap, List.forall_mem_map, acceptable_iff]
  rfl

end RouteEntry

namespace Document

variable {d : Document}

/-- A document that can be served: it sets nothing to zero that must not be, and has routes, all of which can be taken. -/
structure Acceptable (d : Document) : Prop where
  listenService : d.listenService ≠ some 0
  idleTimeout : d.idleTimeout ≠ some 0
  receiveTimeout : ∀ backend, d.backend = some backend → backend.receiveTimeout ≠ some 0
  routes : ∃ entries, d.routes = some entries ∧ entries ≠ [] ∧ ∀ r ∈ entries, r.Acceptable

/-- What the limits are checked for, in this order. -/
def limitChecks (d : Document) : List (Check Flaw) := [
  ⟨d.listenService ≠ some 0, .zeroService⟩,
  ⟨d.idleTimeout ≠ some 0, .zeroIdleTimeout⟩,
  ⟨∀ backend, d.backend = some backend → backend.receiveTimeout ≠ some 0, .zeroReceiveTimeout⟩]

/-- What the routes are checked for, in this order: that there are any, and each in turn. -/
def routeChecks (d : Document) : List (Check Flaw) :=
  ⟨d.routes ≠ none, .noRouteList⟩ :: ⟨d.routes ≠ some [], .noRoutes⟩
    :: (d.routes.getD []).flatMap fun r => r.checks.map (.map .route)

/-- What a document is checked for, in this order. -/
def checks (d : Document) : List (Check Flaw) := d.limitChecks ++ d.routeChecks

theorem decides_limits (d : Document) : Decides d.limitChecks d.limits := by
  refine .check ?_ (.check (by simp) (.check ?_ (.done _)))
  · cases d.listenService with
    | none => simp [defaultService]
    | some service => simp
  · cases d.backend with
    | none => simp
    | some backend => simp

/-- The routes of a document, or the first flaw of them. -/
def table (d : Document) : Except Flaw RouteTable :=
  match d.routes with
  | none => .error .noRouteList
  | some [] => .error .noRoutes
  | some entries => (buildRoutes entries).map RouteTable.mk

theorem decides_table (d : Document) : Decides d.routeChecks d.table := by
  unfold table routeChecks
  cases d.routes with
  | none => exact .fails (not_not_intro rfl)
  | some entries =>
    refine .cons (by simp) ?_
    cases entries with
    | nil => exact .fails (not_not_intro rfl)
    | cons r rs => exact .cons (by simp) (RouteEntry.decides_buildRoutes (r :: rs)).map

/-- The limits come first. -/
theorem build_eq (d : Document) : d.build = d.limits.bind fun limits => d.table.map (limits, ·) := by
  unfold build table
  cases d.limits with
  | error flaw => rfl
  | ok limits =>
    cases d.routes with
    | none => rfl
    | some entries =>
      cases entries with
      | nil => rfl
      | cons r rs => cases h : buildRoutes (r :: rs) <;> simp [h, Except.bind, Except.map]

theorem decides_build (d : Document) : Decides d.checks d.build := by
  rw [build_eq]
  exact d.decides_limits.bind fun _ => d.decides_table.map

theorem acceptable_iff : d.Acceptable ↔ ∀ c ∈ d.checks, c.passes := by
  have entries : (∃ entries, d.routes = some entries ∧ entries ≠ [] ∧ ∀ r ∈ entries, r.Acceptable)
      ↔ ∀ c ∈ d.routeChecks, c.passes := by
    unfold routeChecks
    cases d.routes with
    | none => simp
    | some entries =>
      rw [List.forall_mem_cons, List.forall_mem_cons, Option.getD_some, ← RouteEntry.forall_acceptable_iff]
      simp
  rw [checks, List.forall_mem_append, ← entries, limitChecks, List.forall_mem_cons, List.forall_mem_cons,
    List.forall_mem_singleton]
  exact ⟨fun ⟨service, idle, receive, routes⟩ => ⟨⟨service, idle, receive⟩, routes⟩,
    fun ⟨⟨service, idle, receive⟩, routes⟩ => ⟨service, idle, receive, routes⟩⟩

end Document

/-! ## What an accepted document decides -/

/-- The value of a setting: what is written of it, or a default. -/
def Sets {α β : Type} (written : Option α) (read : α → β) (default value : β) : Prop :=
  (∀ a, written = some a → value = read a) ∧ (written = none → value = default)

theorem sets_getD {α β : Type} (written : Option α) (read : α → β) (default : β) :
    Sets written read default ((written.map read).getD default) := by
  cases written with
  | none => exact ⟨by simp, fun _ => rfl⟩
  | some a => exact ⟨fun _ same => Option.some.inj same ▸ rfl, by simp⟩

theorem sets_id {α : Type} (written : Option α) (default : α) : Sets written id default (written.getD default) := by
  simpa using sets_getD written id default

/-- What is left of a path without the stars and then the slashes at its end. -/
def Shorn (written stored : String) : Prop :=
  ∃ slashes stars, written.toList = stored.toList ++ List.replicate slashes '/' ++ List.replicate stars '*'
    ∧ ¬ Route.EndsIn '/' stored.toList ∧ (slashes = 0 → ¬ Route.EndsIn '*' stored.toList)

theorem shorn_trimPath (written : String) : Shorn written (String.ofList (Route.trimPath written.toList)) := by
  obtain ⟨slashes, stars, starless, whole⟩ := Route.eq_trimPath_append written.toList
  rw [Shorn, String.toList_ofList]
  refine ⟨slashes, stars, whole, Route.not_endsIn_dropEnd '/' _, ?_⟩
  rintro rfl
  rw [List.replicate_zero, List.append_nil] at starless
  rw [← starless]
  exact Route.not_endsIn_dropEnd '*' _

/-- Nothing but the slash at its start keeps a mount point from being empty. -/
theorem MountLegal.shorn {written stored : String} (legal : MountLegal written) (shorn : Shorn written stored) :
    MountLegal stored := by
  obtain ⟨slashes, stars, whole, -⟩ := shorn
  rw [MountLegal, ← String.toList_eq_nil_iff]
  cases chars : stored.toList with
  | nil => exact .inl rfl
  | cons c rest =>
    rw [chars] at whole
    rcases legal with rfl | ⟨behind, first⟩
    · cases whole
    · rw [first] at whole
      cases whole
      exact .inr ⟨rest, rfl⟩

namespace RouteEntry

variable {r : RouteEntry} {rs : List RouteEntry} {route : Route} {routes : List Route}

/-- The route an entry is for; its paths are shorn. -/
structure Describes (r : RouteEntry) (route : Route) : Prop where
  host : route.target.host = r.host
  service : route.target.service = r.service
  hostHeader : Sets r.hostHeader id "" route.target.hostHeader
  path : ∃ written, Sets r.path id "" written ∧ Shorn written route.target.uri
  mount : ∃ written, Sets r.mount id "/" written ∧ Shorn written route.mount
  legal : MountLegal route.mount

theorem Describes.slashless (h : r.Describes route) : ¬ Route.EndsIn '/' route.mount.toList := by
  obtain ⟨_, -, _, _, -, slashless, -⟩ := h.mount
  exact slashless

theorem describes_of_build (h : r.build = .ok route) : r.Describes route := by
  have legal : MountLegal r.mountPoint :=
    mountLegal_mountPoint.1 (acceptable_iff.2 (r.decides_build.ok_iff.1 ⟨route, h⟩)).mount
  unfold build at h
  split at h
  · cases h
  split at h
  · cases h
  split at h
  · cases h
  cases h
  have shorn := shorn_trimPath r.mountPoint
  exact ⟨rfl, rfl, sets_id .., ⟨_, sets_id .., shorn_trimPath _⟩, ⟨_, sets_id .., shorn⟩, legal.shorn shorn⟩

theorem describes_of_buildRoutes (h : Document.buildRoutes rs = .ok routes) : List.Forall₂ Describes rs routes := by
  induction rs generalizing routes with
  | nil =>
    cases h
    exact .nil
  | cons r rs ih =>
    rw [Document.buildRoutes] at h
    split at h
    · cases h
    next route first =>
    split at h
    · cases h
    next routes rest =>
    cases h
    exact .cons (describes_of_build first) (ih rest)

/-- An entry with the defaults written out. -/
def spelt (r : RouteEntry) : RouteEntry :=
  { r with mount := some r.mountPoint, path := some (r.path.getD ""), hostHeader := some (r.hostHeader.getD "") }

theorem build_spelt (r : RouteEntry) : r.spelt.build = r.build := rfl

end RouteEntry

namespace Document

variable {d : Document} {limits : Limits} {table : RouteTable}

/-- The limits a document is for. -/
structure Carries (d : Document) (limits : Limits) : Prop where
  listen : ∃ a, limits.listen = [a] ∧ Sets d.listenService id 8080 a.service
    ∧ Sets d.listenIpv6 (fun v6 => if v6 then .v6 [0, 0, 0, 0, 0, 0, 0, 0] else .v4 0 0 0 0) (.v4 0 0 0 0) a.ip
  backlog : Sets d.backlog UInt32.toNat Limits.standard.backlog limits.backlog
  maxClients : Sets d.maxClients UInt32.toNat Limits.standard.maxClients limits.maxClients
  maxStreams : Sets d.maxStreams UInt32.toNat Limits.standard.maxStreams limits.maxStreams
  keepAlive : Sets d.keepAlive id Limits.standard.keepAlive limits.keepAlive
  idleTimeout : Sets d.idleTimeout seconds Limits.standard.idleTimeout limits.idleTimeout
  handlingTimeout : Sets d.handlingTimeout (fun n => if n = 0 then none else some (seconds n))
    Limits.standard.handlingTimeout limits.handlingTimeout
  connectTimeout : Sets (d.backend.bind BackendEntry.connectTimeout) seconds Limits.standard.connectTimeout
    limits.connectTimeout
  backendIdleTimeout : Sets (d.backend.bind BackendEntry.idleTimeout) seconds Limits.standard.backendIdleTimeout
    limits.backendIdleTimeout
  maxIdlePerHost : Sets (d.backend.bind BackendEntry.maxIdlePerHost) UInt64.toNat Limits.standard.maxIdlePerHost
    limits.maxIdlePerHost
  receiveTimeout : Sets (d.backend.bind BackendEntry.receiveTimeout) seconds Limits.standard.receiveTimeout
    limits.receiveTimeout
  traceMessages : Sets d.traceMessages id Limits.standard.traceMessages limits.traceMessages

/-- A setting about backends is not written where nothing is written about them. -/
theorem sets_backend {β : Type} {field : BackendEntry → Option UInt64} (silent : field ⟨none, none, none, none⟩ = none)
    (read : UInt64 → β) (default : β) : Sets (d.backend.bind field) read default
      (((field (d.backend.getD ⟨none, none, none, none⟩)).map read).getD default) := by
  have same : field (d.backend.getD ⟨none, none, none, none⟩) = d.backend.bind field := by
    cases d.backend with
    | none => exact silent
    | some backend => rfl
  rw [same]
  exact sets_getD _ _ _

theorem carries_of_limits (h : d.limits = .ok limits) : d.Carries limits := by
  unfold Document.limits at h
  dsimp only at h
  split at h
  · cases h
  split at h
  · cases h
  split at h
  · cases h
  cases h
  refine ⟨⟨_, rfl, sets_id .., ?_⟩, sets_getD .., sets_getD .., sets_getD .., sets_id .., sets_getD .., ?_,
    sets_backend rfl .., sets_backend rfl .., sets_backend rfl .., sets_backend rfl .., sets_id ..⟩
  · cases d.listenIpv6 with
    | none => exact ⟨by simp, fun _ => rfl⟩
    | some v6 => exact ⟨fun _ same => Option.some.inj same ▸ rfl, by simp⟩
  · cases d.handlingTimeout with
    | none => exact ⟨by simp, fun _ => rfl⟩
    | some n =>
      refine ⟨?_, by simp⟩
      rintro _ ⟨⟩
      by_cases zero : n = 0 <;> simp [zero]

/-- A document with the defaults of its routes written out. -/
def spelt (d : Document) : Document := { d with routes := d.routes.map (·.map RouteEntry.spelt) }

theorem buildRoutes_spelt (rs : List RouteEntry) : buildRoutes (rs.map RouteEntry.spelt) = buildRoutes rs := by
  induction rs with
  | nil => rfl
  | cons r rs ih => rw [List.map_cons, RouteEntry.buildRoutes_cons, RouteEntry.buildRoutes_cons, ih, r.build_spelt]

theorem build_spelt (d : Document) : d.spelt.build = d.build := by
  have table : d.spelt.table = d.table := by
    unfold table spelt
    cases d.routes with
    | none => rfl
    | some entries =>
      cases entries with
      | nil => rfl
      | cons r rs => exact congrArg (Except.map RouteTable.mk) (buildRoutes_spelt (r :: rs))
  rw [build_eq, build_eq, table]
  rfl

theorem describes_of_table (h : d.table = .ok table) :
    ∃ entries, d.routes = some entries ∧ List.Forall₂ RouteEntry.Describes entries table.routes := by
  unfold Document.table at h
  split at h
  · cases h
  · cases h
  · next entries _ written =>
    cases built : buildRoutes entries with
    | error flaw =>
      rw [built] at h
      cases h
    | ok routes =>
      rw [built] at h
      cases h
      exact ⟨entries, written, RouteEntry.describes_of_buildRoutes built⟩

/-- An accepted document has both limits and routes. -/
theorem build_ok (h : d.build = .ok (limits, table)) : d.limits = .ok limits ∧ d.table = .ok table := by
  rw [build_eq] at h
  cases hl : d.limits with
  | error flaw =>
    rw [hl] at h
    cases h
  | ok limits =>
    cases ht : d.table with
    | error flaw =>
      rw [hl, ht] at h
      cases h
    | ok table =>
      rw [hl, ht] at h
      cases h
      exact ⟨rfl, rfl⟩

/-! ## The outcome -/

/-- A document is accepted exactly if it is acceptable, and otherwise its flaw is that of the first check that fails. What
is accepted has the limits and the routes that are written, in their order, or the defaults, and every mount point is in
the form in which it is compared with paths. To leave out a path of a route or its `host` is to write the default. -/
theorem build_outcome (d : Document) :
    ((∃ settings, d.build = .ok settings) ↔ d.Acceptable)
      ∧ (∀ flaw, d.build = .error flaw ↔ FirstFlaw d.checks flaw)
      ∧ (∀ limits table, d.build = .ok (limits, table) → d.Carries limits
          ∧ (∃ entries, d.routes = some entries ∧ List.Forall₂ RouteEntry.Describes entries table.routes)
          ∧ ∀ route ∈ table.routes, MountLegal route.mount ∧ ¬ Route.EndsIn '/' route.mount.toList)
      ∧ d.spelt.build = d.build := by
  refine ⟨d.decides_build.ok_iff.trans acceptable_iff.symm, fun flaw => d.decides_build.error_iff, ?_, d.build_spelt⟩
  intro limits table accepted
  obtain ⟨hl, ht⟩ := build_ok accepted
  obtain ⟨entries, written, described⟩ := describes_of_table ht
  have normal : List.Forall₂ (fun route r => (MountLegal route.mount ∧ ¬ Route.EndsIn '/' route.mount.toList)
      ∧ RouteEntry.Describes r route) table.routes entries :=
    List.Forall₂.flip (described.imp fun r route describes => ⟨⟨describes.legal, describes.slashless⟩, describes⟩)
  exact ⟨carries_of_limits hl, ⟨entries, written, described⟩, ((List.forall₂_and_left _ _).1 normal).1⟩

end Document

end Settings

end Gateway
