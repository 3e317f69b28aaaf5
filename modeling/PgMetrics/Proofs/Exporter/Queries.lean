import PgMetrics.Proofs.Exporter.Rendering
import PgMetrics.Proofs.Exporter.Turns

/-!
# The queries of a turn

The queries that an endpoint is asked in its turn are told by the server that was acquired, its plan
and its cache. Getting the server asks nothing. Then come the version, the parameters, and the
namespaces of the plan in the order of their names; whether a query fails makes no difference to
those that follow.
-/

namespace PgMetrics

namespace Registry

variable {δ : Type} (b : Backend δ) (server : String)

theorem queriesTo_openServer (e : Endpoint) (r : Registry) (w : World δ) :
    (r.openServer b e w).2.2.queriesTo server = w.queriesTo server := by
  have connected := World.queriesTo_connect b e w server
  rcases openServer_cases b e r w with
    ⟨s, -, opened⟩ | ⟨-, ⟨source, w', connecting, opened⟩ | ⟨w', connecting, opened⟩⟩
  · rw [opened]
  · rw [connecting] at connected
    rw [opened]
    exact connected
  · rw [connecting] at connected
    rw [opened]
    exact connected

theorem queriesTo_attempt (e : Endpoint) (r : Registry) (w : World δ) :
    (r.attempt b e w).2.2.queriesTo server = w.queriesTo server := by
  have opening := queriesTo_openServer b server e r w
  unfold attempt
  generalize r.openServer b e w = opened at opening ⊢
  obtain ⟨answer, r', w'⟩ := opened
  cases answer with
  | error error => exact opening
  | ok s =>
    dsimp only at opening ⊢
    rw [← opening]
    rcases ping_cases b s w' with alive | ⟨error, dead⟩
    · rw [alive]
      exact World.queriesTo_ping b w' s.fingerprint server
    · rw [dead]
      exact (World.queriesTo_close b _ _ server).trans (World.queriesTo_ping b w' _ server)

/-- Getting a server asks no queries. -/
theorem queriesTo_acquire (e : Endpoint) (r : Registry) (w : World δ) :
    (r.acquire b e w).2.2.queriesTo server = w.queriesTo server := by
  have attempt (r' : Registry) (w' : World δ) (same : w'.queriesTo server = w.queriesTo server) :
      (r'.attempt b e w').2.2.queriesTo server = w.queriesTo server :=
    (queriesTo_attempt b server e r' w').trans same
  have sleep (_ : Registry) (w' : World δ) (span : Span)
      (same : w'.queriesTo server = w.queriesTo server) :
      (w'.sleep span).queriesTo server = w.queriesTo server :=
    (World.queriesTo_sleep w' span server).trans same
  exact (attempts_induction (P := fun _ w' => w'.queriesTo server = w.queriesTo server) attempt
    sleep 0 none r.policy.maxAttempts.toNat rfl).1

end Registry

namespace Exporter

section Turn

variable {δ : Type} {b : Backend δ} {clock : PassClock} {x : Exporter} {w w' : World δ}

/-- What the turn of an acquired server leaves, and when it aborts. -/
theorem world_scrapeEndpoint (clock : PassClock) {e : Endpoint} {s : Server} {registry : Registry}
    (acquired : x.registry.acquire b e w = (.ok s, registry, w')) :
    let refreshed := s.refresh b x.catalog w'
    let scraped := refreshed.2.1.scrape b x.options (clock.now e.fingerprint) refreshed.2.2
    (x.scrapeEndpoint b clock e w).2.2 = scraped.2.2 ∧
      ∀ a, scraped.1 = .error (.abort a) →
        (x.scrapeEndpoint b clock e w).1 = .error (.abort a) := by
  unfold scrapeEndpoint refreshServer
  rw [acquired]
  dsimp only
  rcases s.refresh b x.catalog w' with ⟨answer, s₁, w₁⟩
  cases answer
  all_goals
    dsimp only
    rcases s₁.scrape b x.options (clock.now e.fingerprint) w₁ with ⟨outcome, s₂, w₂⟩
    cases outcome with
    | ok report => exact ⟨rfl, nofun⟩
    | error stop =>
      refine ⟨rfl, ?_⟩
      rintro a ⟨⟩
      rfl

/-- The server that is given out for an endpoint has its name and a plan of the catalog, and was
asked nothing yet. -/
theorem planOf_of_acquire (sound : x.Sound) {e : Endpoint} {s : Server} {registry : Registry}
    (acquired : x.registry.acquire b e w = (.ok s, registry, w')) :
    s.fingerprint = e.fingerprint ∧ x.catalog.PlanOf s.labels s.plan ∧
      w'.queriesTo e.fingerprint = w.queriesTo e.fingerprint := by
  have silent := Registry.queriesTo_acquire b e.fingerprint e x.registry w
  obtain ⟨-, -, server⟩ := Registry.kept_acquire (isKept_sound x.catalog _) sound b e w
  rw [acquired] at silent server
  obtain ⟨named, sound'⟩ := server s rfl
  refine ⟨named, ?_, silent⟩
  rw [sound'.labels]
  exact sound'.planOf

/-- In a turn of an acquired server the queries are, in order: the version, the parameters where
they are wanted, and one for each namespace of the plan in force that is not skipped; after an
unknown unit there are none for namespaces. -/
theorem queries_of_turn {c : Config} {files : String → FileState}
    (reachable : Reachable b c files x) {t : EndpointTurn δ} (mem : t ∈ x.turnsOf b clock w)
    {s : Server} {registry : Registry}
    (acquired : t.before.registry.acquire b t.endpoint t.world = (.ok s, registry, w'))
    (whole : ∀ a, t.outcome ≠ .error (.abort a)) :
    let name := t.endpoint.fingerprint
    let refreshed := s.refresh b x.catalog w'
    let s₁ := refreshed.2.1
    let settings := (s₁.scrapeSettings b x.options refreshed.2.2).1
    s₁ = { s with plan := s₁.plan } ∧
    (∀ info, refreshed.1 = .ok info → s₁.plan = x.catalog.compile info.version s.labels) ∧
    (∀ e, refreshed.1 = .error e → s₁.plan = s.plan) ∧
    s₁.plan.schemas.toList.Pairwise (fun m n => compare m.1 n.1 = .lt) ∧
    (∀ e, settings = .error e ↔ (x.options.settings && s₁.master) = true ∧
      (s₁.readSettings b x.options.stem refreshed.2.2).1 = .error e ∧
      ∃ parameter unit, e = .unknownUnit parameter unit) ∧
    t.worldAfter.queriesTo name = t.world.queriesTo name ++
      versionQuery ::
        (s₁.settingsQueries x.options ++ s₁.namespaceQueries (clock.now name) settings) := by
  intro name refreshed s₁ settings
  have start : x.Sound := sound_of_reachable reachable
  -- the turns before this one have kept the catalog and the options
  obtain ⟨sound, same, taken⟩ :=
    turn_of_mem (x := { x with status := x.status.beginPass }) start mem
  have catalog : t.before.catalog = x.catalog := same.catalog
  have options : t.before.options = x.options := same.options
  obtain ⟨named, planOf, silent⟩ := planOf_of_acquire sound acquired
  obtain ⟨world, aborts⟩ := world_scrapeEndpoint clock acquired
  rw [catalog] at planOf world aborts
  rw [options] at world aborts
  have outcome : t.outcome = (t.before.scrapeEndpoint b clock t.endpoint t.world).1 :=
    congrArg EndpointTurn.outcome taken
  have after : t.worldAfter = (t.before.scrapeEndpoint b clock t.endpoint t.world).2.2 :=
    congrArg EndpointTurn.worldAfter taken
  obtain ⟨kept, current, old⟩ := Server.plan_refresh b planOf w'
  refine ⟨kept, current, old, s₁.plan.schemas.ascending, ?_, ?_⟩
  · intro e
    exact Server.scrapeSettings_eq_error_iff
  · have asked := Server.queriesTo_scrape_refresh b x.catalog x.options (clock.now name) s w'
      fun a aborted => whole a (outcome.trans (aborts a aborted))
    rw [named, silent] at asked
    rw [after, world]
    exact asked

end Turn

namespace FirstPass

open UnknownColumn

/-- The one turn of the first pass. -/
def first : EndpointTurn Unit :=
  turn backend clock { exporter with status := exporter.status.beginPass } (.ofHost "db") world

theorem mem_turns : first ∈ exporter.turnsOf backend clock world := by
  have endpoints : exporter.endpoints = [.ofHost "db"] :=
    endpoints_of_new (eq_ok_get_toOption exporter_isSome)
  have turns : exporter.turnsOf backend clock world = endpointTurns backend clock [.ofHost "db"]
      { exporter with status := exporter.status.beginPass } world :=
    congrArg (fun l => endpointTurns backend clock l _ world) endpoints
  rw [turns]
  exact mem_endpointTurns_cons backend clock (.ofHost "db") [] _ world

theorem acquired_isSome :
    (first.before.registry.acquire backend first.endpoint first.world).1.toOption.isSome =
      true := by
  decide +kernel

/-- The server of the turn. -/
def server : Server :=
  (first.before.registry.acquire backend first.endpoint first.world).1.toOption.get acquired_isSome

theorem acquired :
    first.before.registry.acquire backend first.endpoint first.world =
      (.ok server, (first.before.registry.acquire backend first.endpoint first.world).2) :=
  Prod.ext (eq_ok_get_toOption acquired_isSome) rfl

theorem isOk_outcome : first.outcome.isOk = true := by
  decide +kernel

/-- A first pass asks for the version and for the one namespace. -/
theorem queries_of_first :
    first ∈ exporter.turnsOf backend clock world ∧
      first.worldAfter.queriesTo first.endpoint.fingerprint = [versionQuery, "select a, b"] := by
  have whole : ∀ a, first.outcome ≠ .error (.abort a) := by
    intro a aborted
    have ok := isOk_outcome
    rw [aborted] at ok
    cases ok
  obtain ⟨-, -, -, -, -, queries⟩ := queries_of_turn reachable mem_turns acquired whole
  refine ⟨mem_turns, queries.trans ?_⟩
  decide +kernel

end FirstPass

end Exporter

end PgMetrics
