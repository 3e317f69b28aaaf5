import PgMetrics.Proofs.Exporter.Interference

/-!
# Whose metrics they are

A metric tells by its fixed labels which server it comes from. In a valid configuration no constant
label stands in the way of that, and so every metric of a pass has exactly the constant labels and
the fingerprint of the endpoint in whose turn it was given, be it read in that turn or replayed from
an earlier one.

## Main definitions

* `Metric.AttributedTo` — the metrics of one server.
* `Exporter.KeepsAttributed` — exporters whose captures all stand with the server they came from.
-/

namespace PgMetrics

/-- The fixed labels are the constant ones with that of the server, and every varying label has a
value. -/
structure Metric.AttributedTo (constantLabels : Dict String String) (fingerprint : String)
    (m : Metric) : Prop where
  fixed : m.descriptor.constLabels.toList.Perm ((serverLabel, fingerprint) :: constantLabels.toList)
  width : m.labelValues.length = m.descriptor.variableLabels.length

/-- The name of the server's label is free in a valid configuration. -/
theorem Config.get?_serverLabel_of_validate {c : Config} (h : c.validate = .ok ()) :
    c.exporter.constantLabels.get? serverLabel = none := by
  refine Dict.get?_eq_none_iff.mpr fun value mem => ?_
  exact ((validate_eq_ok_iff.mp h).labels serverLabel (List.mem_map_of_mem mem)).1 rfl

namespace Exporter

variable {δ : Type}

/-- Every capture has the metrics of the server that it stands with. -/
def KeepsAttributed (constantLabels : Dict String String) (x : Exporter) : Prop :=
  ∀ fingerprint s, x.registry.servers.get? fingerprint = some s →
    ∀ namespaceName capture, s.cache.captures.get? namespaceName = some capture →
      ∀ m ∈ capture.metrics, m.AttributedTo constantLabels fingerprint

theorem Emits.width {x : Exporter} {fingerprint : String} {m : Metric}
    (h : x.Emits fingerprint m) : m.labelValues.length = m.descriptor.variableLabels.length := by
  cases h with
  | version own info => rfl
  | setting gauge =>
    obtain ⟨name, help, value, rfl⟩ := Setting.metric_eq_ok gauge
    rfl
  | column exported =>
    obtain ⟨namespaceName, n, v, column, -, exports⟩ := exported
    exact exports.width

/-- What is emitted for an endpoint is attributed to it where the name of the label is free. -/
theorem Emits.attributedTo {x : Exporter} {fingerprint : String} {m : Metric}
    (h : x.Emits fingerprint m) (free : x.registry.constantLabels.get? serverLabel = none) :
    m.AttributedTo x.registry.constantLabels fingerprint := by
  refine ⟨?_, h.width⟩
  rw [h.labels, labelsOf]
  exact Dict.toList_insert_perm free fingerprint

theorem Sound.keepsAttributed {x : Exporter} (h : x.Sound)
    (free : x.registry.constantLabels.get? serverLabel = none) :
    x.KeepsAttributed x.registry.constantLabels := by
  intro fingerprint s registered namespaceName capture found m mem
  obtain ⟨-, sound⟩ := h fingerprint s registered
  exact (Emits.column (sound.captures namespaceName capture found m mem)).attributedTo free

/-! ## Every run -/

/-- Every metric that a reachable exporter gives or keeps is attributed to its server: what is
given in the turn of an endpoint to that endpoint, and what is kept, before a pass and after each of
its turns, to the server with which it is kept. A pass gives what its turns give, and a turn gives
what the pass has of its server. -/
theorem metrics_attributed {b : Backend δ} {c : Config} {files : String → FileState}
    {x : Exporter} (valid : c.validate = .ok ()) (reachable : Reachable b c files x)
    (clock : PassClock) (w : World δ) :
    x.KeepsAttributed c.exporter.constantLabels ∧
    (∀ t ∈ x.turnsOf b clock w, t.endpoint ∈ c.endpoints ∧
      (∀ m ∈ t.metrics,
        m.AttributedTo c.exporter.constantLabels t.endpoint.fingerprint) ∧
      t.after.KeepsAttributed c.exporter.constantLabels) ∧
    ∀ metrics, (x.collect b clock w).1 = .ok metrics →
      (x.turnsOf b clock w).map (·.endpoint) = c.endpoints ∧
      metrics = (x.turnsOf b clock w).flatMap EndpointTurn.metrics ∧
      ∀ t ∈ x.turnsOf b clock w, slice t.endpoint.fingerprint metrics = t.metrics := by
  have sound := sound_of_reachable reachable
  obtain ⟨endpoints, -, labels⟩ := configured_of_reachable reachable
  have free := Config.get?_serverLabel_of_validate valid
  have distinct := Config.nodup_of_validate valid
  rw [← labels] at free ⊢
  rw [← endpoints] at distinct ⊢
  have begun : Sound { x with status := x.status.beginPass } := sound
  refine ⟨sound.keepsAttributed free, fun t mem => ⟨endpoint_of_mem mem, fun m given => ?_, ?_⟩,
    fun metrics collected => ?_⟩
  · exact (emits_of_mem_metrics begun mem given).attributedTo free
  · obtain ⟨sound', same⟩ := after_of_mem begun mem
    have kept := same.constantLabels
    dsimp only at kept
    rw [← kept] at free ⊢
    exact sound'.keepsAttributed free
  · obtain ⟨turns, given⟩ := metrics_of_collectIn collected
    exact ⟨turns, given, fun t mem => slice_of_collectIn sound distinct collected mem⟩

namespace TwoServers

/-- A text that declares a query with a label, a gauge and a window of an hour. -/
def text : String :=
  "pg_x:\n  query: select a, b\n  cache_seconds: 3600\n  metrics:\n" ++
    "    - a: \x7busage: LABEL, description: A\x7d\n" ++
    "    - b: \x7busage: GAUGE, description: B\x7d\n"

/-- Two endpoints and a constant label. -/
def config : Config :=
  { Config.standard with
    exporter := { ScrapeConfig.standard with
      constantLabels := .ofList [("env", "test")]
      disableDefaultMetrics := true
      userQueriesPath := some "queries.yaml" }
    endpoints := [.ofHost "db", .ofHost "near"] }

/-- Databases that have one parameter and a row for the query. -/
def backend : Backend Unit where
  connect _ d := (.ok (), d)
  ping d := (.ok (), d)
  query sql d :=
    if sql = versionQuery then (.ok ⟨["version"], [[.text "PostgreSQL 14.0"]]⟩, d)
    else if sql = Settings.query then
      (.ok ⟨[], [[.text "jit", .text "on", .text "", .text "", .text "bool"]]⟩, d)
    else (.ok ⟨["a", "b"], [[.text "x", .int 1]]⟩, d)
  close d := d

/-- The start of 1970, for passes that take no time. -/
def clock : PassClock := ⟨fun _ => default, 0.0⟩

def world : World Unit := ⟨fun _ => (), []⟩

def files (_ : String) : FileState := .contents text.toUTF8.toList

/-- The names and the fixed labels of the metrics in the turns of the second pass. -/
def secondPass (x : Exporter) : List (List (String × List (String × String))) :=
  ((x.collect backend clock world).2.1.turnsOf backend clock world).map fun t =>
    t.metrics.map fun m => (m.name, m.descriptor.constLabels.toList)

/-- Both endpoints read their parameter and replay the row. -/
theorem secondPass_of_config :
    config.validate = .ok () ∧ (Exporter.new config files).toOption.map secondPass = some
      [[("pg_settings_jit", [("env", "test"), ("server", "db:5432")]),
        ("pg_x_b", [("env", "test"), ("server", "db:5432")])],
      [("pg_settings_jit", [("env", "test"), ("server", "near:5432")]),
        ("pg_x_b", [("env", "test"), ("server", "near:5432")])]] := by
  decide +kernel

theorem attributed_of_second_pass :
    ∃ x, Exporter.new config files = .ok x ∧ (secondPass x).map List.length = [2, 2] ∧
      let second := (x.collect backend clock world).2.1
      second.KeepsAttributed config.exporter.constantLabels ∧
        ∀ t ∈ second.turnsOf backend clock world, ∀ m ∈ t.metrics,
          m.AttributedTo config.exporter.constantLabels t.endpoint.fingerprint := by
  obtain ⟨valid, pass⟩ := secondPass_of_config
  obtain ⟨x, created, given⟩ := Option.map_eq_some_iff.mp pass
  have new := eq_ok_of_toOption created
  obtain ⟨kept, turns, -⟩ :=
    metrics_attributed valid ((Reachable.created new).collect clock world) clock world
  exact ⟨x, new, by simp [given], kept, fun t mem => (turns t mem).2.1⟩

end TwoServers

end Exporter

end PgMetrics
