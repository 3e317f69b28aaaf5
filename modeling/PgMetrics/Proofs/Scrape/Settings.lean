import PgMetrics.Proofs.Outcome
import PgMetrics.Scrape.Pass

/-!
# The metrics of server parameters

Every metric of the parameters is the gauge of a parameter.
-/

namespace PgMetrics

namespace Setting

/-- The gauge of a parameter carries the labels that it was given and has a name of its own. -/
theorem metric_eq_ok {p : Setting} {stem : String} {labels : Dict String String} {m : Metric}
    (h : p.metric stem labels = .ok m) :
    ∃ name help value,
      m = .scalar ⟨metricName stem "settings" name, help, [], labels⟩ .gauge value [] := by
  unfold metric at h
  dsimp only at h
  split at h
  · cases h
    exact ⟨_, _, _, rfl⟩
  · split at h
    · split at h
      · cases h
      · cases h
        exact ⟨_, _, _, rfl⟩
      · cases h
        exact ⟨_, _, _, rfl⟩
    · cases h

end Setting

namespace Settings

/-- A row adds at most the gauge of one parameter. -/
theorem exists_setting_of_mem_addRow {stem : String} {labels : Dict String String}
    {row : List Value} {batch next : SettingsBatch} (h : addRow stem labels batch row = .ok next)
    {m : Metric} (mem : m ∈ next.metrics) :
    m ∈ batch.metrics ∨ ∃ p : Setting, p.metric stem labels = .ok m := by
  unfold addRow at h
  split at h
  case h_1 =>
    cases h
    exact .inl mem
  case h_2 p _ =>
    split at h
    case h_1 gauge read =>
      cases h
      rcases List.mem_append.mp mem with mem | mem
      · exact .inl mem
      · obtain rfl := List.mem_singleton.mp mem
        exact .inr ⟨p, read⟩
    case h_2 e _ =>
      split at h
      · cases h
      · cases h
        exact .inl mem

theorem exists_setting_of_mem_foldlM {stem : String} {labels : Dict String String}
    {rows : List (List Value)} {start batch : SettingsBatch}
    (h : rows.foldlM (addRow stem labels) start = .ok batch) {m : Metric}
    (mem : m ∈ batch.metrics) :
    m ∈ start.metrics ∨ ∃ p : Setting, p.metric stem labels = .ok m := by
  induction rows generalizing start with
  | nil =>
    cases h
    exact .inl mem
  | cons row rest ih =>
    obtain ⟨next, added, h⟩ := bind_eq_ok.mp h
    rcases ih h with mem | setting
    · exact exists_setting_of_mem_addRow added mem
    · exact .inr setting

end Settings

/-- The metrics of the parameters of a server. -/
theorem Server.exists_setting_of_mem_scrapeSettings {δ : Type} {b : Backend δ}
    {options : ScrapeOptions} {s : Server} {w : World δ} {report : Report}
    (h : (s.scrapeSettings b options w).1 = .ok report) {m : Metric} (mem : m ∈ report.metrics) :
    ∃ p : Setting, p.metric options.stem s.labels = .ok m := by
  unfold scrapeSettings at h
  split at h
  case isTrue =>
    unfold readSettings settingsOf at h
    cases answer : (w.query b s.fingerprint Settings.query).1 with
    | error e =>
      simp only [answer] at h
      split at h
      · cases h
      · cases h
        cases mem
    | ok result =>
      simp only [answer] at h
      cases collected : Settings.collect options.stem s.labels result.rows with
      | ok batch =>
        simp only [collected] at h
        cases h
        rcases Settings.exists_setting_of_mem_foldlM collected mem with none | setting
        · cases none
        · exact setting
      | error e =>
        simp only [collected] at h
        split at h
        · cases h
        · cases h
          cases mem
  case isFalse =>
    cases h
    cases mem

end PgMetrics
