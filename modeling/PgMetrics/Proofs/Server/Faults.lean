import PgMetrics.Proofs.Server.Queries

/-!
# What goes wrong in a pass

The version, the parameters, the queries and the values of a pass may each go wrong, and the report
keeps them apart. Here the errors of a report are traced back to the turns of the namespaces, and
the outcome of a pass is told from its parameters and its turns.

## Main definitions

* `PassRecord.Troubled` — the ways in which something went wrong in a pass.
* `PassRecord.Coherent` — how the outcome of a pass follows from its parts.
-/

namespace PgMetrics

/-! ## The errors of a report -/

theorem Report.hasErrors_iff {r : Report} :
    r.hasErrors = true ↔
      r.namespaceErrors ≠ [] ∨ r.conversionErrors ≠ [] ∨ r.settingsErrors ≠ [] := by
  simp [hasErrors, or_assoc]

theorem Report.hasErrors_append {a b : Report} :
    (a.append b).hasErrors = true ↔ a.hasErrors = true ∨ b.hasErrors = true := by
  simp only [hasErrors_iff, append, ne_eq, List.append_eq_nil_iff]
  tauto

theorem Turn.hasErrors_report {turn : Turn} :
    turn.report.hasErrors = true ↔
      (∃ e, turn = .failed e) ∨ ∃ batch, turn = .read batch ∧ batch.errors ≠ [] := by
  cases turn with
  | passedOver => simp [report, Report.empty, Report.hasErrors]
  | replayed metrics => simp [report, Report.ofMetrics, Report.hasErrors]
  | read batch => simp [report, Report.ofBatch, Report.hasErrors]
  | failed e => simp [report, Report.ofQueryError, Report.hasErrors]

theorem Turn.hasErrors_reportAll {turns : List (String × Turn)} :
    (reportAll turns).hasErrors = true ↔ ∃ t ∈ turns, t.2.report.hasErrors = true := by
  induction turns with
  | nil => simp [reportAll, Report.empty, Report.hasErrors]
  | cons t rest ih =>
    rw [List.exists_mem_cons_iff, ← ih]
    exact Report.hasErrors_append

/-- The parameters have errors of one kind only. -/
theorem Server.hasErrors_scrapeSettings {δ : Type} {b : Backend δ} {options : ScrapeOptions}
    {s : Server} {w : World δ} {report : Report}
    (given : (s.scrapeSettings b options w).1 = .ok report) :
    report.hasErrors = true ↔ report.settingsErrors ≠ [] := by
  unfold scrapeSettings at given
  split at given
  case isTrue =>
    split at given
    case h_1 batch w' read =>
      cases given
      simp [Report.ofSettings, Report.hasErrors]
    case h_2 e w' read =>
      dsimp only at given
      split at given
      · cases given
      · cases given
        simp [Report.ofSettingsError, Report.hasErrors]
  case isFalse =>
    cases given
    simp [Report.empty, Report.hasErrors]

/-! ## A pass by its parts -/

namespace PassRecord

/-- Something went wrong in a pass over a server. -/
inductive Troubled (r : PassRecord) : Prop
  /-- The version was not told. -/
  | version {e : QueryError} (failed : r.refreshed = .error e)
  /-- A parameter has an unknown unit. -/
  | unit {e : SettingsError} (unknown : r.settings = .error e)
  /-- The parameters could not be read, or one of them was skipped. -/
  | setting {report : Report} (given : r.settings = .ok report)
      (skipped : report.settingsErrors ≠ [])
  /-- The query of a namespace failed. -/
  | query {name : String} {e : QueryError} (failed : (name, .failed e) ∈ r.turns)
  /-- A value of a namespace could not be converted. -/
  | value {name : String} {batch : Batch} (read : (name, .read batch) ∈ r.turns)
    (dropped : batch.errors ≠ [])

/-- The outcome of a pass follows from its parameters and its turns. -/
structure Coherent (r : PassRecord) : Prop where
  unit : ∀ e, r.settings = .error e →
    r.outcome = .error (.settings e) ∧ ∃ parameter text, e = .unknownUnit parameter text
  settings : ∀ report, r.settings = .ok report →
    (report.hasErrors = true ↔ report.settingsErrors ≠ [])
  report : ∀ settings, r.settings = .ok settings →
    (∃ a, r.outcome = .error (.abort a)) ∨
      r.outcome = .ok (settings.append (Turn.reportAll r.turns))

variable {r : PassRecord}

/-- Only an unknown unit ends a pass with a fault. -/
theorem Coherent.settings_eq_error_iff (h : r.Coherent) {e : SettingsError} :
    r.settings = .error e ↔ r.outcome = .error (.settings e) := by
  constructor
  · intro unknown
    exact (h.unit e unknown).1
  · intro ended
    cases given : r.settings with
    | error e' =>
      rw [(h.unit e' given).1] at ended
      cases ended
      rfl
    | ok settings =>
      rcases h.report settings given with ⟨a, aborted⟩ | complete
      · rw [aborted] at ended
        cases ended
      · rw [complete] at ended
        cases ended

/-- A report shows what went wrong, the version apart. -/
theorem Coherent.hasErrors_iff (h : r.Coherent) {report : Report} (ok : r.outcome = .ok report) :
    report.hasErrors = true ↔
      (∃ settings, r.settings = .ok settings ∧ settings.settingsErrors ≠ []) ∨
      (∃ name e, (name, .failed e) ∈ r.turns) ∨
      ∃ name batch, (name, .read batch) ∈ r.turns ∧ batch.errors ≠ [] := by
  cases given : r.settings with
  | error e =>
    rw [(h.unit e given).1] at ok
    cases ok
  | ok settings =>
    rcases h.report settings given with ⟨a, aborted⟩ | complete
    · rw [aborted] at ok
      cases ok
    · rw [complete] at ok
      cases ok
      rw [Report.hasErrors_append, h.settings settings given,
        Turn.hasErrors_reportAll]
      constructor
      · rintro (skipped | ⟨⟨name, turn⟩, mem, errors⟩)
        · exact .inl ⟨settings, rfl, skipped⟩
        · rcases Turn.hasErrors_report.mp errors with ⟨e, rfl⟩ | ⟨batch, rfl, dropped⟩
          · exact .inr (.inl ⟨name, e, mem⟩)
          · exact .inr (.inr ⟨name, batch, mem, dropped⟩)
      · rintro (⟨_, ⟨⟩, skipped⟩ | ⟨name, e, mem⟩ | ⟨name, batch, mem, dropped⟩)
        · exact .inl skipped
        · exact .inr ⟨_, mem, Turn.hasErrors_report.mpr (.inl ⟨e, rfl⟩)⟩
        · exact .inr ⟨_, mem, Turn.hasErrors_report.mpr (.inr ⟨batch, rfl, dropped⟩)⟩

/-- What went wrong shows in one of three places. -/
theorem Coherent.troubled_iff (h : r.Coherent) (whole : ∀ a, r.outcome ≠ .error (.abort a)) :
    r.Troubled ↔
      (∃ e, r.refreshed = .error e) ∨ (∃ e, r.outcome = .error (.settings e)) ∨
        ∃ report, r.outcome = .ok report ∧ report.hasErrors = true := by
  constructor
  · intro troubled
    -- a pass that did not end early has a report, and that shows the rest
    have shown (errors : ∀ report, r.outcome = .ok report → report.hasErrors = true) :
        (∃ e, r.outcome = .error (.settings e)) ∨
          ∃ report, r.outcome = .ok report ∧ report.hasErrors = true := by
      cases outcome : r.outcome with
      | ok report => exact .inr ⟨report, rfl, errors report outcome⟩
      | error stop =>
        cases stop with
        | settings e => exact .inl ⟨e, rfl⟩
        | abort a => exact absurd outcome (whole a)
    cases troubled with
    | version failed => exact .inl ⟨_, failed⟩
    | unit unknown => exact .inr (.inl ⟨_, (h.unit _ unknown).1⟩)
    | setting given skipped =>
      exact .inr (shown fun report ok => (h.hasErrors_iff ok).mpr (.inl ⟨_, given, skipped⟩))
    | query failed =>
      exact .inr (shown fun report ok => (h.hasErrors_iff ok).mpr (.inr (.inl ⟨_, _, failed⟩)))
    | value read dropped =>
      exact .inr (shown fun report ok =>
        (h.hasErrors_iff ok).mpr (.inr (.inr ⟨_, _, read, dropped⟩)))
  · rintro (⟨e, failed⟩ | ⟨e, ended⟩ | ⟨report, ok, errors⟩)
    · exact .version failed
    · exact .unit (h.settings_eq_error_iff.mpr ended)
    · rcases (h.hasErrors_iff ok).mp errors with
        ⟨settings, given, skipped⟩ | ⟨name, e, failed⟩ | ⟨name, batch, read, dropped⟩
      · exact .setting given skipped
      · exact .query failed
      · exact .value read dropped

end PassRecord

namespace Server

variable {δ : Type}

theorem coherent_passOn (b : Backend δ) (i : Circumstances δ)
    (refreshed : Except QueryError VersionInfo) (s : Server) (w : World δ) :
    (s.passOn b i refreshed w).1.Coherent := by
  have scraped := scrape_eq b i.options i.now s w
  unfold passOn
  rcases asked : s.scrapeSettings b i.options w with ⟨answer, w'⟩
  have first : (s.scrapeSettings b i.options w).1 = answer := congrArg Prod.fst asked
  rw [asked] at scraped
  cases answer with
  | error e =>
    obtain ⟨-, -, unknown⟩ := scrapeSettings_eq_error_iff.mp first
    refine ⟨?_, nofun, nofun⟩
    rintro _ ⟨⟩
    exact ⟨congrArg Prod.fst scraped, unknown⟩
  | ok settings =>
    refine ⟨nofun, ?_, ?_⟩
    · rintro _ ⟨⟩
      exact hasErrors_scrapeSettings first
    · rintro _ ⟨⟩
      dsimp only [passTurns] at scraped ⊢
      rw [scraped]
      cases (takeTurns b i.now s.plan.schemas.toList s w').abort with
      | some a => exact .inl ⟨a, rfl⟩
      | none => exact .inr rfl

theorem coherent_pass (b : Backend δ) (c : Catalog) (i : Circumstances δ) (s : Server) :
    (s.pass b c i).1.Coherent :=
  coherent_passOn b i _ _ _

end Server

end PgMetrics
