import PgMetrics.Proofs.Scrape.Turns

/-!
# All parameters, or the first unknown unit

The parameters of a server are delivered row by row: every row with the five cells of a parameter
gives its gauge or is passed over with one error. Only a number with a unit outside the table stops
them, and then the first such row is told and nothing is delivered. A pass ends there; it goes on
where the query for the parameters itself fails.

## Main definitions

* `Setting.HasUnknownUnit` — the parameters that stop a pass.
* `Setting.Gives` — what the others give.

## Main results

* `Settings.collect_of_known`, `Settings.collect_of_unknown` — the rows of an answer.
* `Server.parameters_all_or_first_defect` — the parameters in a pass.
-/

namespace PgMetrics

namespace Setting

/-- The types that are exported as the number that a text reads as. -/
def IsNumeric (p : Setting) : Prop := p.type = "integer" ∨ p.type = "real"

instance (p : Setting) : Decidable p.IsNumeric :=
  inferInstanceAs (Decidable (p.type = "integer" ∨ p.type = "real"))

/-- What the text of a parameter reads as, without the blanks around it. -/
def reading (p : Setting) : Except NumeralError Float := readFloat (Text.trim p.setting.toList)

/-- A number whose unit is given and stands in no row of the table. -/
structure HasUnknownUnit (p : Setting) : Prop where
  numeric : p.IsNumeric
  readable : p.reading.isOk
  given : p.unit ≠ ""
  outside : p.unit ∉ SettingUnit.table.map (·.1)

instance (p : Setting) : Decidable p.HasUnknownUnit :=
  decidable_of_iff
    (p.IsNumeric ∧ p.reading.isOk ∧ p.unit ≠ "" ∧ p.unit ∉ SettingUnit.table.map (·.1))
    ⟨fun ⟨numeric, readable, given, outside⟩ => ⟨numeric, readable, given, outside⟩,
      fun ⟨numeric, readable, given, outside⟩ => ⟨numeric, readable, given, outside⟩⟩

/-- What a parameter gives whose unit does not stop the pass: its gauge, or the error with which it
is passed over. -/
inductive Gives (stem : String) (labels : Dict String String) (p : Setting) :
    Metric ⊕ SettingsError → Prop
  | gauge {m : Metric} (sound : p.type = "bool" ∨ p.IsNumeric ∧ p.reading.isOk)
      (exported : p.metric stem labels = .ok m) : Gives stem labels p (.inl m)
  | unsupported (other : p.type ≠ "bool") (notNumeric : ¬ p.IsNumeric) :
      Gives stem labels p (.inr (.unsupportedType p.name p.type))
  | invalid {e : NumeralError} (numeric : p.IsNumeric) (unread : p.reading = .error e) :
      Gives stem labels p (.inr (.invalidValue p.name p.setting e.message))

theorem isSome_ofRow?_iff {row : List Value} : (ofRow? row).isSome ↔ 5 ≤ row.length := by
  match row with
  | [] | [_] | [_, _] | [_, _, _] | [_, _, _, _] => simp [ofRow?]
  | _ :: _ :: _ :: _ :: _ :: _ => simp [ofRow?]

theorem ofName?_eq_none_iff {unit : String} :
    SettingUnit.ofName? unit = none ↔ unit ∉ SettingUnit.table.map (·.1) := by
  simp only [SettingUnit.ofName?, List.lookup_eq_none_iff, List.mem_map, bne_iff_ne]
  grind

variable {p : Setting}

/-- The number is read first, and then the unit is looked up. -/
theorem normalise_of_unread {e : NumeralError} (unread : p.reading = .error e) :
    p.normalise = .error (.invalidValue p.name p.setting e.message) := by
  rw [reading] at unread
  rw [normalise, unread]

theorem normalise_of_read {value : Float} (read : p.reading = .ok value) :
    (p.unit ≠ "" ∧ p.unit ∉ SettingUnit.table.map (·.1) ∧
      p.normalise = .error (.unknownUnit p.name p.unit)) ∨
    ((p.unit = "" ∨ p.unit ∈ SettingUnit.table.map (·.1)) ∧ ∃ r, p.normalise = .ok r) := by
  rw [reading] at read
  rw [normalise, read]
  dsimp only
  split
  case isTrue none => exact .inr ⟨.inl none, _, rfl⟩
  case isFalse given =>
    split
    case h_1 missing => exact .inl ⟨given, ofName?_eq_none_iff.mp missing, rfl⟩
    case h_2 u found =>
      refine .inr ⟨.inr ?_, _, rfl⟩
      by_contra outside
      simp [ofName?_eq_none_iff.mpr outside] at found

section Metric

variable (stem : String) (labels : Dict String String)

theorem metric_of_bool (bool : p.type = "bool") : ∃ m, p.metric stem labels = .ok m := by
  simp only [metric, if_pos bool]
  exact ⟨_, rfl⟩

theorem metric_of_other (other : p.type ≠ "bool") (notNumeric : ¬ p.IsNumeric) :
    p.metric stem labels = .error (.unsupportedType p.name p.type) := by
  unfold IsNumeric at notNumeric
  simp only [metric, if_neg other, if_neg notNumeric]

/-- A number is exported if its value can be given in base units. -/
theorem metric_of_numeric (numeric : p.IsNumeric) :
    (∀ e, p.normalise = .error e → p.metric stem labels = .error e) ∧
      ∀ r, p.normalise = .ok r → ∃ m, p.metric stem labels = .ok m := by
  have other : p.type ≠ "bool" := by
    rcases numeric with type | type <;> simp [type]
  unfold IsNumeric at numeric
  constructor
  · intro e failed
    simp only [metric, if_neg other, if_pos numeric, failed]
  · rintro ⟨value, unit⟩ normalised
    simp only [metric, if_neg other, if_pos numeric, normalised]
    cases unit <;> exact ⟨_, rfl⟩

theorem metric_of_hasUnknownUnit (unknown : p.HasUnknownUnit) :
    p.metric stem labels = .error (.unknownUnit p.name p.unit) := by
  obtain ⟨numeric, readable, given, outside⟩ := unknown
  refine (metric_of_numeric stem labels numeric).1 _ ?_
  cases read : p.reading with
  | error e =>
    rw [read] at readable
    cases readable
  | ok value =>
    rcases normalise_of_read read with ⟨-, -, failed⟩ | ⟨none | inside, -⟩
    · exact failed
    · exact absurd none given
    · exact absurd inside outside

/-- A parameter gives its gauge or is passed over, unless its unit is unknown. -/
theorem exists_gives (known : ¬ p.HasUnknownUnit) :
    ∃ outcome, p.Gives stem labels outcome ∧
      p.metric stem labels = outcome.elim Except.ok Except.error := by
  by_cases bool : p.type = "bool"
  case pos =>
    obtain ⟨m, exported⟩ := metric_of_bool stem labels bool
    exact ⟨.inl m, .gauge (.inl bool) exported, exported⟩
  by_cases numeric : p.IsNumeric
  case neg => exact ⟨_, .unsupported bool numeric, metric_of_other stem labels bool numeric⟩
  obtain ⟨fails, exports⟩ := metric_of_numeric stem labels numeric
  cases read : p.reading with
  | error e => exact ⟨_, .invalid numeric read, fails _ (normalise_of_unread read)⟩
  | ok value =>
    have readable : p.reading.isOk := by
      rw [read]
      rfl
    rcases normalise_of_read read with ⟨given, outside, -⟩ | ⟨-, r, normalised⟩
    · exact absurd ⟨numeric, readable, given, outside⟩ known
    · obtain ⟨m, exported⟩ := exports r normalised
      exact ⟨.inl m, .gauge (.inr ⟨numeric, readable⟩) exported, exported⟩

end Metric

theorem Gives.isDefect {stem : String} {labels : Dict String String} {e : SettingsError}
    (h : p.Gives stem labels (.inr e)) : e.isDefect = false := by
  cases h <;> rfl

end Setting

/-! ## The rows of an answer -/

/-- The gauges and the errors of many parameters, each in their order. -/
def SettingsBatch.ofOutcomes (outcomes : List (Metric ⊕ SettingsError)) : SettingsBatch :=
  ⟨outcomes.filterMap Sum.getLeft?, outcomes.filterMap Sum.getRight?⟩

namespace Settings

/-- The parameters among the rows of an answer. -/
def parameters (rows : List (List Value)) : List Setting := rows.filterMap Setting.ofRow?

/-- The first parameter whose unit is unknown. -/
def firstUnknown? (rows : List (List Value)) : Option Setting :=
  (parameters rows).find? fun p => decide p.HasUnknownUnit

theorem parameters_cons (row : List Value) (rest : List (List Value)) :
    parameters (row :: rest) = (Setting.ofRow? row).toList ++ parameters rest := by
  unfold parameters
  cases found : Setting.ofRow? row <;> simp [found]

section Rows

variable {stem : String} {labels : Dict String String}

theorem addRow_of_none {row : List Value} (short : Setting.ofRow? row = none)
    (batch : SettingsBatch) : addRow stem labels batch row = .ok batch := by
  rw [addRow, short]

theorem addRow_of_gives {row : List Value} {p : Setting} {outcome : Metric ⊕ SettingsError}
    (found : Setting.ofRow? row = some p) (gives : p.Gives stem labels outcome)
    (exported : p.metric stem labels = outcome.elim Except.ok Except.error)
    (done : List (Metric ⊕ SettingsError)) :
    addRow stem labels (.ofOutcomes done) row = .ok (.ofOutcomes (done ++ [outcome])) := by
  simp only [addRow, found, exported]
  cases outcome with
  | inl m => simp [SettingsBatch.ofOutcomes]
  | inr e => simp [SettingsBatch.ofOutcomes, gives.isDefect]

theorem addRow_of_hasUnknownUnit {row : List Value} {p : Setting}
    (found : Setting.ofRow? row = some p) (unknown : p.HasUnknownUnit) (batch : SettingsBatch) :
    addRow stem labels batch row = .error (.unknownUnit p.name p.unit) := by
  simp only [addRow, found, Setting.metric_of_hasUnknownUnit stem labels unknown]
  rfl

/-- Without an unknown unit every parameter gives its gauge or is passed over. -/
theorem collect_of_known {rows : List (List Value)} (known : firstUnknown? rows = none) :
    ∃ outcomes, List.Forall₂ (Setting.Gives stem labels) (parameters rows) outcomes ∧
      collect stem labels rows = .ok (.ofOutcomes outcomes) := by
  -- the outcomes of the rows that are done come before those of the rest
  suffices ∀ done, ∃ outcomes,
      List.Forall₂ (Setting.Gives stem labels) (parameters rows) outcomes ∧
        rows.foldlM (addRow stem labels) (.ofOutcomes done) = .ok (.ofOutcomes (done ++ outcomes))
    from this []
  induction rows with
  | nil =>
    intro done
    exact ⟨[], .nil, by rw [List.append_nil]; rfl⟩
  | cons row rest ih =>
    intro done
    rw [firstUnknown?, parameters_cons, List.find?_append, Option.or_eq_none_iff] at known
    obtain ⟨first, others⟩ := known
    rw [parameters_cons]
    cases found : Setting.ofRow? row with
    | none =>
      obtain ⟨outcomes, gives, added⟩ := ih others done
      refine ⟨outcomes, gives, ?_⟩
      rw [List.foldlM_cons, addRow_of_none found]
      exact added
    | some p =>
      have known : ¬ p.HasUnknownUnit := by simpa [found] using first
      obtain ⟨outcome, gives, exported⟩ := Setting.exists_gives stem labels known
      obtain ⟨outcomes, allGive, added⟩ := ih others (done ++ [outcome])
      refine ⟨outcome :: outcomes, .cons gives allGive, ?_⟩
      rw [List.foldlM_cons, addRow_of_gives found gives exported]
      rw [List.append_assoc] at added
      exact added

/-- The first unknown unit stops it. -/
theorem collect_of_unknown {rows : List (List Value)} {p : Setting}
    (first : firstUnknown? rows = some p) :
    collect stem labels rows = .error (.unknownUnit p.name p.unit) := by
  suffices ∀ done, rows.foldlM (addRow stem labels) (.ofOutcomes done) =
      .error (.unknownUnit p.name p.unit) from this []
  induction rows with
  | nil => cases first
  | cons row rest ih =>
    intro done
    rw [firstUnknown?, parameters_cons, List.find?_append] at first
    rw [List.foldlM_cons]
    cases found : Setting.ofRow? row with
    | none =>
      rw [addRow_of_none found]
      exact ih (by simpa [found, firstUnknown?] using first) done
    | some q =>
      rw [found, Option.toList_some, List.find?_singleton] at first
      by_cases unknown : q.HasUnknownUnit
      · obtain rfl : q = p := by simpa [unknown] using first
        rw [addRow_of_hasUnknownUnit found unknown]
        rfl
      · obtain ⟨outcome, gives, exported⟩ := Setting.exists_gives stem labels unknown
        rw [addRow_of_gives found gives exported]
        exact ih (by simpa [unknown, firstUnknown?] using first) (done ++ [outcome])

/-- Nothing else stops it. -/
theorem collect_eq_error_iff {rows : List (List Value)} {e : SettingsError} :
    collect stem labels rows = .error e ↔
      ∃ p, firstUnknown? rows = some p ∧ e = .unknownUnit p.name p.unit := by
  cases first : firstUnknown? rows with
  | some p => simp [collect_of_unknown first, eq_comm]
  | none =>
    have ⟨outcomes, _, whole⟩ : ∃ outcomes, _ ∧ collect stem labels rows = .ok _ :=
      collect_of_known first
    simp [whole]

end Rows

end Settings

theorem Turn.settingsErrors_reportAll (turns : List (String × Turn)) :
    (reportAll turns).settingsErrors = [] := by
  induction turns with
  | nil => rfl
  | cons t rest ih =>
    have own : t.2.report.settingsErrors = [] := by cases t.2 <;> rfl
    change t.2.report.settingsErrors ++ (reportAll rest).settingsErrors = []
    rw [own, ih, List.append_nil]

namespace Server

variable {δ : Type} (b : Backend δ) (options : ScrapeOptions) (now : Instant) (s : Server)
  (w : World δ)

/-- The namespaces report no errors of parameters. -/
theorem settingsErrors_of_scrapeNamespaces {report : Report}
    (given : (s.scrapeNamespaces b now w).1 = .ok report) : report.settingsErrors = [] := by
  rw [scrapeNamespaces, visitNamespaces_eq] at given
  dsimp only at given
  split at given
  · cases given
  · cases given
    exact Turn.settingsErrors_reportAll _

/-- The report of a pass that got past the parameters. -/
theorem scrape_of_settings {settings : Report} {w' : World δ}
    (given : s.scrapeSettings b options w = (.ok settings, w')) :
    s.scrape b options now w =
      (match (s.scrapeNamespaces b now w').1 with
        | .ok r => .ok ⟨settings.metrics ++ r.metrics,
            settings.namespaceErrors ++ r.namespaceErrors,
            settings.conversionErrors ++ r.conversionErrors, settings.settingsErrors⟩
        | .error a => .error (.abort a), (s.scrapeNamespaces b now w').2) := by
  have quiet {report : Report} : (s.scrapeNamespaces b now w').1 = .ok report →
      report.settingsErrors = [] := s.settingsErrors_of_scrapeNamespaces b now w'
  unfold scrape
  rw [given]
  dsimp only
  generalize s.scrapeNamespaces b now w' = taken at quiet ⊢
  obtain ⟨answer, s', w''⟩ := taken
  cases answer with
  | error a => rfl
  | ok namespaces => simp [Report.append, quiet rfl]

/-- The parameters of a primary that is asked for them. -/
theorem scrapeSettings_of_asked (asked : (options.settings && s.master) = true) :
    s.scrapeSettings b options w =
      (match s.settingsOf options.stem (w.query b s.fingerprint Settings.query).1 with
        | .ok batch => .ok (.ofSettings batch)
        | .error e => if e.isDefect then .error e else .ok (.ofSettingsError e),
        (w.query b s.fingerprint Settings.query).2) := by
  unfold scrapeSettings readSettings
  rw [if_pos asked]
  dsimp only
  cases s.settingsOf options.stem (w.query b s.fingerprint Settings.query).1 <;> rfl

/-- The answer to the query for the parameters gives all that its rows hold, or else the first
unknown unit. A pass over a primary that wants them asks for nothing more once it has met an unknown
unit; if the query fails, or no unit is unknown, the namespaces take their turns, and their report
gets the one error of the query or what the rows gave. -/
theorem parameters_all_or_first_defect (b : Backend δ) (options : ScrapeOptions) (now : Instant)
    (s : Server) (w : World δ) :
    let asked := w.query b s.fingerprint Settings.query
    let read := s.readSettings b options.stem w
    let namespaces := s.scrapeNamespaces b now asked.2
    (∀ row, (Setting.ofRow? row).isSome ↔ 5 ≤ row.length) ∧
    (∀ result, asked.1 = .ok result →
      (∀ e, read.1 = .error e ↔ ∃ p, Settings.firstUnknown? result.rows = some p ∧
        e = .unknownUnit p.name p.unit) ∧
      (Settings.firstUnknown? result.rows = none → ∃ outcomes,
        List.Forall₂ (Setting.Gives options.stem s.labels) (Settings.parameters result.rows)
          outcomes ∧
        read.1 = .ok ⟨outcomes.filterMap Sum.getLeft?, outcomes.filterMap Sum.getRight?⟩)) ∧
    (options.settings = true → s.master = true →
      asked.2.log = w.log ++ [.query s.fingerprint Settings.query] ∧
      (∀ name unit, read.1 = .error (.unknownUnit name unit) → s.scrape b options now w =
        (.error (.settings (.unknownUnit name unit)), s, asked.2)) ∧
      (∀ e, asked.1 = .error e → s.scrape b options now w =
        (match namespaces.1 with
          | .ok r => .ok { r with
              settingsErrors := [.query (.ofDb s.fingerprint Settings.namespaceName e)] }
          | .error a => .error (.abort a), namespaces.2)) ∧
      ∀ batch, read.1 = .ok batch → s.scrape b options now w =
        (match namespaces.1 with
          | .ok r => .ok { r with
              metrics := batch.metrics ++ r.metrics
              settingsErrors := batch.skipped }
          | .error a => .error (.abort a), namespaces.2)) := by
  intro asked read namespaces
  have read_eq : read.1 = s.settingsOf options.stem asked.1 := rfl
  refine ⟨fun row => Setting.isSome_ofRow?_iff, ?_, ?_⟩
  · intro result answered
    rw [read_eq, answered]
    exact ⟨fun e => Settings.collect_eq_error_iff, Settings.collect_of_known⟩
  · intro wanted primary
    have scraped := s.scrapeSettings_of_asked b options w (by simp [wanted, primary])
    refine ⟨rfl, ?_, ?_, ?_⟩
    · intro name unit unknown
      rw [← read_eq, unknown] at scraped
      unfold scrape
      rw [scraped]
      rfl
    · intro e failed
      rw [failed] at scraped
      exact s.scrape_of_settings b options now w scraped
    · intro batch given
      rw [← read_eq, given] at scraped
      exact s.scrape_of_settings b options now w scraped

end Server

namespace Furlongs

def catalog : Catalog :=
  ⟨⟨.ofList [("pg_x", ⟨.ofList [("a", .plain .gauge "A")], false, 0⟩)], .empty⟩, "pg"⟩

def server : Server :=
  { Server.open 0 .localhost .empty with plan := catalog.compile ⟨14, 0, 0⟩ .empty }

/-- Databases that answer the query for the parameters in this way, and others with one number. -/
def backend (parameters : Except DbError ResultSet) : Backend Unit where
  connect _ d := (.ok (), d)
  ping d := (.ok (), d)
  query sql d := (if sql = Settings.query then parameters else .ok ⟨["a"], [[.int 1]]⟩, d)
  close d := d

def row (name setting unit type : String) : List Value :=
  [.text name, .text setting, .text unit, .text "", .text type]

/-- A row that is too short, one that reads as no number, one of another type, and three numbers, of
which the last two have unknown units. -/
def rows : List (List Value) :=
  [[.text "short"], row "broken" "lots" "furlongs" "real", row "mode" "replica" "" "enum",
    row "work_mem" " 4096 " "kB" "integer", row "odd" "3" "furlongs" "integer",
    row "even" "4" "leagues" "integer"]

def options : ScrapeOptions := ⟨"pg", true⟩

def scrape (parameters : Except DbError ResultSet) : Except PassStop Report × Server × World Unit :=
  server.scrape (backend parameters) options default ⟨fun _ => (), []⟩

/-- The names of the metrics and the errors of parameters in a report. -/
def shown (r : Report) : List String × List SettingsError :=
  (r.metrics.map (·.name), r.settingsErrors)

/-- The first unknown unit ends the pass with its one query done. Without the last two rows one
gauge and two errors are delivered. If the query fails the namespace is still read. -/
theorem scrape_of_rows :
    (scrape (.ok ⟨[], rows⟩)).1 = .error (.settings (.unknownUnit "odd" "furlongs")) ∧
    (scrape (.ok ⟨[], rows⟩)).2.2.log = [.query "localhost:5432" Settings.query] ∧
    (scrape (.ok ⟨[], rows.take 4⟩)).1.toOption.map shown =
      some (["pg_settings_work_mem_bytes", "pg_x_a"],
        [.invalidValue "broken" "lots" "invalid float literal", .unsupportedType "mode" "enum"]) ∧
    (scrape (.error (.query "gone"))).1.toOption.map shown =
      some (["pg_x_a"],
        [.query (.execution "localhost:5432" "pg_settings" (.query "gone"))]) := by
  have first : Settings.firstUnknown? rows = some ⟨"odd", "3", "furlongs", "", "integer"⟩ := by
    decide +kernel
  have all (parameters : Except DbError ResultSet) :=
    server.parameters_all_or_first_defect (backend parameters) options default ⟨fun _ => (), []⟩
  have answered (parameters : Except DbError ResultSet) (server : String) (w : World Unit) :
      (w.query (backend parameters) server Settings.query).1 = parameters := by
    simp [World.query, backend]
  obtain ⟨-, delivered, passes⟩ := all (.ok ⟨[], rows⟩)
  obtain ⟨log, stops, -⟩ := passes rfl rfl
  have stopped := stops _ _ (((delivered _ (answered _ _ _)).1 _).mpr ⟨_, first, rfl⟩)
  obtain ⟨-, -, failing, -⟩ := (all (.error (.query "gone"))).2.2 rfl rfl
  have failed := failing _ (answered _ _ _)
  refine ⟨congrArg Prod.fst stopped, ?_, by decide +kernel, ?_⟩
  · rw [scrape, stopped]
    exact log
  · rw [scrape, failed]
    decide +kernel

end Furlongs

end PgMetrics
