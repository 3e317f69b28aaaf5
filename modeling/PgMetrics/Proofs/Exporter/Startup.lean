import PgMetrics.CommandLine.Run
import PgMetrics.Proofs.Config.Validate
import PgMetrics.Proofs.Exporter.Passes
import PgMetrics.Proofs.Metric.Families
import PgMetrics.Proofs.Metric.Names
import PgMetrics.Proofs.UserQueries

/-!
# Starting whatever the user's file is

A valid configuration gives names that the format admits, and what is read from a file never clashes
with other queries. So an exporter starts whatever is found under the path of the user's file. It
tells with one gauge whether the file was accepted, and it has nothing of a file that was not.

## Main definitions

* `Exporter.userDeclarations`, `Exporter.declarationsOf` — what an exporter takes from the user's
  file, and what it has with that.
* `Status.TellsOf` — a status with one gauge for the user's file.
* `Exporter.Took` — what became of the file.
-/

namespace PgMetrics

/-! ## Names of a valid configuration -/

theorem startsMetricName_of_startsIdentifier {c : Char} (h : startsIdentifier c = true) :
    startsMetricName c = true := by
  unfold startsIdentifier at h
  unfold startsMetricName
  rw [h, Bool.true_or]

theorem isMetricName_of_isIdentifier {s : List Char} (h : isIdentifier s = true) :
    isMetricName s = true := by
  cases s with
  | nil => cases h
  | cons c rest =>
    obtain ⟨first, others⟩ := Bool.and_eq_true_iff.mp h
    refine Bool.and_eq_true_iff.mpr ⟨startsMetricName_of_startsIdentifier first, ?_⟩
    rw [List.all_eq_true] at others ⊢
    intro d mem
    exact Bool.or_eq_true_iff.mpr
      ((Bool.or_eq_true_iff.mp (others d mem)).imp startsMetricName_of_startsIdentifier id)

theorem isMetricName_append {s t : List Char} (h : isMetricName s = true)
    (all : t.all (fun d => startsMetricName d || d.isDigit) = true) :
    isMetricName (s ++ t) = true := by
  cases s with
  | nil => cases h
  | cons c rest =>
    obtain ⟨first, others⟩ := Bool.and_eq_true_iff.mp h
    change (startsMetricName c && (rest ++ t).all _) = true
    rw [List.all_append, first, others, all]
    rfl

theorem isLabelName_of_isIdentifier {s : List Char} (h : isIdentifier s = true) :
    isLabelName s = true := by
  have colon : ':' ∉ s := by
    cases s with
    | nil => simp
    | cons c rest =>
      obtain ⟨first, others⟩ := Bool.and_eq_true_iff.mp h
      rw [List.all_eq_true] at others
      rintro mem
      rcases List.mem_cons.mp mem with rfl | mem
      · exact absurd first (by decide)
      · exact absurd (others ':' mem) (by decide)
  unfold isLabelName
  rw [isMetricName_of_isIdentifier h]
  simpa using colon

namespace Config

/-- The format admits the names of a valid configuration. -/
theorem checkNames_of_validate {c : Config} (h : c.validate = .ok ()) :
    Status.checkNames c.exporter.metricPrefix c.exporter.constantLabels = .ok () := by
  have safe := validate_eq_ok_iff.mp h
  have name : isMetricName (stemmed c.exporter.metricPrefix "up").toList = true := by
    unfold stemmed
    split
    case isTrue => decide
    case isFalse given =>
      have identifier := safe.stem.resolve_left (mt String.isEmpty_iff.mpr given)
      rw [String.append_assoc, String.toList_append]
      exact isMetricName_append (isMetricName_of_isIdentifier (isIdentifier_iff.mpr identifier))
        (by decide)
  have others : c.exporter.constantLabels.keys.find? (fun l => !isLabelName l.toList) = none := by
    refine List.find?_eq_none.mpr fun l mem => ?_
    have identifier := isIdentifier_iff.mpr (safe.labels l mem).2.1
    simp [isLabelName_of_isIdentifier identifier]
  unfold Status.checkNames
  simp [name, others]

end Config

/-! ## Loading the file -/

namespace UserQueries

/-- A file that loads is read to its end and parsed. -/
theorem load_eq_ok {path : String} {file : FileState} {q : UserQueries}
    (h : load path file = .ok q) :
    ∃ octets text, file = .contents octets ∧ Text.Utf8.decode? octets = some text ∧
      parse text = .ok q.declarations ∧ q.digest = Digest.text octets := by
  unfold load at h
  split at h
  case h_4 octets =>
    split at h
    case h_1 => cases h
    case h_2 text decoded =>
      obtain ⟨d, parsed, made⟩ := bind_eq_ok.mp h
      cases made
      exact ⟨octets, text, rfl, decoded, parsed, rfl⟩
  all_goals cases h

/-- What a file declares is never refused, whatever a catalog starts from. -/
theorem build_of_load {path : String} {file : FileState} {q : UserQueries}
    (h : load path file = .ok q) (includeStandard : Bool) (stem : String) :
    Catalog.build includeStandard (some q.declarations) stem =
      .ok ⟨(Declarations.base includeStandard).merge q.declarations, stem⟩ := by
  obtain ⟨octets, text, -, -, parsed, -⟩ := load_eq_ok h
  obtain ⟨namespaces, -, declares⟩ := declares_of_parse parsed
  rw [Catalog.build_some, declares.validate]
  rfl

end UserQueries

namespace Exporter

/-- What an exporter takes from the user's file: nothing if none is named or it does not load. -/
def userDeclarations (c : Config) (files : String → FileState) : Option Declarations :=
  c.exporter.userQueriesPath.bind fun path =>
    (UserQueries.load path (files path)).toOption.map (·.declarations)

theorem loadUserQueries_eq (path : String) (file : FileState) (s : Status) :
    loadUserQueries path file s =
      ((UserQueries.load path file).toOption.map (·.declarations),
        s.setLoadError ⟨path, refusedDigest file⟩ !(UserQueries.load path file).isOk) := by
  unfold loadUserQueries
  cases loaded : UserQueries.load path file with
  | error e => rfl
  | ok q =>
    obtain ⟨octets, text, rfl, -, -, digest⟩ := UserQueries.load_eq_ok loaded
    unfold refusedDigest FileState.octets?
    dsimp only
    rw [digest]
    rfl

/-- The declarations of an exporter: those that it starts from, with those of the file on top. -/
def declarationsOf (c : Config) (files : String → FileState) : Declarations :=
  match userDeclarations c files with
  | some d => (Declarations.base !c.exporter.disableDefaultMetrics).merge d
  | none => .base !c.exporter.disableDefaultMetrics

theorem build_userDeclarations (c : Config) (files : String → FileState) :
    Catalog.build (!c.exporter.disableDefaultMetrics) (userDeclarations c files)
      c.exporter.metricPrefix = .ok ⟨declarationsOf c files, c.exporter.metricPrefix⟩ := by
  unfold declarationsOf
  cases given : userDeclarations c files with
  | none => exact Catalog.build_none _ _
  | some d =>
    obtain ⟨path, -, loads⟩ := Option.bind_eq_some_iff.mp given
    obtain ⟨q, loaded, rfl⟩ := Option.map_eq_some_iff.mp loads
    exact UserQueries.build_of_load (eq_ok_of_toOption loaded) _ _

/-- Where the names are admitted an exporter is made. It has the catalog of its file, and tells what
came of the file. -/
theorem new_of_checkNames {c : Config}
    (named : Status.checkNames c.exporter.metricPrefix c.exporter.constantLabels = .ok ())
    (files : String → FileState) :
    ∃ x, Exporter.new c files = .ok x ∧
      x.catalog = ⟨declarationsOf c files, c.exporter.metricPrefix⟩ ∧
      x.status = ⟨c.exporter.metricPrefix, c.exporter.constantLabels, .empty, false, 0.0, 0,
        match c.exporter.userQueriesPath with
        | some path => Dict.empty.insert ⟨path, refusedDigest (files path)⟩
          !(UserQueries.load path (files path)).isOk
        | none => .empty⟩ := by
  have built := build_userDeclarations c files
  unfold userDeclarations at built
  unfold Exporter.new Status.new
  rw [named]
  cases given : c.exporter.userQueriesPath with
  | none =>
    rw [given] at built
    dsimp only [Option.bind_none] at built ⊢
    dsimp only [bind, Except.bind, Except.mapError, pure, Except.pure]
    rw [built]
    exact ⟨_, rfl, rfl, rfl⟩
  | some path =>
    rw [given] at built
    dsimp only [Option.bind_some] at built ⊢
    dsimp only [bind, Except.bind, Except.mapError, pure, Except.pure]
    rw [loadUserQueries_eq, built]
    exact ⟨_, rfl, rfl, rfl⟩

theorem checkNames_of_new {c : Config} {files : String → FileState} {x : Exporter}
    (h : Exporter.new c files = .ok x) :
    Status.checkNames c.exporter.metricPrefix c.exporter.constantLabels = .ok () := by
  unfold Exporter.new Status.new at h
  cases named : Status.checkNames c.exporter.metricPrefix c.exporter.constantLabels with
  | error e =>
    rw [named] at h
    cases h
  | ok => rfl

/-- The catalog and the status of a new exporter. -/
theorem catalog_and_status_of_new {c : Config} {files : String → FileState} {x : Exporter}
    (h : Exporter.new c files = .ok x) :
    x.catalog = ⟨declarationsOf c files, c.exporter.metricPrefix⟩ ∧
      x.status = ⟨c.exporter.metricPrefix, c.exporter.constantLabels, .empty, false, 0.0, 0,
        match c.exporter.userQueriesPath with
        | some path => Dict.empty.insert ⟨path, refusedDigest (files path)⟩
          !(UserQueries.load path (files path)).isOk
        | none => .empty⟩ := by
  obtain ⟨y, created, made⟩ := new_of_checkNames (checkNames_of_new h) files
  obtain rfl := Except.ok.inj (h.symm.trans created)
  exact made

end Exporter

/-! ## The gauge for the file -/

namespace Status

def loadErrorName : String := "exporter_user_queries_load_error"

/-- The sample for a revision of the user's file. -/
def loadErrorMetric (s : Status) (e : Revision × Bool) : Metric :=
  s.metric loadErrorName ("Whether the user queries file was loaded and parsed successfully " ++
    "(1 for error, 0 for success)") .gauge
    [("filename", e.1.filename), ("hashsum", e.1.digest)] (ofFlag e.2)

variable {s : Status}

theorem name_metric_beq {name help : String} {kind : MetricKind} {labels : List (String × String)}
    {value : Float} (n : String) :
    ((s.metric name help kind labels value).name == stemmed s.stem n) = (name == n) :=
  Bool.eq_iff_iff.mpr (by rw [beq_iff_eq, beq_iff_eq]; exact stemmed_inj)

theorem filter_metrics_loadError :
    (s.metrics.filter fun m => m.name == stemmed s.stem loadErrorName) =
      s.loadError.toList.map s.loadErrorMetric := by
  unfold metrics
  simp only [List.filter_append, List.filter_map, Function.comp_def, List.filter_cons,
    List.filter_nil, name_metric_beq]
  simp [loadErrorName, durationName, loadErrorMetric]

/-- The status has one gauge for the user's file, with one sample. It is labelled with the file,
with its digest and with the constant labels. -/
def TellsOf (s : Status) (r : Revision) (value : Float) : Prop :=
  ∃ f ∈ s.families, f.name = stemmed s.stem loadErrorName ∧
    (∀ g ∈ s.families, g.name = f.name → g = f) ∧
    ∃ sample, f.samples = [sample] ∧
      sample.labels.Perm
        (("filename", r.filename) :: ("hashsum", r.digest) :: s.constLabels.toList) ∧
      sample.scalarAs f.type = value

theorem tellsOf_of_loadError {r : Revision} {refused : Bool}
    (h : s.loadError = Dict.empty.insert r refused) : s.TellsOf r (ofFlag refused) := by
  have only : (s.metrics.filter fun m => m.name == stemmed s.stem loadErrorName) =
      [s.loadErrorMetric (r, refused)] := by
    rw [filter_metrics_loadError, h]
    rfl
  have made : Family.ofMetrics? (stemmed s.stem loadErrorName)
      [s.loadErrorMetric (r, refused)] = some ⟨stemmed s.stem loadErrorName, _, .gauge,
        [(s.loadErrorMetric (r, refused)).sample]⟩ := rfl
  have mem := Family.mem_group.mpr ⟨stemmed s.stem loadErrorName, by rw [only]; exact made⟩
  exact ⟨_, mem, rfl, fun g other same => Family.eq_of_mem_group other mem same, _, rfl,
    List.mergeSort_perm .., rfl⟩

theorem ofFlag_eq_zero {b : Bool} : ofFlag b = 0.0 ↔ b = false := by
  cases b <;> decide +kernel

end Status

/-! ## Checking the file -/

namespace CommandLine

/-- A file that loads is never refused for its queries. -/
theorem checkedQueries_eq (path : String) (file : FileState) :
    checkedQueries path file = UserQueries.load path file := by
  unfold checkedQueries
  cases loaded : UserQueries.load path file with
  | error e => rfl
  | ok q =>
    dsimp only [bind, Except.bind]
    rw [UserQueries.build_of_load loaded]
    rfl

theorem exitCode_checkOutput (json : Bool) (path : String) (file : FileState) :
    (checkOutput json path file).exitCode = 0 ↔ (UserQueries.load path file).isOk = true := by
  unfold checkOutput
  rw [checkedQueries_eq]
  cases UserQueries.load path file with
  | error e => simp [Output.failure, Except.isOk, Except.toBool]
  | ok q => simp [Output.success, Except.isOk, Except.toBool]

/-- The check of a file succeeds if the file loads. -/
theorem exitCode_checkQueries {config path : String} {assigned : List (String × String)}
    {given : Option String} {files : String → FileState} {c : Config}
    (started : startConfig config assigned (files config) = .ok c)
    (named : (given <|> c.exporter.userQueriesPath) = some path) (json : Bool)
    (refusal : String → Option String) :
    (((Command.checkQueries given json).task config assigned).run files refusal).1.exitCode = 0 ↔
      (UserQueries.load path (files path)).isOk = true := by
  simp only [Command.task, Task.run, started, checkTask, named]
  exact exitCode_checkOutput json path (files path)

end CommandLine

namespace Exporter

/-- An exporter has what a file declares on top of the namespaces it starts from, or nothing of a
file that is refused. It tells the two apart by a number. -/
inductive Took (c : Config) (path : String) (file : FileState) (x : Exporter) : Float → Prop
  | accepted {q : UserQueries} (loaded : UserQueries.load path file = .ok q)
      (catalog : x.catalog = ⟨(Declarations.base !c.exporter.disableDefaultMetrics).merge
        q.declarations, c.exporter.metricPrefix⟩) : Took c path file x 0.0
  | refused {e : ConfigError} (failed : UserQueries.load path file = .error e)
      (catalog : x.catalog =
        ⟨.base !c.exporter.disableDefaultMetrics, c.exporter.metricPrefix⟩) :
      Took c path file x 1.0

open CommandLine in
/-- Whatever is found under the path of the user's file, an exporter is made. One gauge tells
whether the file was accepted, as the check of the file does, and nothing of a refused file is in
the catalog. -/
theorem new_whatever_file {c : Config} (valid : c.validate = .ok ()) {path : String}
    (named : c.exporter.userQueriesPath = some path) (files : String → FileState) :
    ∃ x value, Exporter.new c files = .ok x ∧ x.Took c path (files path) value ∧
      x.status.stem = c.exporter.metricPrefix ∧
      x.status.constLabels = c.exporter.constantLabels ∧
      x.status.TellsOf ⟨path, (files path).octets?.elim "" Digest.text⟩ value ∧
      ∀ config assigned given c', startConfig config assigned (files config) = .ok c' →
        (given <|> c'.exporter.userQueriesPath) = some path → ∀ json refusal,
          ((((Command.checkQueries given json).task config assigned).run files
            refusal).1.exitCode = 0 ↔ value = 0.0) := by
  obtain ⟨x, created, catalog, status⟩ :=
    new_of_checkNames (Config.checkNames_of_validate valid) files
  unfold declarationsOf userDeclarations at catalog
  rw [named] at catalog status
  dsimp only [Option.bind_some] at catalog status
  have digest : refusedDigest (files path) = (files path).octets?.elim "" Digest.text := by
    unfold refusedDigest
    cases (files path).octets? <;> rfl
  have tells : x.status.TellsOf ⟨path, refusedDigest (files path)⟩ _ :=
    Status.tellsOf_of_loadError (congrArg Status.loadError status)
  refine ⟨x, Status.ofFlag !(UserQueries.load path (files path)).isOk, created, ?_,
    congrArg Status.stem status, congrArg Status.constLabels status, digest ▸ tells, ?_⟩
  · cases loaded : UserQueries.load path (files path) with
    | error e =>
      rw [loaded] at catalog
      exact .refused loaded catalog
    | ok q =>
      rw [loaded] at catalog
      exact .accepted loaded catalog
  · intro config assigned given c' started found json refusal
    rw [exitCode_checkQueries started found, Status.ofFlag_eq_zero, Bool.not_eq_false']

namespace BadFile

/-- A configuration with a file. -/
def config : Config :=
  { Config.standard with
    exporter := { ScrapeConfig.standard with userQueriesPath := some "queries.yaml" } }

/-- The file is not text. -/
def file : FileState := .contents [0xff]

theorem validate_config : config.validate = .ok () := by
  decide +kernel

theorem load_file : (UserQueries.load "queries.yaml" file).isOk = false := by
  decide +kernel

/-- The exporter is made with the standard namespaces, and its gauge says that the file is
refused. -/
theorem started : ∃ x, Exporter.new config (fun _ => file) = .ok x ∧
    x.catalog = ⟨.standard, "pg"⟩ ∧
    x.status.TellsOf ⟨"queries.yaml", Digest.text [0xff]⟩ 1.0 := by
  have named : config.exporter.userQueriesPath = some "queries.yaml" := rfl
  obtain ⟨x, value, created, took, -, -, tells, -⟩ :=
    new_whatever_file validate_config named fun _ => file
  cases took with
  | accepted loaded =>
    have refused := load_file
    rw [loaded] at refused
    cases refused
  | refused failed catalog => exact ⟨x, created, catalog, tells⟩

end BadFile

end Exporter

end PgMetrics
