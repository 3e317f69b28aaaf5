import PgMetrics.Proofs.Mapping.Catalogs
import PgMetrics.Proofs.Scrape.Cells
import PgMetrics.Proofs.Scrape.Turns

/-!
# Passes over one server

A server is scraped again and again. Between two passes its databases, its role and the version that
it reports may change. What a namespace gives follows the version of the pass, unless it is
replayed: then it follows the version of the pass in which it was read.

## Main definitions

* `Server.pass` — a pass over a server, and what is known of it afterwards.
* `Server.History` — the passes of a server so far.
* `Catalog.Fits` — the metrics that a namespace may give on a version.
-/

namespace PgMetrics

namespace Catalog

/-- The plans that a server can have. -/
def PlanOf (c : Catalog) (constLabels : Dict String String) (p : Plan) : Prop :=
  p = .initial ∨ ∃ v, p = c.compile v constLabels

/-- What a namespace may give on a version: metrics of columns that the version does not lack, with
the label columns that the version has, and nothing where it is switched off. -/
structure Fits (c : Catalog) (v : Version) (constLabels : Dict String String)
    (namespaceName : String) (metrics : List Metric) : Prop where
  exported : ∀ m ∈ metrics, ∃ n column, c.declarations.layout.get? namespaceName = some n ∧
    n.Exports v namespaceName c.stem constLabels column m ∧
    (∀ declaration, n.columns.get? column = some declaration → declaration.isSupported v) ∧
    m.descriptor.variableLabels = n.labelColumns v
  disabled : Resolution.of (c.declarations.queries.resolve v) namespaceName = .disabled →
    metrics = []

theorem planOf_withVersion {c : Catalog} {s : Server} (h : c.PlanOf s.labels s.plan) (v : Version) :
    (s.withVersion c v).plan = c.compile v s.labels := by
  unfold Server.withVersion
  split
  case isTrue current =>
    rcases h with initial | ⟨u, compiled⟩
    · rw [initial] at current
      cases current
    · rw [compiled] at current ⊢
      cases current
      rfl
  case isFalse => rfl

end Catalog

/-- What a pass over a server finds: the databases, the role of the server, what is asked for, and
the time. -/
structure Circumstances (δ : Type) where
  world : World δ
  master : Bool
  options : ScrapeOptions
  now : Instant

/-- What is known of a pass. -/
structure PassRecord where
  refreshed : Except QueryError VersionInfo
  /-- The plan in force. -/
  plan : Plan
  now : Instant
  settings : Except SettingsError Report
  turns : List (String × Turn)
  outcome : Except PassStop Report

namespace Server

variable {δ : Type}

/-- The turns of a pass; there are none after an unknown unit. -/
def passTurns (b : Backend δ) (now : Instant) (s : Server) :
    Except SettingsError Report × World δ → List (String × Turn)
  | (.error _, _) => []
  | (.ok _, w) => (takeTurns b now s.plan.schemas.toList s w).turns

/-- The part of a pass after the version was asked for. -/
def passOn (b : Backend δ) (i : Circumstances δ) (refreshed : Except QueryError VersionInfo)
    (s : Server) (w : World δ) : PassRecord × Server :=
  let settings := s.scrapeSettings b i.options w
  let outcome := s.scrape b i.options i.now w
  (⟨refreshed, s.plan, i.now, settings.1, s.passTurns b i.now settings, outcome.1⟩, outcome.2.1)

/-- A pass: the plan is brought up to date, and then the server is scraped. -/
def pass (b : Backend δ) (c : Catalog) (i : Circumstances δ) (s : Server) : PassRecord × Server :=
  match { s with master := i.master }.refresh b c i.world with
  | (refreshed, s, w) => s.passOn b i refreshed w

/-- The passes over a server, from the first to the last. -/
inductive History (b : Backend δ) (c : Catalog) : List PassRecord → Server → Prop
  | opened (serial : Nat) (e : Endpoint) (constantLabels : Dict String String) :
      History b c [] (.open serial e constantLabels)
  | pass {records : List PassRecord} {s : Server} (h : History b c records s)
      (i : Circumstances δ) : History b c (records ++ [(s.pass b c i).1]) (s.pass b c i).2

/-- The last pass in which a namespace was read. -/
def LastRead (records : List PassRecord) (namespaceName : String) (r : PassRecord)
    (batch : Batch) : Prop :=
  ∃ before after, records = before ++ r :: after ∧ (namespaceName, .read batch) ∈ r.turns ∧
    ∀ later ∈ after, ∀ batch', (namespaceName, .read batch') ∉ later.turns

theorem LastRead.append {records : List PassRecord} {namespaceName : String} {r : PassRecord}
    {batch : Batch} (h : LastRead records namespaceName r batch) {next : PassRecord}
    (unread : ∀ batch', (namespaceName, .read batch') ∉ next.turns) :
    LastRead (records ++ [next]) namespaceName r batch := by
  obtain ⟨before, after, rfl, read, others⟩ := h
  refine ⟨before, after ++ [next], by simp, read, fun later mem => ?_⟩
  rcases List.mem_append.mp mem with mem | mem
  · exact others later mem
  · obtain rfl := List.mem_singleton.mp mem
    exact unread

/-! ## A pass from its turns -/

theorem scrape_eq (b : Backend δ) (options : ScrapeOptions) (now : Instant) (s : Server)
    (w : World δ) :
    s.scrape b options now w =
      match s.scrapeSettings b options w with
      | (.error e, w) => (.error (.settings e), s, w)
      | (.ok settings, w) =>
        let taken := takeTurns b now s.plan.schemas.toList s w
        (match taken.abort with
          | some a => .error (.abort a)
          | none => .ok (settings.append (Turn.reportAll taken.turns)),
          taken.server, taken.world) := by
  unfold scrape scrapeNamespaces
  obtain ⟨answer, w'⟩ := s.scrapeSettings b options w
  cases answer with
  | error e => rfl
  | ok settings =>
    simp only [visitNamespaces_eq]
    cases (takeTurns b now s.plan.schemas.toList s w').abort <;> rfl

theorem refresh_cases (b : Backend δ) (c : Catalog) (s : Server) (w : World δ) :
    (∃ info w', s.refresh b c w = (.ok info, s.withVersion c info.version, w')) ∨
      ∃ e w', s.refresh b c w = (.error e, s, w') := by
  unfold refresh
  obtain ⟨answer, w'⟩ := s.detectVersion b w
  cases answer with
  | ok info => exact .inl ⟨info, w', rfl⟩
  | error e => exact .inr ⟨e, w', rfl⟩

theorem withVersion_eq (s : Server) (c : Catalog) (v : Version) :
    s.withVersion c v = { s with plan := (s.withVersion c v).plan } := by
  unfold withVersion
  split <;> rfl

/-! ## The turns under a plan of the catalog -/

section Planned

variable {b : Backend δ} {now : Instant} {c : Catalog} {s : Server} {w : World δ}
  {namespaceName : String} (planOf : c.PlanOf s.labels s.plan)
include planOf

/-- The schema that a namespace takes its turn with is compiled from its declaration; the plan
before any version has no schemas. -/
theorem declared_of_mem_schemas {schema : Schema}
    (mem : (namespaceName, schema) ∈ s.plan.schemas.toList) :
    ∃ v n, s.plan = c.compile v s.labels ∧ c.declarations.layout.get? namespaceName = some n ∧
      schema = n.compile v namespaceName c.stem s.labels := by
  rcases planOf with initial | ⟨v, plan⟩
  · rw [initial] at mem
    cases mem
  · rw [← Dict.get?_eq_some_iff, plan, Catalog.compile_schemas_get?,
      Option.map_eq_some_iff] at mem
    obtain ⟨n, declared, rfl⟩ := mem
    exact ⟨v, n, plan, declared, rfl⟩

theorem fits_of_read_mem {batch : Batch}
    (h : (namespaceName, .read batch) ∈ (takeTurns b now s.plan.schemas.toList s w).turns) :
    ∃ v, s.plan = c.compile v s.labels ∧ c.Fits v s.labels namespaceName batch.metrics := by
  obtain ⟨schema, cache, w', r, mem, -, taken⟩ := takeTurn_of_mem_turns b now (Dict.pairwise_ne _) h
  obtain ⟨v, n, plan, declared, rfl⟩ := declared_of_mem_schemas planOf mem
  have way := turnOf_takeTurn b now { s with cache } namespaceName
    (n.compile v namespaceName c.stem s.labels) w'
  rw [taken] at way
  cases way with
  | read asked stale reading =>
    rcases readNamespace_eq_ok reading with ⟨-, rfl, -⟩ | ⟨enabled, result, converted⟩
    · exact ⟨v, plan, nofun, fun _ => rfl⟩
    · refine ⟨v, plan, fun m mem => ?_, fun disabled => ?_⟩
      · obtain ⟨column, -, exports⟩ := Schema.exports_of_mem_convert converted mem
        exact ⟨n, column, declared, exports, fun _ => exports.supported, exports.variableLabels⟩
      · rw [plan] at enabled
        exact absurd disabled enabled

theorem capture_of_replayed_mem {metrics : List Metric}
    (h : (namespaceName, .replayed metrics) ∈ (takeTurns b now s.plan.schemas.toList s w).turns) :
    ∃ n takenAt, c.declarations.layout.get? namespaceName = some n ∧ n.cacheSeconds ≠ 0 ∧
      s.cache.captures.get? namespaceName = some ⟨metrics, takenAt⟩ ∧
      now.millisSince takenAt ≤ windowMillis n.cacheSeconds := by
  obtain ⟨schema, cache, w', r, mem, found, taken⟩ :=
    takeTurn_of_mem_turns b now (Dict.pairwise_ne _) h
  obtain ⟨v, n, -, declared, rfl⟩ := declared_of_mem_schemas planOf mem
  have way := turnOf_takeTurn b now { s with cache } namespaceName
    (n.compile v namespaceName c.stem s.labels) w'
  rw [taken] at way
  cases way with
  | replayed asked window found' fresh =>
    exact ⟨n, _, declared, window, found.symm.trans found', of_decide_eq_true fresh⟩

theorem capture_of_pass {capture : Capture}
    (h : (takeTurns b now s.plan.schemas.toList s w).server.cache.captures.get? namespaceName =
      some capture) :
    (∃ batch n,
        (namespaceName, .read batch) ∈ (takeTurns b now s.plan.schemas.toList s w).turns ∧
        c.declarations.layout.get? namespaceName = some n ∧ n.cacheSeconds ≠ 0 ∧
        capture = ⟨batch.metrics, now⟩) ∨
      (s.cache.captures.get? namespaceName = some capture ∧
        ∀ batch, (namespaceName, .read batch) ∈
            (takeTurns b now s.plan.schemas.toList s w).turns →
          ∃ n, c.declarations.layout.get? namespaceName = some n ∧ n.cacheSeconds = 0) := by
  have declared {schema : Schema} (known : s.plan.schemas.get? namespaceName = some schema) :
      ∃ n, c.declarations.layout.get? namespaceName = some n ∧
        schema.cacheSeconds = n.cacheSeconds := by
    obtain ⟨v, n, -, declared, rfl⟩ :=
      declared_of_mem_schemas planOf (Dict.get?_eq_some_iff.mp known)
    exact ⟨n, declared, rfl⟩
  rcases capture_takeTurns_toList b now s.plan.schemas s w namespaceName with
    ⟨schema, batch, known, read, window, found⟩ | ⟨unread, same⟩
  · obtain ⟨n, declared, seconds⟩ := declared known
    rw [h] at found
    cases found
    exact .inl ⟨batch, n, read, declared, seconds ▸ window, rfl⟩
  · rw [same] at h
    refine .inr ⟨h, fun batch read => ?_⟩
    obtain ⟨schema, known, off⟩ := unread batch read
    obtain ⟨n, declared, seconds⟩ := declared known
    exact ⟨n, declared, seconds ▸ off⟩

end Planned

/-! ## One pass -/

/-- What a pass does to a server and what it gives. -/
structure PassSpec (c : Catalog) (s : Server) (r : PassRecord) (s' : Server) : Prop where
  fingerprint : s'.fingerprint = s.fingerprint
  labels : s'.labels = s.labels
  plan : s'.plan = r.plan
  planOf : c.PlanOf s.labels r.plan
  refreshed : ∀ info, r.refreshed = .ok info → r.plan = c.compile info.version s.labels
  read : ∀ ns batch, (ns, .read batch) ∈ r.turns →
    ∃ v, r.plan = c.compile v s.labels ∧ c.Fits v s.labels ns batch.metrics
  replayed : ∀ ns metrics, (ns, .replayed metrics) ∈ r.turns →
    ∃ n takenAt, c.declarations.layout.get? ns = some n ∧ n.cacheSeconds ≠ 0 ∧
      s.cache.captures.get? ns = some ⟨metrics, takenAt⟩ ∧
      r.now.millisSince takenAt ≤ windowMillis n.cacheSeconds
  captures : ∀ ns capture, s'.cache.captures.get? ns = some capture →
    (∃ batch n, (ns, .read batch) ∈ r.turns ∧ c.declarations.layout.get? ns = some n ∧
        n.cacheSeconds ≠ 0 ∧ capture = ⟨batch.metrics, r.now⟩) ∨
      (s.cache.captures.get? ns = some capture ∧ ∀ batch, (ns, .read batch) ∈ r.turns →
        ∃ n, c.declarations.layout.get? ns = some n ∧ n.cacheSeconds = 0)
  report : ∀ report, r.outcome = .ok report →
    (∃ settings, r.settings = .ok settings ∧
      report.metrics = settings.metrics ++ r.turns.flatMap fun t => t.2.metrics) ∧
    ∀ v, r.plan = c.compile v s.labels → r.turns.map (·.1) = c.declarations.layout.keys

/-- Of the server before the pass only its name, its labels and its cache count. -/
theorem PassSpec.of_same {c : Catalog} {s t s' : Server} {r : PassRecord}
    (h : PassSpec c t r s') (fingerprint : t.fingerprint = s.fingerprint)
    (labels : t.labels = s.labels) (cache : t.cache = s.cache) : PassSpec c s r s' where
  fingerprint := h.fingerprint.trans fingerprint
  labels := h.labels.trans labels
  plan := h.plan
  planOf := labels ▸ h.planOf
  refreshed := labels ▸ h.refreshed
  read := labels ▸ h.read
  replayed := cache ▸ h.replayed
  captures := cache ▸ h.captures
  report := labels ▸ h.report

/-- Turns that were all taken make up the report. -/
theorem report_of_turns {b : Backend δ} {now : Instant} {c : Catalog} {s : Server} {w : World δ}
    (settings : Report) (none : (takeTurns b now s.plan.schemas.toList s w).abort = none) :
    (settings.append (Turn.reportAll (takeTurns b now s.plan.schemas.toList s w).turns)).metrics =
        settings.metrics ++
          (takeTurns b now s.plan.schemas.toList s w).turns.flatMap (fun t => t.2.metrics) ∧
      ∀ v, s.plan = c.compile v s.labels →
        (takeTurns b now s.plan.schemas.toList s w).turns.map (·.1) =
          c.declarations.layout.keys := by
  refine ⟨congrArg (settings.metrics ++ ·) (Turn.metrics_reportAll _), fun v plan => ?_⟩
  refine (map_fst_turns b now none).trans ?_
  rw [plan]
  simp [Catalog.compile, Layout.compile, Dict.mapValues, Dict.toList, Dict.keys]

theorem passSpec_passOn {c : Catalog} {s : Server} (b : Backend δ)
    (planOf : c.PlanOf s.labels s.plan) {refreshed : Except QueryError VersionInfo}
    (current : ∀ info, refreshed = .ok info → s.plan = c.compile info.version s.labels)
    (i : Circumstances δ) (w : World δ) :
    PassSpec c s (s.passOn b i refreshed w).1 (s.passOn b i refreshed w).2 := by
  unfold passOn
  rw [scrape_eq]
  obtain ⟨answer, w'⟩ := s.scrapeSettings b i.options w
  cases answer with
  | error e =>
    -- an unknown unit ends the pass before any turn
    exact {
      fingerprint := rfl
      labels := rfl
      plan := rfl
      planOf := planOf
      refreshed := current
      read := fun _ _ h => by cases h
      replayed := fun _ _ h => by cases h
      captures := fun ns capture h => .inr ⟨h, fun _ h => by cases h⟩
      report := fun _ h => by cases h }
  | ok settings =>
    have server := server_takeTurns b i.now s.plan.schemas.toList s w'
    exact {
      fingerprint := by
        dsimp only
        rw [server]
      labels := by
        dsimp only
        rw [server]
      plan := by
        dsimp only
        rw [server]
      planOf := planOf
      refreshed := current
      read := fun ns batch h => fits_of_read_mem planOf h
      replayed := fun ns metrics h => capture_of_replayed_mem planOf h
      captures := fun ns capture h => capture_of_pass planOf h
      report := fun report h => by
        cases aborted : (takeTurns b i.now s.plan.schemas.toList s w').abort with
        | some a => simp [aborted] at h
        | none =>
          simp only [aborted, Except.ok.injEq] at h
          obtain ⟨metrics, names⟩ := report_of_turns (c := c) settings aborted
          rw [← h]
          exact ⟨⟨settings, rfl, metrics⟩, names⟩ }

theorem passSpec_pass (b : Backend δ) {c : Catalog} {s : Server} (h : c.PlanOf s.labels s.plan)
    (i : Circumstances δ) : PassSpec c s (s.pass b c i).1 (s.pass b c i).2 := by
  unfold pass
  rcases refresh_cases b c { s with master := i.master } i.world with
    ⟨info, w, refreshed⟩ | ⟨e, w, refreshed⟩
  · have plan := Catalog.planOf_withVersion (s := { s with master := i.master }) h info.version
    have kept := withVersion_eq { s with master := i.master } c info.version
    rw [refreshed]
    generalize { s with master := i.master }.withVersion c info.version = t at plan kept ⊢
    obtain ⟨fingerprint, labels, cache⟩ :
        t.fingerprint = s.fingerprint ∧ t.labels = s.labels ∧ t.cache = s.cache := by
      rw [kept]
      exact ⟨rfl, rfl, rfl⟩
    replace plan : t.plan = c.compile info.version t.labels := labels ▸ plan
    refine (passSpec_passOn b (.inr ⟨_, plan⟩) ?_ i w).of_same fingerprint labels cache
    rintro _ ⟨⟩
    exact plan
  · rw [refreshed]
    refine (passSpec_passOn b (s := { s with master := i.master }) h ?_ i w).of_same rfl rfl rfl
    rintro _ ⟨⟩

/-! ## All passes -/

/-- What a replayed namespace gives is what the last pass that read it gave, and that pass is not
too old. -/
def ReplayOf (c : Catalog) (constLabels : Dict String String) (before : List PassRecord)
    (now : Instant) (namespaceName : String) (metrics : List Metric) : Prop :=
  ∃ n earlier batch u, c.declarations.layout.get? namespaceName = some n ∧ n.cacheSeconds ≠ 0 ∧
    LastRead before namespaceName earlier batch ∧ metrics = batch.metrics ∧
    now.millisSince earlier.now ≤ windowMillis n.cacheSeconds ∧
    earlier.plan = c.compile u constLabels ∧ c.Fits u constLabels namespaceName metrics

/-- What every pass and the cache say after any number of passes. -/
structure HistorySpec (c : Catalog) (records : List PassRecord) (s : Server) : Prop where
  planOf : c.PlanOf s.labels s.plan
  captures : ∀ ns capture, s.cache.captures.get? ns = some capture →
    ∃ n r batch, c.declarations.layout.get? ns = some n ∧ n.cacheSeconds ≠ 0 ∧
      LastRead records ns r batch ∧ capture = ⟨batch.metrics, r.now⟩
  passes : ∀ before r after, records = before ++ r :: after →
    ∃ t t' : Server, t.labels = s.labels ∧ PassSpec c t r t' ∧
      ∀ ns metrics, (ns, .replayed metrics) ∈ r.turns →
        ReplayOf c s.labels before r.now ns metrics

/-- The cache after a pass holds what the last pass that read a namespace gave. -/
theorem captures_of_pass {c : Catalog} {records : List PassRecord} {s s' : Server} {r : PassRecord}
    (history : HistorySpec c records s) (pass : PassSpec c s r s') (ns : String)
    (capture : Capture) (h : s'.cache.captures.get? ns = some capture) :
    ∃ n earlier batch, c.declarations.layout.get? ns = some n ∧ n.cacheSeconds ≠ 0 ∧
      LastRead (records ++ [r]) ns earlier batch ∧ capture = ⟨batch.metrics, earlier.now⟩ := by
  rcases pass.captures ns capture h with ⟨batch, n, read, declared, window, rfl⟩ | ⟨old, unread⟩
  · exact ⟨n, r, batch, declared, window, ⟨records, [], rfl, read, by simp⟩, rfl⟩
  · obtain ⟨n, earlier, batch, declared, window, last, rfl⟩ := history.captures ns capture old
    refine ⟨n, earlier, batch, declared, window, last.append fun batch' read => ?_, rfl⟩
    obtain ⟨n', declared', off⟩ := unread batch' read
    obtain rfl : n = n' := Option.some.inj (declared.symm.trans declared')
    exact window off

/-- A namespace is replayed only from the last pass that read it. -/
theorem replayOf_of_pass {c : Catalog} {records : List PassRecord} {s s' : Server} {r : PassRecord}
    (history : HistorySpec c records s) (pass : PassSpec c s r s') (ns : String)
    (metrics : List Metric) (h : (ns, .replayed metrics) ∈ r.turns) :
    ReplayOf c s.labels records r.now ns metrics := by
  obtain ⟨n, takenAt, declared, window, found, fresh⟩ := pass.replayed ns metrics h
  obtain ⟨n', earlier, batch, -, -, last, same⟩ := history.captures ns _ found
  obtain ⟨rfl, rfl⟩ : metrics = batch.metrics ∧ takenAt = earlier.now := by simpa using same
  obtain ⟨before, after, split, read, others⟩ := last
  obtain ⟨t, t', labels, spec, -⟩ := history.passes before earlier after split
  obtain ⟨u, plan, fits⟩ := spec.read ns batch read
  rw [labels] at plan fits
  exact ⟨n, earlier, batch, u, declared, window, ⟨before, after, split, read, others⟩, rfl, fresh,
    plan, fits⟩

theorem historySpec_of_history {b : Backend δ} {c : Catalog} {records : List PassRecord}
    {s : Server} (h : History b c records s) : HistorySpec c records s := by
  induction h with
  | opened serial e constantLabels =>
    exact ⟨.inl rfl, fun ns capture h => (nomatch h), fun before r after h => by simp at h⟩
  | @pass records s h i ih =>
    have pass := passSpec_pass b ih.planOf i
    refine ⟨?_, captures_of_pass ih pass, fun before r after split => ?_⟩
    · rw [pass.labels, pass.plan]
      exact pass.planOf
    · rw [pass.labels]
      -- the record is that of this pass, or of one before
      rcases List.eq_nil_or_concat after with rfl | ⟨after, last, rfl⟩
      · obtain ⟨rfl, rfl⟩ : records = before ∧ (s.pass b c i).1 = r := by simpa using split
        exact ⟨s, _, rfl, pass, replayOf_of_pass ih pass⟩
      · have : records = before ++ r :: after := by
          rw [List.concat_eq_append, ← List.cons_append, ← List.append_assoc] at split
          exact List.append_inj_left' split rfl
        exact ih.passes before r after this

/-- In a pass for a known version a namespace gives what it may give on that version; one that is
replayed gives what it gave in the last pass that read it, and that follows the version of then. -/
theorem turns_follow_version {b : Backend δ} {c : Catalog} {records : List PassRecord} {s : Server}
    (h : History b c records s) {before after : List PassRecord} {r : PassRecord}
    (split : records = before ++ r :: after) {info : VersionInfo}
    (refreshed : r.refreshed = .ok info) :
    (∀ report, r.outcome = .ok report →
      (∃ settings, r.settings = .ok settings ∧
        report.metrics = settings.metrics ++ r.turns.flatMap fun t => t.2.metrics) ∧
      r.turns.map (·.1) = c.declarations.layout.keys) ∧
    ∀ ns turn, (ns, turn) ∈ r.turns →
      ((∀ metrics, turn ≠ .replayed metrics) → c.Fits info.version s.labels ns turn.metrics) ∧
      ∀ metrics, turn = .replayed metrics → ReplayOf c s.labels before r.now ns metrics := by
  obtain ⟨t, t', labels, pass, replays⟩ := (historySpec_of_history h).passes before r after split
  have plan := pass.refreshed info refreshed
  refine ⟨fun report ok => ⟨(pass.report report ok).1, (pass.report report ok).2 _ plan⟩,
    fun ns turn mem => ⟨fun fresh => ?_, fun metrics replayed => ?_⟩⟩
  · have silent : c.Fits info.version s.labels ns [] := ⟨nofun, fun _ => rfl⟩
    cases turn with
    | passedOver => exact silent
    | replayed metrics => exact absurd rfl (fresh metrics)
    | read batch =>
      obtain ⟨v, plan', fits⟩ := pass.read ns batch mem
      rw [plan'] at plan
      obtain rfl : v = info.version := Option.some.inj (congrArg Plan.version plan)
      rw [← labels]
      exact fits
    | failed e => exact silent
  · subst replayed
    exact replays ns metrics mem

namespace VersionChange

/-- A column that is gone from version 14 on. -/
def column : Column := ⟨.gauge, "A", none, some (.below ⟨14, 0, 0⟩)⟩

/-- A namespace with the column and a window of a minute. -/
def relation : Namespace := ⟨.ofList [("a", column)], false, 60⟩

/-- A catalog of the namespace. -/
def catalog : Catalog := ⟨⟨.ofList [("pg_x", relation)], .empty⟩, ""⟩

/-- Databases that know their banner and otherwise answer with one number. -/
def backend : Backend String where
  connect _ banner := (.ok (), banner)
  ping banner := (.ok (), banner)
  query sql banner :=
    if sql = versionQuery then (.ok ⟨["version"], [[.text banner]]⟩, banner)
    else (.ok ⟨["a"], [[.int 1]]⟩, banner)
  close banner := banner

/-- A pass at the start of 1970. -/
def circumstances (banner : String) : Circumstances String :=
  ⟨⟨fun _ => banner, []⟩, true, ⟨"", false⟩, default⟩

/-- The pass in which the column is read. -/
def first : PassRecord × Server :=
  (Server.open 0 .localhost .empty).pass backend catalog (circumstances "PostgreSQL 13.0")

/-- The pass after the server was brought to version 14. -/
def second : PassRecord × Server :=
  first.2.pass backend catalog (circumstances "PostgreSQL 14.0")

theorem history : History backend catalog [first.1, second.1] second.2 :=
  .pass (.pass (.opened 0 .localhost .empty) _) _

/-- The metric of the column. -/
def metric : Metric :=
  .scalar ⟨"pg_x_a", "A", [], .ofList [("server", "localhost:5432")]⟩ .gauge (Int64.toFloat 1) []

theorem refreshed_second : second.1.refreshed = .ok ⟨"PostgreSQL 14.0", ⟨14, 0, 0⟩⟩ := by
  rfl

theorem turns_second : second.1.turns = [("pg_x", .replayed [metric])] := by
  rfl

theorem not_fits_second : ¬ catalog.Fits ⟨14, 0, 0⟩ second.2.labels "pg_x" [metric] := by
  intro fits
  obtain ⟨n, name, declared, exports, -, -⟩ := fits.exported metric List.mem_cons_self
  obtain rfl : relation = n := Option.some.inj declared
  -- the one column that is declared is gone, and a column that is not declared gives no gauge
  have gone {c : Column} (h : relation.columns.get? name = some c) :
      c.isSupported ⟨14, 0, 0⟩ = false := by
    cases List.mem_singleton.mp (Dict.get?_eq_some_iff.mp h)
    rfl
  generalize same : metric = m at exports
  cases exports with
  | unknown => simp [metric, Metric.scalar] at same
  | counter declared' supported => simp [gone declared'] at supported
  | gauge declared' supported => simp [gone declared'] at supported
  | duration declared' supported => simp [gone declared'] at supported
  | histogram declared' supported => simp [gone declared'] at supported

/-- Not every namespace follows the version of the pass. -/
theorem not_turns_follow_current_version :
    ¬ ∀ (records : List PassRecord) (s : Server), History backend catalog records s →
      ∀ r ∈ records, ∀ info, r.refreshed = .ok info → ∀ ns turn, (ns, turn) ∈ r.turns →
        catalog.Fits info.version s.labels ns turn.metrics := by
  intro follows
  refine not_fits_second (follows _ _ history second.1 (by simp) _ refreshed_second "pg_x"
    (.replayed [metric]) ?_)
  rw [turns_second]
  exact List.mem_cons_self

/-- The metrics of the second pass are those of the first. -/
theorem turns_follow_version_of_change :
    ("pg_x", .replayed [metric]) ∈ second.1.turns ∧
      ReplayOf catalog second.2.labels [first.1] default "pg_x" [metric] := by
  have mem : ("pg_x", Turn.replayed [metric]) ∈ second.1.turns := by
    rw [turns_second]
    exact List.mem_cons_self
  have split : [first.1, second.1] = [first.1] ++ second.1 :: [] := rfl
  exact ⟨mem, ((turns_follow_version history split refreshed_second).2 _ _ mem).2 _ rfl⟩

end VersionChange

end Server

end PgMetrics
