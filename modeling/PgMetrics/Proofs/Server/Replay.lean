import PgMetrics.Proofs.Database.Steady
import PgMetrics.Proofs.Server.Faults

/-!
# Replays from a database that does not change

A database that always gives the same answers decides by them what a pass gives that finds no
captures. A pass that finds some gives the same metrics, because a namespace is replayed with the
metrics that it would give if it was read again. The errors of the batch that the metrics were
taken from are not replayed.

## Main definitions

* `Server.freshTurn`, `Server.freshPass` — turns and passes without captures, by the answers.
* `Turn.StandsFor`, `PassRecord.StandsFor` — what replays have in common with readings.
* `PassRecord.Hides` — passes that replay a batch without its errors.
* `Server.Settled` — servers whose captures are those of the answers.
-/

namespace PgMetrics

/-- The answer to the query of a namespace has a batch under a plan. -/
def Plan.Gives (p : Plan) (answer : Answers) (namespaceName : String) (batch : Batch) : Prop :=
  ∃ schema sql result, p.schemas.get? namespaceName = some schema ∧
    (Resolution.of p.queries namespaceName).sql? namespaceName = some sql ∧
    answer sql = .ok result ∧ schema.convert namespaceName result = .ok batch

/-- A turn that has the metrics of another: it went the same way, or replays what was read. -/
inductive Turn.StandsFor : Turn → Turn → Prop
  | refl (turn : Turn) : StandsFor turn turn
  | replay (batch : Batch) : StandsFor (.replayed batch.metrics) (.read batch)

theorem Turn.StandsFor.metrics {turn fresh : Turn} (h : turn.StandsFor fresh) :
    turn.metrics = fresh.metrics := by
  cases h <;> rfl

/-- Turns of the same namespaces, each of which stands for the other. -/
def Turn.AllStandFor : List (String × Turn) → List (String × Turn) → Prop :=
  List.Forall₂ fun t f => t.1 = f.1 ∧ t.2.StandsFor f.2

theorem Turn.AllStandFor.metrics {turns fresh : List (String × Turn)}
    (h : Turn.AllStandFor turns fresh) :
    (Turn.reportAll turns).metrics = (Turn.reportAll fresh).metrics := by
  rw [metrics_reportAll, metrics_reportAll]
  induction h with
  | nil => rfl
  | cons first _ ih => rw [List.flatMap_cons, List.flatMap_cons, first.2.metrics, ih]

namespace Server

/-! ## Passes without captures -/

section Fresh

variable (answer : Answers) (s : Server)

/-- The batch of a namespace by the answers. -/
def freshBatch (namespaceName : String) (schema : Schema) : Except NamespaceStop Batch :=
  match (Resolution.of s.plan.queries namespaceName).sql? namespaceName with
  | none => .ok .empty
  | some sql => s.batchOf namespaceName schema (answer sql)

/-- The turn of a namespace without a capture. -/
def freshTurn (namespaceName : String) (schema : Schema) : Except Abort Turn :=
  if schema.masterOnly && !s.master then .ok .passedOver
  else
    match s.freshBatch answer namespaceName schema with
    | .ok batch => .ok (.read batch)
    | .error (.query e) => .ok (.failed e)
    | .error (.abort a) => .error a

/-- The turns of the namespaces of a list, up to one that aborts, and what it aborts with. -/
def freshTurns : List (String × Schema) → List (String × Turn) × Option Abort
  | [] => ([], none)
  | n :: rest =>
    match s.freshTurn answer n.1 n.2 with
    | .error a => ([], some a)
    | .ok turn =>
      let others := freshTurns rest
      ((n.1, turn) :: others.1, others.2)

/-- The part of a pass that concerns the parameters. -/
def freshSettings (options : ScrapeOptions) : Except SettingsError Report :=
  if options.settings && s.master then
    match s.settingsOf options.stem (answer Settings.query) with
    | .ok batch => .ok (.ofSettings batch)
    | .error e => if e.isDefect then .error e else .ok (.ofSettingsError e)
  else .ok .empty

/-- The part of a pass after the version was asked for. -/
def freshPassOn (options : ScrapeOptions) (now : Instant)
    (refreshed : Except QueryError VersionInfo) : PassRecord :=
  match s.freshSettings answer options with
  | .error e => ⟨refreshed, s.plan, now, .error e, [], .error (.settings e)⟩
  | .ok settings =>
    let fresh := s.freshTurns answer s.plan.schemas.toList
    ⟨refreshed, s.plan, now, .ok settings, fresh.1,
      match fresh.2 with
      | some a => .error (.abort a)
      | none => .ok (settings.append (Turn.reportAll fresh.1))⟩

/-- The plan that a server has once it was asked for its version. -/
def freshPlan (c : Catalog) : Plan :=
  match versionOf s.fingerprint (answer versionQuery) with
  | .ok info => c.compile info.version s.labels
  | .error _ => .initial

/-- A pass over a server without captures. Of the server its names, its labels and its role
count. -/
def freshPass (c : Catalog) (options : ScrapeOptions) (now : Instant) : PassRecord :=
  freshPassOn answer { s with plan := s.freshPlan answer c } options now
    (versionOf s.fingerprint (answer versionQuery))

end Fresh

section Fresh

variable {answer : Answers} {s : Server} {namespaceName : String} {schema : Schema}

/-- Turns without captures do not depend on the serial number, the labels and the cache. -/
theorem freshTurns_congr {t : Server} (fingerprint : s.fingerprint = t.fingerprint)
    (master : s.master = t.master) (plan : s.plan = t.plan) (l : List (String × Schema)) :
    s.freshTurns answer l = t.freshTurns answer l := by
  induction l with
  | nil => rfl
  | cons n rest ih =>
    have first : s.freshTurn answer n.1 n.2 = t.freshTurn answer n.1 n.2 := by
      unfold freshTurn freshBatch batchOf
      rw [fingerprint, master, plan]
    unfold freshTurns
    rw [first, ih]

theorem freshPassOn_congr {t : Server} (fingerprint : s.fingerprint = t.fingerprint)
    (labels : s.labels = t.labels) (master : s.master = t.master) (plan : s.plan = t.plan)
    (options : ScrapeOptions) (now : Instant) (refreshed : Except QueryError VersionInfo) :
    s.freshPassOn answer options now refreshed = t.freshPassOn answer options now refreshed := by
  have settings : s.freshSettings answer options = t.freshSettings answer options := by
    unfold freshSettings settingsOf
    rw [fingerprint, labels, master]
  unfold freshPassOn
  rw [settings, plan, freshTurns_congr fingerprint master plan]

theorem freshPass_congr {t : Server} (fingerprint : s.fingerprint = t.fingerprint)
    (labels : s.labels = t.labels) (master : s.master = t.master) (c : Catalog)
    (options : ScrapeOptions) (now : Instant) :
    s.freshPass answer c options now = t.freshPass answer c options now := by
  have plan : s.freshPlan answer c = t.freshPlan answer c := by
    unfold freshPlan
    rw [fingerprint, labels]
  unfold freshPass
  rw [freshPassOn_congr (s := { s with plan := s.freshPlan answer c })
    (t := { t with plan := t.freshPlan answer c }) fingerprint labels master plan, fingerprint]

theorem freshTurn_of_mem {l : List (String × Schema)} {turn : Turn}
    (mem : (namespaceName, turn) ∈ (s.freshTurns answer l).1) :
    ∃ schema, (namespaceName, schema) ∈ l ∧
      s.freshTurn answer namespaceName schema = .ok turn := by
  induction l with
  | nil => cases mem
  | cons n rest ih =>
    unfold freshTurns at mem
    split at mem
    case h_1 => cases mem
    case h_2 first taken =>
      rcases List.mem_cons.mp mem with same | later
      · cases same
        exact ⟨n.2, List.mem_cons_self, taken⟩
      · obtain ⟨schema, mem', taken'⟩ := ih later
        exact ⟨schema, List.mem_cons_of_mem _ mem', taken'⟩

theorem plan_freshPassOn (options : ScrapeOptions) (now : Instant)
    (refreshed : Except QueryError VersionInfo) :
    (s.freshPassOn answer options now refreshed).plan = s.plan := by
  unfold freshPassOn
  split <;> rfl

/-- The turns of a pass are those of the namespaces of the plan. -/
theorem freshTurn_of_mem_freshPassOn {options : ScrapeOptions} {now : Instant}
    {refreshed : Except QueryError VersionInfo} {turn : Turn}
    (mem : (namespaceName, turn) ∈ (s.freshPassOn answer options now refreshed).turns) :
    ∃ schema, s.plan.schemas.get? namespaceName = some schema ∧
      s.freshTurn answer namespaceName schema = .ok turn := by
  unfold freshPassOn at mem
  split at mem
  case h_1 => cases mem
  case h_2 =>
    obtain ⟨schema, mem', taken⟩ := freshTurn_of_mem mem
    exact ⟨schema, Dict.get?_eq_some_iff.mpr mem', taken⟩

theorem freshTurn_eq_read {batch : Batch} :
    s.freshTurn answer namespaceName schema = .ok (.read batch) ↔
      (schema.masterOnly && !s.master) = false ∧
        s.freshBatch answer namespaceName schema = .ok batch := by
  unfold freshTurn
  cases only : schema.masterOnly && !s.master with
  | true => simp
  | false =>
    rcases s.freshBatch answer namespaceName schema with (e | a) | b <;> simp

theorem freshTurn_ne_replayed {metrics : List Metric} :
    s.freshTurn answer namespaceName schema ≠ .ok (.replayed metrics) := by
  unfold freshTurn
  split
  · simp
  · rcases s.freshBatch answer namespaceName schema with (e | a) | b <;> simp

/-- A batch with errors comes from an answer. -/
theorem gives_of_freshBatch (known : s.plan.schemas.get? namespaceName = some schema)
    {batch : Batch} (reading : s.freshBatch answer namespaceName schema = .ok batch)
    (dropped : batch.errors ≠ []) : s.plan.Gives answer namespaceName batch := by
  unfold freshBatch at reading
  split at reading
  case h_1 resolved =>
    cases reading
    exact absurd rfl dropped
  case h_2 sql resolved =>
    obtain ⟨result, answered, converted⟩ := batchOf_eq_ok_iff.mp reading
    exact ⟨schema, sql, result, known, resolved, answered, converted⟩

theorem freshBatch_of_gives (known : s.plan.schemas.get? namespaceName = some schema)
    {batch : Batch} (gives : s.plan.Gives answer namespaceName batch) :
    s.freshBatch answer namespaceName schema = .ok batch := by
  obtain ⟨schema', sql, result, known', resolved, answered, converted⟩ := gives
  obtain rfl : schema = schema' := Option.some.inj (known.symm.trans known')
  unfold freshBatch
  rw [resolved]
  exact batchOf_eq_ok_iff.mpr ⟨result, answered, converted⟩

end Fresh

/-! ## Turns with captures -/

/-- Every capture of a namespace of the plan has the metrics that the namespace gives when it is
read. -/
def Faithful (answer : Answers) (s : Server) : Prop :=
  ∀ namespaceName schema capture, s.plan.schemas.get? namespaceName = some schema →
    s.cache.captures.get? namespaceName = some capture →
    ∃ batch, s.freshBatch answer namespaceName schema = .ok batch ∧
      capture.metrics = batch.metrics

section Turns

variable {b : Backend δ} {answer : Answers} {s : Server} {w : World δ}

theorem answer_readNamespace (steady : w.Steady b s.fingerprint answer) (namespaceName : String)
    (schema : Schema) :
    (s.readNamespace b namespaceName schema w).1 = s.freshBatch answer namespaceName schema := by
  unfold readNamespace freshBatch
  cases (Resolution.of s.plan.queries namespaceName).sql? namespaceName with
  | none => rfl
  | some sql => exact congrArg (s.batchOf namespaceName schema) (steady.query sql).1

/-- Keeping what was read keeps the captures faithful. -/
theorem Faithful.store (faithful : s.Faithful answer) {namespaceName : String} {schema : Schema}
    (known : s.plan.schemas.get? namespaceName = some schema) {batch : Batch}
    (reading : s.freshBatch answer namespaceName schema = .ok batch) (now : Instant) :
    Faithful answer
      { s with cache := s.cache.store namespaceName schema.cacheSeconds batch.metrics now } := by
  intro other schema' capture known' found
  unfold Cache.store at found
  split at found
  case isTrue => exact faithful other schema' capture known' found
  case isFalse =>
    dsimp only at known' found
    rw [Dict.get?_insert] at found
    split at found
    case isTrue same =>
      obtain rfl := Std.LawfulEqCmp.eq_of_compare same
      obtain rfl : schema = schema' := Option.some.inj (known.symm.trans known')
      cases found
      exact ⟨batch, reading, rfl⟩
    case isFalse => exact faithful other schema' capture known' found

/-- A turn stands for the one without a capture, or both abort. -/
theorem takeTurn_of_faithful (steady : w.Steady b s.fingerprint answer)
    (faithful : s.Faithful answer) {namespaceName : String} {schema : Schema}
    (known : s.plan.schemas.get? namespaceName = some schema) (now : Instant) :
    ((∃ a, (s.takeTurn b now namespaceName schema w).1 = .error a ∧
        s.freshTurn answer namespaceName schema = .error a) ∨
      ∃ turn fresh, (s.takeTurn b now namespaceName schema w).1 = .ok turn ∧
        s.freshTurn answer namespaceName schema = .ok fresh ∧ turn.StandsFor fresh) ∧
    (s.takeTurn b now namespaceName schema w).2.1.Faithful answer := by
  have reads := answer_readNamespace steady namespaceName schema
  have role (asked : schema.masterOnly → s.master) : (schema.masterOnly && !s.master) = false := by
    simpa using asked
  have way := turnOf_takeTurn b now s namespaceName schema w
  generalize s.takeTurn b now namespaceName schema w = r at way ⊢
  unfold freshTurn
  cases way with
  | passedOver only replica =>
    refine ⟨.inr ⟨.passedOver, .passedOver, rfl, ?_, .refl _⟩, faithful⟩
    simp [only, replica]
  | @replayed capture asked window found fresh =>
    obtain ⟨batch, reading, same⟩ := faithful _ _ _ known found
    refine ⟨.inr ⟨_, .read batch, rfl, ?_, ?_⟩, faithful⟩
    · simp [role asked, reading]
    · rw [same]
      exact .replay batch
  | @read batch w' asked stale reading =>
    rw [reading] at reads
    refine ⟨.inr ⟨_, .read batch, rfl, ?_, .refl _⟩, faithful.store known reads.symm now⟩
    simp [role asked, ← reads]
  | @failed e w' asked stale reading =>
    rw [reading] at reads
    refine ⟨.inr ⟨_, .failed e, rfl, ?_, .refl _⟩, faithful⟩
    simp [role asked, ← reads]
  | @aborted a w' asked stale reading =>
    rw [reading] at reads
    refine ⟨.inl ⟨a, rfl, ?_⟩, faithful⟩
    simp [role asked, ← reads]

/-- The turns of namespaces of the plan stand for those without captures. -/
theorem takeTurns_of_faithful (now : Instant) {l : List (String × Schema)}
    (known : ∀ n ∈ l, s.plan.schemas.get? n.1 = some n.2)
    (steady : w.Steady b s.fingerprint answer) (faithful : s.Faithful answer) :
    Turn.AllStandFor (takeTurns b now l s w).turns (s.freshTurns answer l).1 ∧
      (takeTurns b now l s w).abort = (s.freshTurns answer l).2 ∧
      (takeTurns b now l s w).server.Faithful answer := by
  induction l generalizing s w with
  | nil => exact ⟨.nil, rfl, faithful⟩
  | cons n rest ih =>
    obtain ⟨first, others⟩ := List.forall_mem_cons.mp known
    obtain ⟨taken, faithful'⟩ := takeTurn_of_faithful steady faithful first now
    have world := world_takeTurn b now s n.1 n.2 w
    have server := server_takeTurn b now s n.1 n.2 w
    unfold takeTurns freshTurns
    generalize s.takeTurn b now n.1 n.2 w = r at taken faithful' world server ⊢
    obtain ⟨answered, s', w'⟩ := r
    dsimp only at taken faithful' world server ⊢
    rcases taken with ⟨a, rfl, fresh⟩ | ⟨turn, turn', rfl, fresh, stands⟩
    · rw [fresh]
      exact ⟨.nil, rfl, faithful'⟩
    · rw [fresh]
      -- the turns after this one are taken on the same server but for its cache
      have steady' : w'.Steady b s'.fingerprint answer := by
        rw [world, server]
        exact steady.ask _
      have known' : ∀ m ∈ rest, s'.plan.schemas.get? m.1 = some m.2 := by
        rwa [server]
      obtain ⟨turns, abort, last⟩ := ih known' steady' faithful'
      have same : s'.freshTurns answer rest = s.freshTurns answer rest := by
        rw [server]
        exact freshTurns_congr (s := { s with cache := s'.cache }) (t := s) rfl rfl rfl rest
      rw [same] at turns abort
      exact ⟨.cons ⟨rfl, stands⟩ turns, abort, last⟩

theorem answer_scrapeSettings (steady : w.Steady b s.fingerprint answer)
    (options : ScrapeOptions) :
    (s.scrapeSettings b options w).1 = s.freshSettings answer options := by
  unfold scrapeSettings freshSettings readSettings
  split
  case isTrue =>
    have answered := (steady.query Settings.query).1
    rcases asked : w.query b s.fingerprint Settings.query with ⟨given, w'⟩
    rw [asked] at answered
    obtain rfl : given = answer Settings.query := answered
    dsimp only
    cases s.settingsOf options.stem (answer Settings.query) <;> rfl
  case isFalse => rfl

end Turns

end Server

/-! ## Passes with captures -/

/-- A pass that has the metrics of another, and in which the same went wrong but for what was
replayed. -/
structure PassRecord.StandsFor (r fresh : PassRecord) : Prop where
  refreshed : r.refreshed = fresh.refreshed
  plan : r.plan = fresh.plan
  settings : r.settings = fresh.settings
  turns : Turn.AllStandFor r.turns fresh.turns
  outcome : r.outcome.map Report.metrics = fresh.outcome.map Report.metrics

/-- A pass replays the metrics of a batch with errors. -/
def PassRecord.Hides (answer : Answers) (r : PassRecord) : Prop :=
  ∃ namespaceName batch, (namespaceName, .replayed batch.metrics) ∈ r.turns ∧
    r.plan.Gives answer namespaceName batch ∧ batch.errors ≠ []

namespace Server

/-- The plan of a server is the one that it has once it is asked for its version, or it was never
asked, and its captures are faithful under that plan. -/
structure Settled (c : Catalog) (answer : Answers) (s : Server) : Prop where
  plan : s.plan = .initial ∨ s.plan = s.freshPlan answer c
  faithful : Faithful answer { s with plan := s.freshPlan answer c }

theorem settled_open (c : Catalog) (answer : Answers) (serial : Nat) (e : Endpoint)
    (constantLabels : Dict String String) :
    (Server.open serial e constantLabels).Settled c answer :=
  ⟨.inl rfl, nofun⟩

theorem Settled.role {c : Catalog} {answer : Answers} {s : Server} (h : s.Settled c answer)
    (master : Bool) : Settled c answer { s with master } :=
  ⟨h.plan, h.faithful⟩

/-- A pass leaves a database as steady as it is. -/
theorem steady_scrape_refresh {b : Backend δ} {answer : Answers} {s : Server} {w : World δ}
    (steady : w.Steady b s.fingerprint answer) (c : Catalog) (options : ScrapeOptions)
    (now : Instant) :
    let refreshed := s.refresh b c w
    (refreshed.2.1.scrape b options now refreshed.2.2).2.2.Steady b s.fingerprint answer := by
  intro refreshed
  obtain ⟨done, -, scraped, -⟩ := world_scrape b options now refreshed.2.1 refreshed.2.2
  have version : refreshed.2.2 = _ := world_refresh b c s w
  have name : refreshed.2.1.fingerprint = s.fingerprint := fingerprint_refresh b c s w
  rw [scraped, name, version]
  exact (steady.ask _).ask _

theorem Settled.of_cache {c : Catalog} {answer : Answers} {s t : Server}
    (kept : t = { s with cache := t.cache }) (plan : s.plan = s.freshPlan answer c)
    (faithful : t.Faithful answer) : t.Settled c answer := by
  obtain ⟨cache, rfl⟩ : ∃ cache, t = { s with cache } := ⟨t.cache, kept⟩
  refine ⟨.inr plan, ?_⟩
  change Faithful answer { s with cache, plan := s.freshPlan answer c }
  rwa [← plan]

section Pass

variable {b : Backend δ} {answer : Answers} {s : Server} {w : World δ}

theorem passOn_of_faithful (i : Circumstances δ) (steady : w.Steady b s.fingerprint answer)
    (faithful : s.Faithful answer) (refreshed : Except QueryError VersionInfo) :
    (s.passOn b i refreshed w).1.StandsFor
        (s.freshPassOn answer i.options i.now refreshed) ∧
      (s.passOn b i refreshed w).2 =
        { s with cache := (s.passOn b i refreshed w).2.cache } ∧
      (s.passOn b i refreshed w).2.Faithful answer := by
  have answered := answer_scrapeSettings steady i.options
  have world := world_scrapeSettings b i.options s w
  have scraped := scrape_eq b i.options i.now s w
  unfold passOn freshPassOn
  rw [scraped, ← answered]
  generalize s.scrapeSettings b i.options w = asked at world ⊢
  obtain ⟨given, w'⟩ := asked
  cases given with
  | error e => exact ⟨⟨rfl, rfl, rfl, .nil, rfl⟩, rfl, faithful⟩
  | ok settings =>
    have steady' : w'.Steady b s.fingerprint answer := by
      dsimp only at world
      rw [world]
      exact steady.ask _
    have known : ∀ n ∈ s.plan.schemas.toList, s.plan.schemas.get? n.1 = some n.2 :=
      fun n mem => Dict.get?_eq_some_iff.mpr mem
    obtain ⟨turns, abort, faithful'⟩ := takeTurns_of_faithful i.now known steady' faithful
    have server := server_takeTurns b i.now s.plan.schemas.toList s w'
    refine ⟨⟨rfl, rfl, rfl, turns, ?_⟩, server, faithful'⟩
    dsimp only
    rw [abort]
    cases (s.freshTurns answer s.plan.schemas.toList).2 with
    | some a => rfl
    | none =>
      have metrics := turns.metrics
      exact congrArg (fun m => Except.ok (settings.metrics ++ m)) metrics

theorem planOf_freshPlan (c : Catalog) (answer : Answers) (s : Server) :
    c.PlanOf s.labels (s.freshPlan answer c) := by
  unfold freshPlan
  cases versionOf s.fingerprint (answer versionQuery) with
  | ok info => exact .inr ⟨info.version, rfl⟩
  | error e => exact .inl rfl

/-- Asked for its version, a server has the plan by the answers. -/
theorem server_refresh_of_settled {c : Catalog} (h : s.Settled c answer)
    (steady : w.Steady b s.fingerprint answer) :
    (s.refresh b c w).1 = versionOf s.fingerprint (answer versionQuery) ∧
      (s.refresh b c w).2.1 = { s with plan := s.freshPlan answer c } := by
  have told := answer_refresh b c s w
  rw [(steady.query versionQuery).1] at told
  have planOf : c.PlanOf s.labels s.plan := by
    rcases h.plan with initial | current
    · exact .inl initial
    · rw [current]
      exact planOf_freshPlan c answer s
  obtain ⟨server, new, old⟩ := plan_refresh b planOf w
  refine ⟨told, ?_⟩
  rw [server]
  -- the plan is the new one if there is a version, and otherwise there never was one
  cases version : versionOf s.fingerprint (answer versionQuery) with
  | ok info =>
    rw [new info (told.trans version)]
    unfold freshPlan
    rw [version]
  | error e =>
    have initial : s.freshPlan answer c = .initial := by
      unfold freshPlan
      rw [version]
    rw [old e (told.trans version), initial]
    rcases h.plan with same | same
    · rw [same]
    · rw [same, initial]

/-- A pass over a settled server stands for the one without captures. -/
theorem Settled.pass {c : Catalog} (h : s.Settled c answer) (i : Circumstances δ)
    (steady : i.world.Steady b s.fingerprint answer) :
    (s.pass b c i).1.StandsFor
        (freshPass answer { s with master := i.master } c i.options i.now) ∧
      (s.pass b c i).2.Settled c answer := by
  obtain ⟨told, server⟩ := server_refresh_of_settled (h.role i.master) steady
  have world := world_refresh b c { s with master := i.master } i.world
  unfold Server.pass freshPass
  generalize { s with master := i.master }.refresh b c i.world = refreshed at told server world ⊢
  obtain ⟨version, t, w⟩ := refreshed
  dsimp only at told server world ⊢
  subst told server
  have steady' : w.Steady b s.fingerprint answer := by
    rw [world]
    exact steady.ask _
  obtain ⟨stands, kept, faithful⟩ :=
    passOn_of_faithful (s := { s with master := i.master, plan := s.freshPlan answer c }) i steady'
      h.faithful (versionOf s.fingerprint (answer versionQuery))
  exact ⟨stands, .of_cache kept rfl faithful⟩

end Pass

/-- What goes wrong in a pass shows as in the one without captures, but for what is hidden. -/
theorem troubled_or_hides_iff {answer : Answers} {s : Server} {options : ScrapeOptions}
    {now : Instant} {refreshed : Except QueryError VersionInfo} {r : PassRecord}
    (h : r.StandsFor (s.freshPassOn answer options now refreshed)) :
    r.Troubled ∨ r.Hides answer ↔ (s.freshPassOn answer options now refreshed).Troubled := by
  obtain ⟨version, plan, settings, turns, -⟩ := h
  have plan' : (s.freshPassOn answer options now refreshed).plan = s.plan :=
    plan_freshPassOn options now refreshed
  have fresh {namespaceName : String} {turn : Turn}
      (mem : (namespaceName, turn) ∈ (s.freshPassOn answer options now refreshed).turns) :=
    freshTurn_of_mem_freshPassOn mem
  generalize s.freshPassOn answer options now refreshed = p at *
  constructor
  · rintro (troubled | ⟨namespaceName, batch, mem, gives, dropped⟩)
    · cases troubled with
      | version failed => exact .version (version.symm.trans failed)
      | unit unknown => exact .unit (settings.symm.trans unknown)
      | setting given skipped => exact .setting (settings.symm.trans given) skipped
      | query failed =>
        obtain ⟨⟨name, turn⟩, mem', same, stands⟩ := exists_of_forall₂_left turns failed
        cases stands
        exact .query mem'
      | value read dropped =>
        obtain ⟨⟨name, turn⟩, mem', same, stands⟩ := exists_of_forall₂_left turns read
        cases stands
        exact .value mem' dropped
    · obtain ⟨⟨name, turn⟩, mem', same, stands⟩ := exists_of_forall₂_left turns mem
      obtain rfl : namespaceName = name := same
      obtain ⟨schema, known, taken⟩ := fresh mem'
      have reading := freshBatch_of_gives known (plan' ▸ plan ▸ gives)
      generalize replay : Turn.replayed batch.metrics = given at stands
      cases stands with
      | refl => exact absurd (replay ▸ taken) freshTurn_ne_replayed
      | replay batch' =>
        have reading' := (freshTurn_eq_read.mp taken).2
        obtain rfl : batch = batch' := Except.ok.inj (reading.symm.trans reading')
        exact .value mem' dropped
  · intro troubled
    cases troubled with
    | version failed => exact .inl (.version (version.trans failed))
    | unit unknown => exact .inl (.unit (settings.trans unknown))
    | setting given skipped => exact .inl (.setting (settings.trans given) skipped)
    | query failed =>
      obtain ⟨⟨name, turn⟩, mem, same, stands⟩ := exists_of_forall₂_right turns failed
      cases stands
      exact .inl (.query mem)
    | @value name batch read dropped =>
      obtain ⟨⟨name', turn⟩, mem, same, stands⟩ := exists_of_forall₂_right turns read
      obtain rfl : name' = name := same
      cases stands with
      | refl => exact .inl (.value mem dropped)
      | replay =>
        obtain ⟨schema, known, taken⟩ := fresh read
        have gives := gives_of_freshBatch known (freshTurn_eq_read.mp taken).2 dropped
        exact .inr ⟨name', batch, mem, plan ▸ plan' ▸ gives, dropped⟩

end Server

end PgMetrics
