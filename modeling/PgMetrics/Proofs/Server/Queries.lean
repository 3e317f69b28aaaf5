import PgMetrics.Proofs.Database.World
import PgMetrics.Proofs.Server.History

/-!
# The queries of a pass

Which queries a pass over a server issues is settled when the pass begins, up to two answers: the
version decides on the plan, and an unknown unit ends the pass. What else is answered has no
influence.

## Main definitions

* `Server.skips`, `Server.sqlOf` — which namespaces are read, and with which text.
* `Server.queriesFor` — the queries for a list of namespaces.
* `Server.settingsQueries`, `Server.namespaceQueries` — the queries of a pass after its first.
-/

namespace PgMetrics.Server

variable {δ : Type}

/-- Whether a namespace has a capture that is young enough at `now`. -/
def hasFresh (s : Server) (now : Instant) (n : String × Schema) : Bool :=
  n.2.cacheSeconds != 0 && (s.cache.captures.get? n.1).any (·.isFresh n.2.cacheSeconds now)

/-- Whether a namespace costs no query: only primaries are asked for it and the server is none, it
has a fresh capture, or it is switched off. -/
def skips (s : Server) (now : Instant) (n : String × Schema) : Bool :=
  (n.2.masterOnly && !s.master) || s.hasFresh now n ||
    Resolution.of s.plan.queries n.1 == .disabled

/-- The text that a namespace is read with. -/
def sqlOf (s : Server) (namespaceName : String) : String :=
  match Resolution.of s.plan.queries namespaceName with
  | .custom sql => sql
  | .disabled | .notConfigured => fallbackQuery namespaceName

def queriesFor (s : Server) (now : Instant) (l : List (String × Schema)) : List String :=
  (l.filter fun n => !s.skips now n).map fun n => s.sqlOf n.1

theorem queriesFor_singleton (s : Server) (now : Instant) (n : String × Schema) :
    s.queriesFor now [n] = if s.skips now n then [] else [s.sqlOf n.1] := by
  unfold queriesFor
  cases skipped : s.skips now n <;> simp [skipped]

theorem queriesFor_cons (s : Server) (now : Instant) (n : String × Schema)
    (l : List (String × Schema)) :
    s.queriesFor now (n :: l) = s.queriesFor now [n] ++ s.queriesFor now l := by
  unfold queriesFor
  rw [← List.map_append, ← List.filter_append, List.singleton_append]

/-- Of the cache only the captures of the listed namespaces count. -/
theorem queriesFor_congr {s : Server} {cache : Cache} (now : Instant)
    {l : List (String × Schema)}
    (same : ∀ n ∈ l, cache.captures.get? n.1 = s.cache.captures.get? n.1) :
    queriesFor { s with cache } now l = s.queriesFor now l := by
  have skipped : ∀ n ∈ l, skips { s with cache } now n = s.skips now n := by
    intro n mem
    unfold skips hasFresh
    rw [same n mem]
  unfold queriesFor
  rw [List.filter_congr fun n mem => congrArg (!·) (skipped n mem)]
  rfl

/-! ## One turn -/

theorem check_eq_scrape_iff {s : Server} {now : Instant} {n : String × Schema} :
    s.cache.check n.1 n.2.cacheSeconds now = .scrape ↔ s.hasFresh now n = false := by
  unfold Cache.check hasFresh
  by_cases window : n.2.cacheSeconds = 0
  · simp [window]
  · cases s.cache.captures.get? n.1 with
    | none => simp
    | some capture => cases fresh : capture.isFresh n.2.cacheSeconds now <;> simp [window, fresh]

theorem world_readNamespace (b : Backend δ) (s : Server) (namespaceName : String)
    (schema : Schema) (w : World δ) :
    (s.readNamespace b namespaceName schema w).2 =
      w.ask b s.fingerprint
        (if Resolution.of s.plan.queries namespaceName = .disabled then []
          else [s.sqlOf namespaceName]) := by
  unfold readNamespace sqlOf
  cases Resolution.of s.plan.queries namespaceName <;> rfl

/-- A turn asks at most the query of its namespace, whatever comes of it. -/
theorem world_takeTurn (b : Backend δ) (now : Instant) (s : Server) (namespaceName : String)
    (schema : Schema) (w : World δ) :
    (s.takeTurn b now namespaceName schema w).2.2 =
      w.ask b s.fingerprint (s.queriesFor now [(namespaceName, schema)]) := by
  rw [queriesFor_singleton]
  have skipped (h : s.skips now (namespaceName, schema) = true) :
      w = w.ask b s.fingerprint
        (if s.skips now (namespaceName, schema) then [] else [s.sqlOf namespaceName]) := by
    rw [if_pos h, World.ask_nil]
  have reading (asked : schema.masterOnly → s.master)
      (stale : s.cache.check namespaceName schema.cacheSeconds now = .scrape) :
      (s.readNamespace b namespaceName schema w).2 =
        w.ask b s.fingerprint
          (if s.skips now (namespaceName, schema) then [] else [s.sqlOf namespaceName]) := by
    have role : (schema.masterOnly && !s.master) = false := by simpa using asked
    have unfresh : s.hasFresh now (namespaceName, schema) = false :=
      check_eq_scrape_iff.mp stale
    have left : s.skips now (namespaceName, schema) =
        (Resolution.of s.plan.queries namespaceName == .disabled) := by
      unfold skips
      rw [role, unfresh, Bool.false_or, Bool.false_or]
    rw [world_readNamespace, left]
    simp only [beq_iff_eq]
  have way := turnOf_takeTurn b now s namespaceName schema w
  generalize s.takeTurn b now namespaceName schema w = r at way ⊢
  cases way with
  | passedOver only replica => exact skipped (by simp [skips, only, replica])
  | replayed asked window found fresh =>
    exact skipped (by simp [skips, hasFresh, window, found, fresh])
  | read asked stale h => exact (congrArg Prod.snd h).symm.trans (reading asked stale)
  | failed asked stale h => exact (congrArg Prod.snd h).symm.trans (reading asked stale)
  | aborted asked stale h => exact (congrArg Prod.snd h).symm.trans (reading asked stale)

/-! ## All turns -/

/-- The turns that were taken asked their queries in order. Which queries that are is settled before
the first of them. -/
theorem world_takeTurns (b : Backend δ) (now : Instant) {l : List (String × Schema)}
    (distinct : l.Pairwise fun m n => m.1 ≠ n.1) (s : Server) (w : World δ) :
    ∃ done, done <+: l ∧
      (takeTurns b now l s w).world = w.ask b s.fingerprint (s.queriesFor now done) ∧
      ((takeTurns b now l s w).abort = none → done = l) := by
  induction l generalizing s w with
  | nil => exact ⟨[], List.nil_prefix, rfl, fun _ => rfl⟩
  | cons n rest ih =>
    obtain ⟨first, others⟩ := List.pairwise_cons.mp distinct
    have asked := world_takeTurn b now s n.1 n.2 w
    have kept := server_takeTurn b now s n.1 n.2 w
    have capture {other : String} := @capture_takeTurn_of_ne δ b now s n.1 other n.2 w
    unfold takeTurns
    split
    case h_1 a s' w' outcome =>
      rw [outcome] at asked
      exact ⟨[n], by simp, asked, nofun⟩
    case h_2 turn s' w' outcome =>
      rw [outcome] at asked kept capture
      dsimp only at asked kept capture
      obtain ⟨done, isPrefix, later, complete⟩ := ih others s' w'
      -- the turn changed nothing that the later namespaces are read by
      have same : s'.queriesFor now done = s.queriesFor now done := by
        rw [kept]
        exact queriesFor_congr now fun m mem => capture (first m (isPrefix.subset mem)).symm
      have name : s'.fingerprint = s.fingerprint := by rw [kept]
      refine ⟨n :: done, (List.prefix_cons_inj n).mpr isPrefix, ?_, fun h => ?_⟩
      · rw [queriesFor_cons, World.ask_append, ← asked, ← same, ← name]
        exact later
      · rw [complete h]

/-! ## A pass -/

theorem world_refresh (b : Backend δ) (c : Catalog) (s : Server) (w : World δ) :
    (s.refresh b c w).2.2 = w.ask b s.fingerprint [versionQuery] := by
  unfold refresh detectVersion
  dsimp only
  split <;> (rename_i h; exact (congrArg Prod.snd h).symm)

theorem answer_refresh (b : Backend δ) (c : Catalog) (s : Server) (w : World δ) :
    (s.refresh b c w).1 = versionOf s.fingerprint (w.query b s.fingerprint versionQuery).1 := by
  unfold refresh detectVersion
  dsimp only
  split <;> (rename_i told; exact (congrArg Prod.fst told).symm)

theorem fingerprint_refresh (b : Backend δ) (c : Catalog) (s : Server) (w : World δ) :
    (s.refresh b c w).2.1.fingerprint = s.fingerprint := by
  rcases refresh_cases b c s w with ⟨info, w', refreshed⟩ | ⟨e, w', refreshed⟩
  · rw [refreshed, withVersion_eq]
  · rw [refreshed]

/-- A refresh changes the plan only. It is the one for the version that was told, or the old one. -/
theorem plan_refresh (b : Backend δ) {c : Catalog} {s : Server} (h : c.PlanOf s.labels s.plan)
    (w : World δ) :
    (s.refresh b c w).2.1 = { s with plan := (s.refresh b c w).2.1.plan } ∧
      (∀ info, (s.refresh b c w).1 = .ok info →
        (s.refresh b c w).2.1.plan = c.compile info.version s.labels) ∧
      ∀ e, (s.refresh b c w).1 = .error e → (s.refresh b c w).2.1.plan = s.plan := by
  rcases refresh_cases b c s w with ⟨info, w', refreshed⟩ | ⟨e, w', refreshed⟩
  · rw [refreshed]
    refine ⟨withVersion_eq s c info.version, ?_, nofun⟩
    rintro _ ⟨⟩
    exact Catalog.planOf_withVersion h info.version
  · rw [refreshed]
    exact ⟨rfl, nofun, fun _ _ => rfl⟩

/-- The query for the parameters, where they are wanted. -/
def settingsQueries (s : Server) (options : ScrapeOptions) : List String :=
  if options.settings && s.master then [Settings.query] else []

theorem world_scrapeSettings (b : Backend δ) (options : ScrapeOptions) (s : Server) (w : World δ) :
    (s.scrapeSettings b options w).2 = w.ask b s.fingerprint (s.settingsQueries options) := by
  unfold scrapeSettings settingsQueries
  split
  case isTrue =>
    unfold readSettings
    dsimp only
    split <;> (rename_i h; exact (congrArg Prod.snd h).symm)
  case isFalse => rfl

/-- Only an unknown unit ends a pass at the parameters. -/
theorem scrapeSettings_eq_error_iff {b : Backend δ} {options : ScrapeOptions} {s : Server}
    {w : World δ} {e : SettingsError} :
    (s.scrapeSettings b options w).1 = .error e ↔
      (options.settings && s.master) = true ∧ (s.readSettings b options.stem w).1 = .error e ∧
        ∃ parameter unit, e = .unknownUnit parameter unit := by
  have defect : e.isDefect = true ↔ ∃ parameter unit, e = .unknownUnit parameter unit := by
    cases e <;> simp [SettingsError.isDefect]
  unfold scrapeSettings
  by_cases asked : (options.settings && s.master) = true
  · rw [if_pos asked, ← defect]
    rcases s.readSettings b options.stem w with ⟨answer, w'⟩
    cases answer with
    | ok batch => simp
    | error error =>
      dsimp only
      constructor
      · intro ended
        split at ended
        case isTrue unknown =>
          cases ended
          exact ⟨asked, rfl, unknown⟩
        case isFalse => cases ended
      · rintro ⟨-, same, unknown⟩
        cases same
        rw [if_pos unknown]
  · rw [if_neg asked]
    constructor
    · nofun
    · intro h
      exact absurd h.1 asked

/-- The queries for all namespaces; there are none after an unknown unit. -/
def namespaceQueries (s : Server) (now : Instant) : Except SettingsError Report → List String
  | .error _ => []
  | .ok _ => s.queriesFor now s.plan.schemas.toList

/-- A pass asks for the parameters and then for its namespaces, up to one that aborts. -/
theorem world_scrape (b : Backend δ) (options : ScrapeOptions) (now : Instant) (s : Server)
    (w : World δ) :
    ∃ done, done <+: s.plan.schemas.toList ∧
      (s.scrape b options now w).2.2 =
        w.ask b s.fingerprint (s.settingsQueries options ++ s.queriesFor now done) ∧
      ((∀ a, (s.scrape b options now w).1 ≠ .error (.abort a)) →
        s.queriesFor now done = s.namespaceQueries now (s.scrapeSettings b options w).1) := by
  have settings := world_scrapeSettings b options s w
  simp only [scrape_eq, World.ask_append, ← settings]
  rcases s.scrapeSettings b options w with ⟨answer, w'⟩
  cases answer with
  | error e => exact ⟨[], List.nil_prefix, rfl, fun _ => rfl⟩
  | ok report =>
    obtain ⟨done, isPrefix, world, complete⟩ :=
      world_takeTurns b now s.plan.schemas.pairwise_ne s w'
    refine ⟨done, isPrefix, world, ?_⟩
    intro whole
    apply congrArg (s.queriesFor now)
    apply complete
    cases aborted : (takeTurns b now s.plan.schemas.toList s w').abort with
    | none => rfl
    | some a =>
      dsimp only at whole
      rw [aborted] at whole
      exact absurd rfl (whole a)

/-- A refresh and the pass after it ask for the version, the parameters and the namespaces. -/
theorem queriesTo_scrape_refresh (b : Backend δ) (c : Catalog) (options : ScrapeOptions)
    (now : Instant) (s : Server) (w : World δ) :
    let refreshed := s.refresh b c w
    let s₁ := refreshed.2.1
    let scraped := s₁.scrape b options now refreshed.2.2
    (∀ a, scraped.1 ≠ .error (.abort a)) →
      scraped.2.2.queriesTo s.fingerprint = w.queriesTo s.fingerprint ++
        versionQuery :: (s₁.settingsQueries options ++
          s₁.namespaceQueries now (s₁.scrapeSettings b options refreshed.2.2).1) := by
  intro refreshed s₁ scraped whole
  have name : s₁.fingerprint = s.fingerprint := fingerprint_refresh b c s w
  have version : refreshed.2.2 = w.ask b s.fingerprint [versionQuery] := world_refresh b c s w
  obtain ⟨done, -, asked, complete⟩ := world_scrape b options now s₁ refreshed.2.2
  rw [← complete whole]
  have world : scraped.2.2 = refreshed.2.2.ask b s.fingerprint
      (s₁.settingsQueries options ++ s₁.queriesFor now done) := by
    rw [← name]
    exact asked
  rw [world, version, World.queriesTo_ask, World.queriesTo_ask, List.append_assoc]
  rfl

end PgMetrics.Server
