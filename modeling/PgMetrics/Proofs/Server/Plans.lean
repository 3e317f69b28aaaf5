import PgMetrics.Proofs.Server.Connections

/-!
# The plan of a server

A server is asked for its version again and again. In between it is scraped, changes its role and
loses its cache. Whatever it answers, its schemas and its queries are those of one version, and that
is the last one that it told.

## Main definitions

* `Server.Operation`, `Server.run` — what can be done with a server, and what it told so far.
* `lastVersion?` — the version that was told last.
* `Catalog.planFor` — the plan for a version that may not be known yet.
-/

namespace PgMetrics

/-- The version in the last answer that has one. -/
def lastVersion? (answers : List (Except QueryError VersionInfo)) : Option Version :=
  answers.reverse.findSome? fun answer => answer.toOption.map (·.version)

theorem lastVersion?_concat (answers : List (Except QueryError VersionInfo))
    (answer : Except QueryError VersionInfo) :
    lastVersion? (answers ++ [answer]) =
      match answer with
      | .ok info => some info.version
      | .error _ => lastVersion? answers := by
  unfold lastVersion?
  rw [List.reverse_append, List.reverse_singleton, List.singleton_append, List.findSome?_cons]
  cases answer <;> rfl

/-- The plan for a version; before the first one is known there is none. -/
def Catalog.planFor (c : Catalog) (constLabels : Dict String String) : Option Version → Plan
  | none => .initial
  | some v => c.compile v constLabels

theorem Catalog.planOf_planFor (c : Catalog) (constLabels : Dict String String)
    (v : Option Version) : c.PlanOf constLabels (c.planFor constLabels v) := by
  cases v with
  | none => exact .inl rfl
  | some v => exact .inr ⟨v, rfl⟩

namespace Server

variable {δ : Type}

/-! ## Detection -/

/-- A version is told in three steps, and each of them may fail: the query is answered, the answer
has a cell, and the text of the cell starts as a banner does. -/
theorem versionOf_eq_ok_iff {fingerprint : String} {answer : Except DbError ResultSet}
    {info : VersionInfo} :
    versionOf fingerprint answer = .ok info ↔
      ∃ result, answer = .ok result ∧ bannerOf? result = some info.banner ∧
        Banner.parse info.banner.toList = .ok info.version := by
  obtain ⟨banner, version⟩ := info
  unfold versionOf
  cases answer with
  | error e => simp
  | ok result =>
    simp only [Except.ok.injEq, exists_eq_left']
    cases bannerOf? result with
    | none => simp
    | some text =>
      simp only [Option.some.injEq]
      constructor
      · intro told
        split at told
        case h_1 v parsed =>
          cases told
          exact ⟨rfl, parsed⟩
        case h_2 => cases told
      · rintro ⟨rfl, parsed⟩
        rw [parsed]

/-- A detection that fails leaves the server as it was. -/
theorem server_refresh_of_error {b : Backend δ} {c : Catalog} {s : Server} {w : World δ}
    {e : QueryError} (failed : (s.refresh b c w).1 = .error e) : (s.refresh b c w).2.1 = s := by
  rcases refresh_cases b c s w with ⟨info, w', refreshed⟩ | ⟨e', w', refreshed⟩
  · rw [refreshed] at failed
    cases failed
  · rw [refreshed]

/-- A version that the plan is for already changes nothing. -/
theorem server_refresh_of_same {b : Backend δ} {c : Catalog} {s : Server} {w : World δ}
    {info : VersionInfo} (told : (s.refresh b c w).1 = .ok info)
    (same : s.plan.version = some info.version) : (s.refresh b c w).2.1 = s := by
  rcases refresh_cases b c s w with ⟨info', w', refreshed⟩ | ⟨e, w', refreshed⟩
  · rw [refreshed] at told ⊢
    obtain rfl : info' = info := Except.ok.inj told
    exact if_pos same
  · rw [refreshed] at told
    cases told

/-! ## Runs -/

/-- What can be done with a server. The world of an operation says how its database answers. -/
inductive Operation (δ : Type) where
  | refresh (w : World δ)
  | scrape (options : ScrapeOptions) (now : Instant) (w : World δ)
  | changeRole (master : Bool)
  | clearCache

/-- A server, and how it answered when it was asked for its version. -/
structure Asked where
  server : Server
  answers : List (Except QueryError VersionInfo)

def perform (b : Backend δ) (c : Catalog) (x : Asked) : Operation δ → Asked
  | .refresh w =>
    let (answer, server, _) := x.server.refresh b c w
    ⟨server, x.answers ++ [answer]⟩
  | .scrape options now w => { x with server := (x.server.scrape b options now w).2.1 }
  | .changeRole master => { x with server := { x.server with master } }
  | .clearCache => { x with server := { x.server with cache := x.server.cache.clear } }

/-- A server after some operations. -/
def run (b : Backend δ) (c : Catalog) (operations : List (Operation δ)) (s : Server) : Asked :=
  operations.foldl (perform b c) ⟨s, []⟩

/-- The plan is the one for the last version that was told. -/
structure Asked.Current (c : Catalog) (constLabels : Dict String String) (x : Asked) : Prop where
  labels : x.server.labels = constLabels
  plan : x.server.plan = c.planFor constLabels (lastVersion? x.answers)

theorem Asked.Current.planOf {c : Catalog} {constLabels : Dict String String} {x : Asked}
    (h : x.Current c constLabels) : c.PlanOf x.server.labels x.server.plan := by
  rw [h.labels, h.plan]
  exact c.planOf_planFor constLabels _

/-- A detection that succeeds brings the plan to the version that was told, one that fails leaves
it. -/
theorem current_refresh {c : Catalog} {constLabels : Dict String String} {x : Asked}
    (h : x.Current c constLabels) (b : Backend δ) (w : World δ) :
    (perform b c x (.refresh w)).Current c constLabels := by
  obtain ⟨kept, told, old⟩ := plan_refresh b h.planOf w
  dsimp only [perform]
  generalize x.server.refresh b c w = refreshed at kept told old ⊢
  obtain ⟨answer, s, w'⟩ := refreshed
  dsimp only at kept told old ⊢
  constructor
  · rw [kept]
    exact h.labels
  · rw [lastVersion?_concat]
    cases answer with
    | ok info =>
      rw [told info rfl, h.labels]
      rfl
    | error e => exact (old e rfl).trans h.plan

theorem current_perform {c : Catalog} {constLabels : Dict String String} {x : Asked}
    (h : x.Current c constLabels) (b : Backend δ) (operation : Operation δ) :
    (perform b c x operation).Current c constLabels := by
  cases operation with
  | refresh w => exact current_refresh h b w
  | scrape options now w =>
    dsimp only [perform]
    rw [server_scrape]
    exact ⟨h.labels, h.plan⟩
  | changeRole master => exact ⟨h.labels, h.plan⟩
  | clearCache => exact ⟨h.labels, h.plan⟩

theorem current_run (b : Backend δ) (c : Catalog) (operations : List (Operation δ)) (serial : Nat)
    (e : Endpoint) (constantLabels : Dict String String) :
    (run b c operations (.open serial e constantLabels)).Current c
      (constantLabels.insert serverLabel e.fingerprint) := by
  refine List.foldlRecOn operations (perform b c) ?_ ?_
  · exact ⟨rfl, rfl⟩
  · intro x current operation _
    exact current_perform current b operation

/-- After any operations the schemas and the queries of a server are together those of the last
version that was told, or none if none was told. A detection fails if the query fails, if its answer
is empty or if it is no banner, and then nothing changes; nor does anything change if the version is
the recorded one. -/
theorem plan_follows_last_version (b : Backend δ) (c : Catalog) (operations : List (Operation δ))
    (serial : Nat) (e : Endpoint) (constantLabels : Dict String String) :
    let x := run b c operations (.open serial e constantLabels)
    x.server.labels = constantLabels.insert serverLabel e.fingerprint ∧
    x.server.plan = c.planFor x.server.labels (lastVersion? x.answers) ∧
    ∀ w : World δ,
      (∀ info, (x.server.refresh b c w).1 = .ok info ↔
        ∃ result, (w.query b x.server.fingerprint versionQuery).1 = .ok result ∧
          bannerOf? result = some info.banner ∧
          Banner.parse info.banner.toList = .ok info.version) ∧
      (∀ error, (x.server.refresh b c w).1 = .error error →
        (x.server.refresh b c w).2.1 = x.server) ∧
      ∀ info, (x.server.refresh b c w).1 = .ok info →
        (x.server.refresh b c w).2.1 =
          { x.server with plan := c.compile info.version x.server.labels } ∧
        (x.server.plan.version = some info.version →
          (x.server.refresh b c w).2.1 = x.server) := by
  intro x
  have current := current_run b c operations serial e constantLabels
  refine ⟨current.labels, ?_, fun w => ⟨fun info => ?_, fun error failed => ?_,
    fun info told => ⟨?_, fun same => ?_⟩⟩⟩
  · rw [current.labels]
    exact current.plan
  · rw [answer_refresh]
    exact versionOf_eq_ok_iff
  · exact server_refresh_of_error failed
  · obtain ⟨kept, plan, -⟩ := plan_refresh b current.planOf w
    rw [← plan info told]
    exact kept
  · exact server_refresh_of_same told same

namespace LostBanner

open VersionChange

/-- The server is known, then its banner is none, and then it is scraped. -/
def operations : List (Operation String) :=
  [.refresh (circumstances "PostgreSQL 13.0").world, .refresh (circumstances "garbage").world,
    .scrape ⟨"", false⟩ default (circumstances "garbage").world]

/-- The server after the operations. -/
def after : Asked := run backend catalog operations (.open 0 .localhost .empty)

/-- The plan for the version that was told stays. -/
theorem plan_of_lost_banner :
    after.answers.map (·.isOk) = [true, false] ∧
      after.server.plan = catalog.compile ⟨13, 0, 0⟩ after.server.labels ∧
      (after.server.refresh backend catalog (circumstances "PostgreSQL 13.0").world).2.1 =
        after.server := by
  obtain ⟨-, plan, later⟩ :=
    plan_follows_last_version backend catalog operations 0 .localhost .empty
  obtain ⟨-, -, told⟩ := later (circumstances "PostgreSQL 13.0").world
  refine ⟨rfl, plan, (told ⟨"PostgreSQL 13.0", ⟨13, 0, 0⟩⟩ rfl).2 rfl⟩

end LostBanner

end Server

end PgMetrics
