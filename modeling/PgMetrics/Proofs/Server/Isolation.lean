import PgMetrics.Proofs.Server.Queries

/-!
# A query that fails

Two databases that differ in the answer to one query are followed through a pass. The namespaces
that are not read with that query take the same turns and leave the same captures. What a pass
leaves in the cache is told from its turns: a capture is replaced by what was read, and by nothing
else.

## Main definitions

* `Backend.DiffersOnlyAt` — databases that differ in their answer to one query.
* `Server.Reads` — when a namespace gives a batch.
* `Server.namespaceTurns` — the turns of all namespaces.
* `Server.IsolatedFrom`, `Server.CacheSpec` — what a failure leaves alone, and what a pass keeps.
-/

namespace PgMetrics

variable {δ : Type}

/-- Two ways of answering that differ in nothing but the answer to `q`. -/
structure Backend.DiffersOnlyAt (q : String) (b₁ b₂ : Backend δ) : Prop where
  others : ∀ sql, sql ≠ q → ∀ d, b₁.query sql d = b₂.query sql d
  after : ∀ d, (b₁.query q d).2 = (b₂.query q d).2

namespace Server

section Differ

variable {q : String} {b₁ b₂ : Backend δ} (differ : b₁.DiffersOnlyAt q b₂)
include differ

theorem query_of_ne {sql : String} (ne : sql ≠ q) (server : String) (w : World δ) :
    w.query b₁ server sql = w.query b₂ server sql := by
  unfold World.query
  rw [differ.others sql ne]

/-- Queries have the same effect on the world, also where the answers differ. -/
theorem ask_eq (server : String) (sqls : List String) (w : World δ) :
    w.ask b₁ server sqls = w.ask b₂ server sqls := by
  induction sqls generalizing w with
  | nil => rfl
  | cons sql rest ih =>
    have first : (w.query b₁ server sql).2 = (w.query b₂ server sql).2 := by
      by_cases same : sql = q
      · unfold World.query
        rw [same]
        simp only [differ.after]
      · rw [query_of_ne differ same]
    change (w.query b₁ server sql).2.ask b₁ server rest =
      (w.query b₂ server sql).2.ask b₂ server rest
    rw [first]
    exact ih _

/-- A namespace that is not read with `q` is read alike. -/
theorem readNamespace_of_ne {s : Server} {namespaceName : String}
    (other : (Resolution.of s.plan.queries namespaceName).sql? namespaceName ≠ some q)
    (schema : Schema) (w : World δ) :
    s.readNamespace b₁ namespaceName schema w = s.readNamespace b₂ namespaceName schema w := by
  unfold readNamespace
  split
  case h_1 => rfl
  case h_2 sql text =>
    have ne : sql ≠ q := by
      intro same
      exact other (text.trans (congrArg some same))
    rw [query_of_ne differ ne]

theorem takeTurn_of_ne {s : Server} {namespaceName : String}
    (other : (Resolution.of s.plan.queries namespaceName).sql? namespaceName ≠ some q)
    (now : Instant) (schema : Schema) (w : World δ) :
    s.takeTurn b₁ now namespaceName schema w = s.takeTurn b₂ now namespaceName schema w := by
  unfold takeTurn
  rw [readNamespace_of_ne differ other]

end Differ

/-- Of the cache a turn depends on the capture of its namespace only. -/
theorem takeTurn_congr (b : Backend δ) (now : Instant) (s : Server) {c d : Cache}
    {namespaceName : String} (schema : Schema) (w : World δ)
    (same : c.captures.get? namespaceName = d.captures.get? namespaceName) :
    (takeTurn b now { s with cache := c } namespaceName schema w).1 =
      (takeTurn b now { s with cache := d } namespaceName schema w).1 := by
  have decision : c.check namespaceName schema.cacheSeconds now =
      d.check namespaceName schema.cacheSeconds now := by
    unfold Cache.check
    rw [same]
  have reading : readNamespace b { s with cache := c } namespaceName schema w =
      readNamespace b { s with cache := d } namespaceName schema w := rfl
  unfold takeTurn
  dsimp only
  rw [reading, decision]
  split
  case isTrue => rfl
  case isFalse =>
    cases d.check namespaceName schema.cacheSeconds now with
    | replay metrics => rfl
    | scrape =>
      obtain ⟨answer, w'⟩ := readNamespace b { s with cache := d } namespaceName schema w
      cases answer with
      | ok batch => rfl
      | error stop => cases stop <;> rfl

/-! ## The turn of one namespace -/

section Turns

variable (b : Backend δ) (now : Instant)

/-- Without an abort the first namespace takes its turn and the others come after it. -/
theorem exists_first_turn {n : String × Schema} {rest : List (String × Schema)} {s : Server}
    {w : World δ} (whole : (takeTurns b now (n :: rest) s w).abort = none) :
    ∃ turn s' w', s.takeTurn b now n.1 n.2 w = (.ok turn, s', w') ∧
      (takeTurns b now rest s' w').abort = none ∧
      (takeTurns b now (n :: rest) s w).turns =
        (n.1, turn) :: (takeTurns b now rest s' w').turns := by
  rcases taken : s.takeTurn b now n.1 n.2 w with ⟨answer, s', w'⟩
  rw [takeTurns, taken] at whole ⊢
  cases answer with
  | error a => cases whole
  | ok turn => exact ⟨turn, s', w', rfl, whole, rfl⟩

/-- A namespace takes the turn that it would take first, were the queries of those before it asked
already. -/
theorem exists_turn_of_split {done after : List (String × Schema)} {n : String × Schema}
    (distinct : (done ++ n :: after).Pairwise fun m k => m.1 ≠ k.1) {s : Server} {w : World δ}
    (whole : (takeTurns b now (done ++ n :: after) s w).abort = none) :
    ∃ turn, (s.takeTurn b now n.1 n.2 (w.ask b s.fingerprint (s.queriesFor now done))).1 =
        .ok turn ∧
      ∀ t, (n.1, t) ∈ (takeTurns b now (done ++ n :: after) s w).turns ↔ t = turn := by
  induction done generalizing s w with
  | nil =>
    obtain ⟨first, -⟩ := List.pairwise_cons.mp distinct
    obtain ⟨turn, s', w', taken, -, turns⟩ := exists_first_turn b now whole
    have absent (t : Turn) : (n.1, t) ∉ (takeTurns b now after s' w').turns := by
      intro later
      obtain ⟨schema, mem⟩ := mem_of_mem_turns b now later
      exact first _ mem rfl
    refine ⟨turn, congrArg Prod.fst taken, fun t => ?_⟩
    rw [List.nil_append, turns, List.mem_cons]
    simp [absent]
  | cons m done ih =>
    rw [List.cons_append] at distinct whole ⊢
    obtain ⟨first, others⟩ := List.pairwise_cons.mp distinct
    have ne : n.1 ≠ m.1 := (first n (by simp)).symm
    obtain ⟨turn', s', w', taken, whole', turns⟩ := exists_first_turn b now whole
    have world := world_takeTurn b now s m.1 m.2 w
    have kept := server_takeTurn b now s m.1 m.2 w
    have capture {other : String} := @capture_takeTurn_of_ne δ b now s m.1 other m.2 w
    rw [taken] at world kept capture
    dsimp only at world kept capture
    obtain ⟨turn, later, mem⟩ := ih others whole'
    -- the turn before changed nothing that the namespaces after it are read by
    have same : s'.queriesFor now done = s.queriesFor now done := by
      rw [kept]
      exact queriesFor_congr now fun k mem => capture (first k (by simp [mem])).symm
    have name : s'.fingerprint = s.fingerprint := by rw [kept]
    have world' : w'.ask b s'.fingerprint (s'.queriesFor now done) =
        w.ask b s.fingerprint (s.queriesFor now (m :: done)) := by
      rw [queriesFor_cons, World.ask_append, ← world, same, name]
    have turn_eq := takeTurn_congr b now s (c := s'.cache) (d := s.cache) n.2
      (w.ask b s.fingerprint (s.queriesFor now (m :: done))) (capture ne)
    rw [world', kept, turn_eq] at later
    refine ⟨turn, later, fun t => ?_⟩
    rw [turns, List.mem_cons, mem]
    simp [ne]

end Turns

/-! ## What is read -/

/-- A namespace gives a batch: it is asked for, has no fresh capture, and is switched off or the
answer to its query was converted. -/
structure Reads (b : Backend δ) (now : Instant) (s : Server) (n : String × Schema) (w : World δ)
    (batch : Batch) : Prop where
  asked : n.2.masterOnly → s.master
  stale : s.hasFresh now n = false
  converted : (Resolution.of s.plan.queries n.1 = .disabled ∧ batch = .empty) ∨
    (Resolution.of s.plan.queries n.1 ≠ .disabled ∧
      ∃ result, (w.query b s.fingerprint (s.sqlOf n.1)).1 = .ok result ∧
        n.2.convert n.1 result = .ok batch)

theorem readNamespace_eq_ok_iff {b : Backend δ} {s : Server} {namespaceName : String}
    {schema : Schema} {w : World δ} {batch : Batch} :
    (s.readNamespace b namespaceName schema w).1 = .ok batch ↔
      (Resolution.of s.plan.queries namespaceName = .disabled ∧ batch = .empty) ∨
      (Resolution.of s.plan.queries namespaceName ≠ .disabled ∧
        ∃ result, (w.query b s.fingerprint (s.sqlOf namespaceName)).1 = .ok result ∧
          schema.convert namespaceName result = .ok batch) := by
  unfold readNamespace sqlOf
  cases Resolution.of s.plan.queries namespaceName with
  | disabled => simp [Resolution.sql?, eq_comm]
  | custom sql => simp [Resolution.sql?, batchOf_eq_ok_iff]
  | notConfigured => simp [Resolution.sql?, batchOf_eq_ok_iff]

theorem takeTurn_eq_read_iff {b : Backend δ} {now : Instant} {s : Server} {n : String × Schema}
    {w : World δ} {batch : Batch} :
    (s.takeTurn b now n.1 n.2 w).1 = .ok (.read batch) ↔ s.Reads b now n w batch := by
  constructor
  · intro read
    have way := turnOf_takeTurn b now s n.1 n.2 w
    generalize s.takeTurn b now n.1 n.2 w = r at way read
    cases way with
    | read asked stale reading =>
      cases read
      have ok := congrArg Prod.fst reading
      exact ⟨asked, check_eq_scrape_iff.mp stale, readNamespace_eq_ok_iff.mp ok⟩
    | _ => cases read
  · rintro ⟨asked, stale, converted⟩
    have role : (n.2.masterOnly && !s.master) = false := by simpa using asked
    have decision := check_eq_scrape_iff.mpr stale
    have reading := readNamespace_eq_ok_iff.mpr converted
    unfold takeTurn
    rcases given : s.readNamespace b n.1 n.2 w with ⟨answer, w'⟩
    rw [given] at reading
    obtain rfl : answer = .ok batch := reading
    simp [role, decision]

/-! ## Isolation -/

/-- The turns of all namespaces. -/
def namespaceTurns (b : Backend δ) (now : Instant) (s : Server) (w : World δ) : TakenTurns δ :=
  takeTurns b now s.plan.schemas.toList s w

theorem scrapeNamespaces_eq (b : Backend δ) (now : Instant) (s : Server) (w : World δ) :
    s.scrapeNamespaces b now w =
      (match (s.namespaceTurns b now w).abort with
        | some a => .error a
        | none => .ok (Turn.reportAll (s.namespaceTurns b now w).turns),
        (s.namespaceTurns b now w).server, (s.namespaceTurns b now w).world) :=
  visitNamespaces_eq b now _ s w

/-- A namespace takes one turn, and that is the one it would take after the queries of those before
it. -/
theorem exists_namespaceTurn {b : Backend δ} {now : Instant} {s : Server} {w : World δ}
    (whole : (s.namespaceTurns b now w).abort = none) {done after : List (String × Schema)}
    {n : String × Schema} (split : s.plan.schemas.toList = done ++ n :: after) :
    ∃ turn, (s.takeTurn b now n.1 n.2 (w.ask b s.fingerprint (s.queriesFor now done))).1 =
        .ok turn ∧
      ∀ t, (n.1, t) ∈ (s.namespaceTurns b now w).turns ↔ t = turn := by
  unfold namespaceTurns at whole ⊢
  have distinct := s.plan.schemas.pairwise_ne
  rw [split] at distinct whole ⊢
  exact exists_turn_of_split b now distinct whole

theorem exists_split_of_mem_namespaceTurns {b : Backend δ} {now : Instant} {s : Server}
    {w : World δ} {name : String} {turn : Turn}
    (mem : (name, turn) ∈ (s.namespaceTurns b now w).turns) :
    ∃ schema done after, s.plan.schemas.toList = done ++ (name, schema) :: after := by
  obtain ⟨schema, mem⟩ := mem_of_mem_turns b now mem
  obtain ⟨done, after, split⟩ := List.append_of_mem mem
  exact ⟨schema, done, after, split⟩

/-- A namespace that is not read with `q` takes the same turn. -/
theorem mem_namespaceTurns_of_differ {q : String} {b₁ b₂ : Backend δ}
    (differ : b₁.DiffersOnlyAt q b₂) {now : Instant} {s : Server} {w : World δ}
    (whole₁ : (s.namespaceTurns b₁ now w).abort = none)
    (whole₂ : (s.namespaceTurns b₂ now w).abort = none) {name : String}
    (other : (Resolution.of s.plan.queries name).sql? name ≠ some q) (turn : Turn) :
    (name, turn) ∈ (s.namespaceTurns b₁ now w).turns ↔
      (name, turn) ∈ (s.namespaceTurns b₂ now w).turns := by
  have same {schema : Schema} {done after : List (String × Schema)}
      (split : s.plan.schemas.toList = done ++ (name, schema) :: after) :
      (name, turn) ∈ (s.namespaceTurns b₁ now w).turns ↔
        (name, turn) ∈ (s.namespaceTurns b₂ now w).turns := by
    obtain ⟨turn₁, taken₁, mem₁⟩ := exists_namespaceTurn whole₁ split
    obtain ⟨turn₂, taken₂, mem₂⟩ := exists_namespaceTurn whole₂ split
    rw [ask_eq differ, takeTurn_of_ne differ other, taken₂] at taken₁
    obtain rfl : turn₂ = turn₁ := Except.ok.inj taken₁
    exact (mem₁ turn).trans (mem₂ turn).symm
  constructor
  · intro mem
    obtain ⟨schema, done, after, split⟩ := exists_split_of_mem_namespaceTurns mem
    exact (same split).mp mem
  · intro mem
    obtain ⟨schema, done, after, split⟩ := exists_split_of_mem_namespaceTurns mem
    exact (same split).mpr mem

/-- The capture of a namespace after the turns is told by its turn. -/
theorem capture_namespaceTurns (b : Backend δ) (now : Instant) (s : Server) (w : World δ)
    (name : String) :
    (∃ schema batch, s.plan.schemas.get? name = some schema ∧
        (name, .read batch) ∈ (s.namespaceTurns b now w).turns ∧ schema.cacheSeconds ≠ 0 ∧
        (s.namespaceTurns b now w).server.cache.captures.get? name =
          some ⟨batch.metrics, now⟩) ∨
      ((∀ batch, (name, .read batch) ∈ (s.namespaceTurns b now w).turns →
          ∃ schema, s.plan.schemas.get? name = some schema ∧ schema.cacheSeconds = 0) ∧
        (s.namespaceTurns b now w).server.cache.captures.get? name =
          s.cache.captures.get? name) :=
  capture_takeTurns_toList b now s.plan.schemas s w name

/-- A namespace that is not read with `q` leaves the same capture. -/
theorem capture_namespaceTurns_of_differ {q : String} {b₁ b₂ : Backend δ}
    (differ : b₁.DiffersOnlyAt q b₂) {now : Instant} {s : Server} {w : World δ}
    (whole₁ : (s.namespaceTurns b₁ now w).abort = none)
    (whole₂ : (s.namespaceTurns b₂ now w).abort = none) {name : String}
    (other : (Resolution.of s.plan.queries name).sql? name ≠ some q) :
    (s.namespaceTurns b₁ now w).server.cache.captures.get? name =
      (s.namespaceTurns b₂ now w).server.cache.captures.get? name := by
  have same := mem_namespaceTurns_of_differ differ whole₁ whole₂ other
  have kept {schema : Schema} (known : s.plan.schemas.get? name = some schema)
      (window : schema.cacheSeconds ≠ 0) :
      ¬ ∃ schema, s.plan.schemas.get? name = some schema ∧ schema.cacheSeconds = 0 := by
    rintro ⟨schema', known', off⟩
    obtain rfl : schema = schema' := Option.some.inj (known.symm.trans known')
    exact window off
  rcases capture_namespaceTurns b₁ now s w name with
    ⟨schema, batch₁, known, read₁, window, capture₁⟩ | ⟨unread₁, capture₁⟩
  · rcases capture_namespaceTurns b₂ now s w name with
      ⟨-, batch₂, -, read₂, -, capture₂⟩ | ⟨unread₂, -⟩
    · obtain ⟨_, done, after, split⟩ := exists_split_of_mem_namespaceTurns read₁
      obtain ⟨turn, -, only⟩ := exists_namespaceTurn whole₁ split
      have turns : Turn.read batch₁ = .read batch₂ :=
        ((only _).mp read₁).trans ((only _).mp ((same _).mpr read₂)).symm
      rw [capture₁, capture₂, Turn.read.inj turns]
    · exact absurd (unread₂ _ ((same _).mp read₁)) (kept known window)
  · rcases capture_namespaceTurns b₂ now s w name with
      ⟨schema, batch₂, known, read₂, window, -⟩ | ⟨-, capture₂⟩
    · exact absurd (unread₁ _ ((same _).mpr read₂)) (kept known window)
    · rw [capture₁, capture₂]

/-! ## A pass -/

/-- What a pass says of the captures that it leaves. -/
structure CacheSpec (b : Backend δ) (options : ScrapeOptions) (now : Instant) (s : Server)
    (w : World δ) : Prop where
  /-- A namespace gives a batch in its turn exactly if it can be read after those before it. -/
  read : ∀ report, (s.scrape b options now w).1 = .ok report → ∀ done n after,
    s.plan.schemas.toList = done ++ n :: after → ∀ batch,
      (n.1, .read batch) ∈ s.passTurns b now (s.scrapeSettings b options w) ↔
        s.Reads b now n ((s.scrapeSettings b options w).2.ask b s.fingerprint
          (s.queriesFor now done)) batch
  metrics : ∀ report, (s.scrape b options now w).1 = .ok report →
    ∃ settings, (s.scrapeSettings b options w).1 = .ok settings ∧
      report.metrics = settings.metrics ++
        (s.passTurns b now (s.scrapeSettings b options w)).flatMap fun t => t.2.metrics
  capture : ∀ name,
    (∃ schema batch, s.plan.schemas.get? name = some schema ∧
        (name, .read batch) ∈ s.passTurns b now (s.scrapeSettings b options w) ∧
        schema.cacheSeconds ≠ 0 ∧
        (s.scrape b options now w).2.1.cache.captures.get? name = some ⟨batch.metrics, now⟩) ∨
      ((∀ batch, (name, .read batch) ∈ s.passTurns b now (s.scrapeSettings b options w) →
          ∃ schema, s.plan.schemas.get? name = some schema ∧ schema.cacheSeconds = 0) ∧
        (s.scrape b options now w).2.1.cache.captures.get? name = s.cache.captures.get? name)
  refused : ∀ e, (s.scrape b options now w).1 = .error (.settings e) →
    (s.scrape b options now w).2.1.cache = s.cache

theorem cacheSpec_scrape (b : Backend δ) (options : ScrapeOptions) (now : Instant) (s : Server)
    (w : World δ) : s.CacheSpec b options now w := by
  have scraped := scrape_eq b options now s w
  rcases asked : s.scrapeSettings b options w with ⟨answer, w'⟩
  rw [asked] at scraped
  cases answer with
  | error e =>
    -- an unknown unit ends the pass before any turn
    refine ⟨?_, ?_, fun name => .inr ⟨?_, ?_⟩, fun _ _ => ?_⟩
    · rw [scraped]
      nofun
    · rw [scraped]
      nofun
    · rw [asked]
      nofun
    · rw [scraped]
    · rw [scraped]
  | ok settings =>
    have turns : s.passTurns b now (.ok settings, w') = (s.namespaceTurns b now w').turns := rfl
    have server : (s.scrape b options now w).2.1 = (s.namespaceTurns b now w').server := by
      rw [scraped]
      rfl
    have whole {report : Report} (h : (s.scrape b options now w).1 = .ok report) :
        (s.namespaceTurns b now w').abort = none ∧
          report = settings.append (Turn.reportAll (s.namespaceTurns b now w').turns) := by
      rw [scraped] at h
      dsimp only at h
      split at h
      case h_1 => cases h
      case h_2 none => exact ⟨none, (Except.ok.inj h).symm⟩
    refine ⟨fun report h done n after split batch => ?_, fun report h => ⟨settings, ?_, ?_⟩,
      fun name => ?_, fun e h => ?_⟩
    · obtain ⟨turn, taken, only⟩ := exists_namespaceTurn (whole h).1 split
      rw [asked, turns, only, ← takeTurn_eq_read_iff, taken, Except.ok.injEq, eq_comm]
    · rw [asked]
    · rw [(whole h).2, asked, turns]
      exact congrArg (settings.metrics ++ ·) (Turn.metrics_reportAll _)
    · rw [asked, turns, server]
      exact capture_namespaceTurns b now s w' name
    · rw [scraped] at h
      dsimp only at h
      split at h <;> cases h

/-- What two databases have in common for the namespaces that are not read with `q`. -/
structure IsolatedFrom (q : String) (b₁ b₂ : Backend δ) (now : Instant) (s : Server)
    (w : World δ) : Prop where
  report₁ : (s.scrapeNamespaces b₁ now w).1 =
    .ok (Turn.reportAll (s.namespaceTurns b₁ now w).turns)
  report₂ : (s.scrapeNamespaces b₂ now w).1 =
    .ok (Turn.reportAll (s.namespaceTurns b₂ now w).turns)
  names₁ : (s.namespaceTurns b₁ now w).turns.map (·.1) = s.plan.schemas.keys
  names₂ : (s.namespaceTurns b₂ now w).turns.map (·.1) = s.plan.schemas.keys
  turns : ∀ name, (Resolution.of s.plan.queries name).sql? name ≠ some q → ∀ turn,
    ((name, turn) ∈ (s.namespaceTurns b₁ now w).turns ↔
      (name, turn) ∈ (s.namespaceTurns b₂ now w).turns)
  captures : ∀ name, (Resolution.of s.plan.queries name).sql? name ≠ some q →
    (s.scrapeNamespaces b₁ now w).2.1.cache.captures.get? name =
      (s.scrapeNamespaces b₂ now w).2.1.cache.captures.get? name

theorem abort_eq_none_of_scrapeNamespaces {b : Backend δ} {now : Instant} {s : Server}
    {w : World δ} {report : Report} (h : (s.scrapeNamespaces b now w).1 = .ok report) :
    (s.namespaceTurns b now w).abort = none := by
  rw [scrapeNamespaces_eq] at h
  dsimp only at h
  split at h
  case h_1 => cases h
  case h_2 none => exact none

theorem isolatedFrom_of_differ {q : String} {b₁ b₂ : Backend δ} (differ : b₁.DiffersOnlyAt q b₂)
    {now : Instant} {s : Server} {w : World δ} {report₁ report₂ : Report}
    (h₁ : (s.scrapeNamespaces b₁ now w).1 = .ok report₁)
    (h₂ : (s.scrapeNamespaces b₂ now w).1 = .ok report₂) : s.IsolatedFrom q b₁ b₂ now w := by
  have whole₁ := abort_eq_none_of_scrapeNamespaces h₁
  have whole₂ := abort_eq_none_of_scrapeNamespaces h₂
  refine ⟨?_, ?_, map_fst_turns b₁ now whole₁, map_fst_turns b₂ now whole₂,
    fun name other turn => mem_namespaceTurns_of_differ differ whole₁ whole₂ other turn,
    fun name other => ?_⟩
  · rw [scrapeNamespaces_eq, whole₁]
  · rw [scrapeNamespaces_eq, whole₂]
  · rw [scrapeNamespaces_eq, scrapeNamespaces_eq]
    exact capture_namespaceTurns_of_differ differ whole₁ whole₂ other

/-- The answer to a query is felt by the namespaces that are read with it and by no others, and a
pass keeps of a namespace what it read, or what it had before. -/
theorem failures_stay_with_their_query :
    (∀ (q : String) (b₁ b₂ : Backend δ), b₁.DiffersOnlyAt q b₂ →
      ∀ (now : Instant) (s : Server) (w : World δ) (report₁ report₂ : Report),
      (s.scrapeNamespaces b₁ now w).1 = .ok report₁ →
      (s.scrapeNamespaces b₂ now w).1 = .ok report₂ → s.IsolatedFrom q b₁ b₂ now w) ∧
    ∀ (b : Backend δ) (options : ScrapeOptions) (now : Instant) (s : Server) (w : World δ),
      s.CacheSpec b options now w :=
  ⟨fun _ _ _ differ _ _ _ _ _ h₁ h₂ => isolatedFrom_of_differ differ h₁ h₂, cacheSpec_scrape⟩

namespace FailedQuery

/-- A namespace with one column and a window of a minute. -/
def relation : Namespace := ⟨.ofList [("a", ⟨.gauge, "A", none, none⟩)], false, 60⟩

/-- A catalog of two such namespaces. -/
def catalog : Catalog := ⟨⟨.ofList [("pg_x", relation), ("pg_y", relation)], .empty⟩, ""⟩

/-- Databases that answer with one number, except that one query may fail. -/
def backend (fails : Bool) : Backend Unit where
  connect _ d := (.ok (), d)
  ping d := (.ok (), d)
  query sql d :=
    if fails && sql == fallbackQuery "pg_x" then (.error (.query "gone"), d)
    else (.ok ⟨["a"], [[.int 1]]⟩, d)
  close d := d

def server : Server :=
  { Server.open 0 .localhost .empty with plan := catalog.compile ⟨14, 0, 0⟩ .empty }

/-- Nothing was done yet. -/
def world : World Unit := ⟨fun _ => (), []⟩

theorem differ : (backend true).DiffersOnlyAt (fallbackQuery "pg_x") (backend false) := by
  constructor
  · intro sql ne d
    simp [backend, ne]
  · intro d
    simp [backend]

/-- The second namespace takes its turn as if the first had not failed. -/
theorem isolatedFrom_of_failure :
    (backend true).DiffersOnlyAt (fallbackQuery "pg_x") (backend false) ∧
      server.IsolatedFrom (fallbackQuery "pg_x") (backend true) (backend false) default world ∧
      ((server.namespaceTurns (backend true) default world).turns.map
        fun t => t.2.metrics.length) = [0, 1] := by
  have ok (fails : Bool) :
      ∃ report, (server.scrapeNamespaces (backend fails) default world).1 = .ok report := by
    cases fails <;> exact ⟨_, rfl⟩
  obtain ⟨report₁, h₁⟩ := ok true
  obtain ⟨report₂, h₂⟩ := ok false
  exact ⟨differ, failures_stay_with_their_query.1 _ _ _ differ _ _ _ _ _ h₁ h₂, rfl⟩

end FailedQuery

end Server

end PgMetrics
