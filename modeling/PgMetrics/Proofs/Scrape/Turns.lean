import PgMetrics.Proofs.Scrape.Cache
import PgMetrics.Scrape.Pass

/-!
# The turns of a pass

The report of a pass says what all namespaces gave together. Here every namespace is kept apart with
the way in which it took its turn, and the report is put together from the turns.

## Main definitions

* `Turn` — how a namespace took its turn.
* `Server.takeTurns` — the turns of a list of namespaces.
* `Server.TurnOf` — the ways in which a turn can go.
-/

namespace PgMetrics

/-- How a namespace took its turn. -/
inductive Turn where
  /-- Only primaries are asked for it, and the server is none. -/
  | passedOver
  /-- Its capture was given again. -/
  | replayed (metrics : List Metric)
  /-- It was read, or it is switched off and gave an empty batch. -/
  | read (batch : Batch)
  | failed (e : QueryError)

namespace Turn

/-- The report of a turn. -/
def report : Turn → Report
  | passedOver => .empty
  | replayed metrics => .ofMetrics metrics
  | read batch => .ofBatch batch
  | failed e => .ofQueryError e

/-- The metrics that a turn gave. -/
def metrics (t : Turn) : List Metric := t.report.metrics

/-- The report of many turns. -/
def reportAll (turns : List (String × Turn)) : Report :=
  turns.foldr (fun t r => t.2.report.append r) .empty

theorem metrics_reportAll (turns : List (String × Turn)) :
    (reportAll turns).metrics = turns.flatMap fun t => t.2.metrics := by
  induction turns with
  | nil => rfl
  | cons t rest ih =>
    rw [List.flatMap_cons, ← ih]
    rfl

end Turn

/-- The turns that were taken, what ended them, and what they left behind. -/
structure TakenTurns (δ : Type) where
  turns : List (String × Turn)
  abort : Option Abort
  server : Server
  world : World δ

namespace Server

variable {δ : Type}

/-- The turn of a namespace. -/
def takeTurn (b : Backend δ) (now : Instant) (s : Server) (namespaceName : String)
    (schema : Schema) (w : World δ) : Except Abort Turn × Server × World δ :=
  if schema.masterOnly && !s.master then (.ok .passedOver, s, w)
  else
    match s.cache.check namespaceName schema.cacheSeconds now with
    | .replay metrics => (.ok (.replayed metrics), s, w)
    | .scrape =>
      match s.readNamespace b namespaceName schema w with
      | (.ok batch, w) =>
        let cache := s.cache.store namespaceName schema.cacheSeconds batch.metrics now
        (.ok (.read batch), { s with cache }, w)
      | (.error (.query e), w) => (.ok (.failed e), s, w)
      | (.error (.abort a), w) => (.error a, s, w)

/-- The turns of the namespaces of a list, up to one that aborts. -/
def takeTurns (b : Backend δ) (now : Instant) :
    List (String × Schema) → Server → World δ → TakenTurns δ
  | [], s, w => ⟨[], none, s, w⟩
  | n :: rest, s, w =>
    match s.takeTurn b now n.1 n.2 w with
    | (.error a, s, w) => ⟨[], some a, s, w⟩
    | (.ok turn, s, w) =>
      let others := takeTurns b now rest s w
      { others with turns := (n.1, turn) :: others.turns }

/-! ## Reports from turns -/

theorem visitNamespace_eq (b : Backend δ) (now : Instant) (s : Server) (namespaceName : String)
    (schema : Schema) (w : World δ) :
    s.visitNamespace b now namespaceName schema w =
      ((s.takeTurn b now namespaceName schema w).1.map Turn.report,
        (s.takeTurn b now namespaceName schema w).2) := by
  unfold visitNamespace takeTurn
  split
  · rfl
  · cases s.cache.check namespaceName schema.cacheSeconds now with
    | replay metrics => rfl
    | scrape =>
      obtain ⟨answer, w'⟩ := s.readNamespace b namespaceName schema w
      cases answer with
      | ok batch => rfl
      | error stop => cases stop <;> rfl

theorem visitNamespaces_eq (b : Backend δ) (now : Instant) (l : List (String × Schema))
    (s : Server) (w : World δ) :
    visitNamespaces b now l s w =
      (match (takeTurns b now l s w).abort with
        | some a => .error a
        | none => .ok (Turn.reportAll (takeTurns b now l s w).turns),
        (takeTurns b now l s w).server, (takeTurns b now l s w).world) := by
  induction l generalizing s w with
  | nil => rfl
  | cons n rest ih =>
    unfold visitNamespaces takeTurns
    rw [visitNamespace_eq]
    obtain ⟨answer, s', w'⟩ := s.takeTurn b now n.1 n.2 w
    cases answer with
    | error a => rfl
    | ok turn =>
      simp only [Except.map, ih]
      cases (takeTurns b now rest s' w').abort <;> rfl

/-! ## One turn -/

/-- The ways in which a turn can go. -/
inductive TurnOf (b : Backend δ) (now : Instant) (s : Server) (namespaceName : String)
    (schema : Schema) (w : World δ) : Except Abort Turn × Server × World δ → Prop
  | passedOver (only : schema.masterOnly) (replica : s.master = false) :
      TurnOf b now s namespaceName schema w (.ok .passedOver, s, w)
  | replayed {capture : Capture} (asked : schema.masterOnly → s.master)
      (window : schema.cacheSeconds ≠ 0)
      (found : s.cache.captures.get? namespaceName = some capture)
      (fresh : capture.isFresh schema.cacheSeconds now) :
      TurnOf b now s namespaceName schema w (.ok (.replayed capture.metrics), s, w)
  | read {batch : Batch} {w' : World δ} (asked : schema.masterOnly → s.master)
      (stale : s.cache.check namespaceName schema.cacheSeconds now = .scrape)
      (reading : s.readNamespace b namespaceName schema w = (.ok batch, w')) :
      TurnOf b now s namespaceName schema w
        (.ok (.read batch),
          { s with cache := s.cache.store namespaceName schema.cacheSeconds batch.metrics now }, w')
  | failed {e : QueryError} {w' : World δ} (asked : schema.masterOnly → s.master)
      (stale : s.cache.check namespaceName schema.cacheSeconds now = .scrape)
      (reading : s.readNamespace b namespaceName schema w = (.error (.query e), w')) :
      TurnOf b now s namespaceName schema w (.ok (.failed e), s, w')
  | aborted {a : Abort} {w' : World δ} (asked : schema.masterOnly → s.master)
      (stale : s.cache.check namespaceName schema.cacheSeconds now = .scrape)
      (reading : s.readNamespace b namespaceName schema w = (.error (.abort a), w')) :
      TurnOf b now s namespaceName schema w (.error a, s, w')

theorem turnOf_takeTurn (b : Backend δ) (now : Instant) (s : Server) (namespaceName : String)
    (schema : Schema) (w : World δ) :
    TurnOf b now s namespaceName schema w (s.takeTurn b now namespaceName schema w) := by
  unfold takeTurn
  split
  case isTrue skip =>
    simp only [Bool.and_eq_true, Bool.not_eq_true'] at skip
    exact .passedOver skip.1 skip.2
  case isFalse skip =>
    have asked : schema.masterOnly → s.master := by simpa using skip
    cases decision : s.cache.check namespaceName schema.cacheSeconds now with
    | replay metrics =>
      obtain ⟨window, takenAt, found, fresh⟩ := Cache.check_eq_replay_iff.mp decision
      exact .replayed asked window found fresh
    | scrape =>
      cases reading : s.readNamespace b namespaceName schema w with
      | mk answer w' =>
        cases answer with
        | ok batch => exact .read asked decision reading
        | error stop =>
          cases stop with
          | query e => exact .failed asked decision reading
          | abort a => exact .aborted asked decision reading

theorem batchOf_eq_ok_iff {s : Server} {namespaceName : String} {schema : Schema}
    {answer : Except DbError ResultSet} {batch : Batch} :
    s.batchOf namespaceName schema answer = .ok batch ↔
      ∃ result, answer = .ok result ∧ schema.convert namespaceName result = .ok batch := by
  unfold batchOf
  cases answer with
  | error e => simp
  | ok result => cases converted : schema.convert namespaceName result <;> simp [converted]

theorem readNamespace_eq_ok {b : Backend δ} {s : Server} {namespaceName : String}
    {schema : Schema} {w w' : World δ} {batch : Batch}
    (h : s.readNamespace b namespaceName schema w = (.ok batch, w')) :
    (Resolution.of s.plan.queries namespaceName = .disabled ∧ batch = .empty ∧ w' = w) ∨
      (Resolution.of s.plan.queries namespaceName ≠ .disabled ∧
        ∃ result, schema.convert namespaceName result = .ok batch) := by
  unfold readNamespace at h
  have queried {sql : String}
      (h : (s.batchOf namespaceName schema (w.query b s.fingerprint sql).1,
        (w.query b s.fingerprint sql).2) = (.ok batch, w')) :
      ∃ result, schema.convert namespaceName result = .ok batch := by
    obtain ⟨result, -, converted⟩ := batchOf_eq_ok_iff.mp (congrArg Prod.fst h)
    exact ⟨result, converted⟩
  cases resolution : Resolution.of s.plan.queries namespaceName with
  | disabled =>
    rw [resolution] at h
    cases h
    exact .inl ⟨rfl, rfl, rfl⟩
  | custom sql =>
    rw [resolution] at h
    exact .inr ⟨by simp, queried h⟩
  | notConfigured =>
    rw [resolution] at h
    exact .inr ⟨by simp, queried h⟩

theorem server_takeTurn (b : Backend δ) (now : Instant) (s : Server) (namespaceName : String)
    (schema : Schema) (w : World δ) :
    (s.takeTurn b now namespaceName schema w).2.1 =
      { s with cache := (s.takeTurn b now namespaceName schema w).2.1.cache } := by
  have way := turnOf_takeTurn b now s namespaceName schema w
  generalize s.takeTurn b now namespaceName schema w = r at way ⊢
  cases way <;> rfl

theorem capture_takeTurn_of_ne (b : Backend δ) (now : Instant) (s : Server)
    {namespaceName other : String} (schema : Schema) (w : World δ) (ne : other ≠ namespaceName) :
    (s.takeTurn b now namespaceName schema w).2.1.cache.captures.get? other =
      s.cache.captures.get? other := by
  have way := turnOf_takeTurn b now s namespaceName schema w
  generalize s.takeTurn b now namespaceName schema w = r at way ⊢
  cases way with
  | read =>
    unfold Cache.store
    split
    · rfl
    · simp [ne]
  | _ => rfl

/-- After its own turn the capture of a namespace is what was read, or what it was before. -/
theorem capture_takeTurn (b : Backend δ) (now : Instant) (s : Server) (namespaceName : String)
    (schema : Schema) (w : World δ) :
    (∃ batch, (s.takeTurn b now namespaceName schema w).1 = .ok (.read batch) ∧
        schema.cacheSeconds ≠ 0 ∧
        (s.takeTurn b now namespaceName schema w).2.1.cache.captures.get? namespaceName =
          some ⟨batch.metrics, now⟩) ∨
      ((∀ batch, (s.takeTurn b now namespaceName schema w).1 = .ok (.read batch) →
          schema.cacheSeconds = 0) ∧
        (s.takeTurn b now namespaceName schema w).2.1.cache.captures.get? namespaceName =
          s.cache.captures.get? namespaceName) := by
  have way := turnOf_takeTurn b now s namespaceName schema w
  generalize s.takeTurn b now namespaceName schema w = r at way ⊢
  cases way with
  | @read batch w' asked stale reading =>
    by_cases off : schema.cacheSeconds = 0
    · refine .inr ⟨fun _ _ => off, ?_⟩
      unfold Cache.store
      rw [if_pos off]
    · refine .inl ⟨batch, rfl, off, ?_⟩
      simp only [Cache.store, if_neg off, Dict.get?_insert, Std.ReflCmp.compare_self, ↓reduceIte]
  | _ => exact .inr ⟨by simp, rfl⟩

/-! ## All turns -/

section Turns

variable (b : Backend δ) (now : Instant)

theorem server_takeTurns (l : List (String × Schema)) (s : Server) (w : World δ) :
    (takeTurns b now l s w).server =
      { s with cache := (takeTurns b now l s w).server.cache } := by
  induction l generalizing s w with
  | nil => rfl
  | cons n rest ih =>
    have kept := server_takeTurn b now s n.1 n.2 w
    unfold takeTurns
    split
    case h_1 a s' w' outcome => rwa [outcome] at kept
    case h_2 turn s' w' outcome =>
      rw [outcome] at kept
      dsimp only at kept ⊢
      rw [ih s' w', kept]

theorem capture_takeTurns_of_not_mem {l : List (String × Schema)} {namespaceName : String}
    (h : ∀ n ∈ l, namespaceName ≠ n.1) (s : Server) (w : World δ) :
    (takeTurns b now l s w).server.cache.captures.get? namespaceName =
      s.cache.captures.get? namespaceName := by
  induction l generalizing s w with
  | nil => rfl
  | cons n rest ih =>
    obtain ⟨first, others⟩ := List.forall_mem_cons.mp h
    have kept := capture_takeTurn_of_ne b now s n.2 w first
    unfold takeTurns
    split
    case h_1 a s' w' outcome => rwa [outcome] at kept
    case h_2 turn s' w' outcome =>
      rw [outcome] at kept
      rw [← kept]
      exact ih others s' w'

theorem mem_of_mem_turns {l : List (String × Schema)} {s : Server} {w : World δ}
    {namespaceName : String} {turn : Turn}
    (h : (namespaceName, turn) ∈ (takeTurns b now l s w).turns) :
    ∃ schema, (namespaceName, schema) ∈ l := by
  induction l generalizing s w with
  | nil => cases h
  | cons n rest ih =>
    unfold takeTurns at h
    split at h
    case h_1 => cases h
    case h_2 turn' s' w' outcome =>
      rcases List.mem_cons.mp h with same | later
      · cases same
        exact ⟨n.2, List.mem_cons_self⟩
      · obtain ⟨schema, mem⟩ := ih later
        exact ⟨schema, List.mem_cons_of_mem _ mem⟩

/-- Without an abort every namespace takes its turn. -/
theorem map_fst_turns {l : List (String × Schema)} {s : Server} {w : World δ}
    (h : (takeTurns b now l s w).abort = none) :
    (takeTurns b now l s w).turns.map (·.1) = l.map (·.1) := by
  induction l generalizing s w with
  | nil => rfl
  | cons n rest ih =>
    unfold takeTurns at h ⊢
    split at h
    case h_1 => cases h
    case h_2 turn s' w' outcome => simp [ih h]

/-- A namespace takes its turn on the server of the pass, and finds the capture that the pass
found. -/
theorem takeTurn_of_mem_turns {l : List (String × Schema)}
    (distinct : l.Pairwise fun m n => m.1 ≠ n.1) {s : Server} {w : World δ}
    {namespaceName : String} {turn : Turn}
    (h : (namespaceName, turn) ∈ (takeTurns b now l s w).turns) :
    ∃ schema cache w' r, (namespaceName, schema) ∈ l ∧
      cache.captures.get? namespaceName = s.cache.captures.get? namespaceName ∧
      takeTurn b now { s with cache } namespaceName schema w' = (.ok turn, r) := by
  induction l generalizing s w with
  | nil => cases h
  | cons n rest ih =>
    obtain ⟨first, others⟩ := List.pairwise_cons.mp distinct
    have kept := server_takeTurn b now s n.1 n.2 w
    have capture {other : String} := @capture_takeTurn_of_ne δ b now s n.1 other n.2 w
    unfold takeTurns at h
    split at h
    case h_1 => cases h
    case h_2 turn' s' w' outcome =>
      rcases List.mem_cons.mp h with same | later
      · cases same
        exact ⟨n.2, s.cache, w, _, List.mem_cons_self, rfl, outcome⟩
      · -- the turn before changed nothing but the capture of another namespace
        obtain ⟨schema', mem'⟩ := mem_of_mem_turns b now later
        obtain ⟨schema, cache, w'', r, mem, found, taken⟩ := ih others later
        rw [outcome] at kept capture
        dsimp only at kept capture
        rw [capture (first _ mem').symm] at found
        rw [kept] at taken
        exact ⟨schema, cache, w'', r, List.mem_cons_of_mem _ mem, found, taken⟩

/-- After a pass the capture of a namespace is what the pass read, or what it was before. -/
theorem capture_takeTurns {l : List (String × Schema)}
    (distinct : l.Pairwise fun m n => m.1 ≠ n.1) {s : Server} {w : World δ}
    {namespaceName : String} {schema : Schema} (mem : (namespaceName, schema) ∈ l) :
    (∃ batch, (namespaceName, .read batch) ∈ (takeTurns b now l s w).turns ∧
        schema.cacheSeconds ≠ 0 ∧
        (takeTurns b now l s w).server.cache.captures.get? namespaceName =
          some ⟨batch.metrics, now⟩) ∨
      ((∀ batch, (namespaceName, .read batch) ∈ (takeTurns b now l s w).turns →
          schema.cacheSeconds = 0) ∧
        (takeTurns b now l s w).server.cache.captures.get? namespaceName =
          s.cache.captures.get? namespaceName) := by
  induction l generalizing s w with
  | nil => cases mem
  | cons n rest ih =>
    obtain ⟨first, others⟩ := List.pairwise_cons.mp distinct
    have capture {other : String} := @capture_takeTurn_of_ne δ b now s n.1 other n.2 w
    have own := capture_takeTurn b now s n.1 n.2 w
    unfold takeTurns
    split
    case h_1 a s' w' outcome =>
      rw [outcome] at capture own
      rcases List.mem_cons.mp mem with rfl | mem
      · exact .inr ⟨nofun, (own.resolve_left nofun).2⟩
      · exact .inr ⟨nofun, capture (first _ mem).symm⟩
    case h_2 turn s' w' outcome =>
      rw [outcome] at capture own
      simp only [List.mem_cons, Prod.mk.injEq]
      rcases List.mem_cons.mp mem with rfl | mem
      · -- the turns after its own leave the capture alone
        have absent {turn : Turn} : (namespaceName, turn) ∉ (takeTurns b now rest s' w').turns := by
          intro h
          obtain ⟨schema', mem'⟩ := mem_of_mem_turns b now h
          exact first _ mem' rfl
        simpa [capture_takeTurns_of_not_mem b now first, absent, eq_comm] using own
      · have ne := (first _ mem).symm
        simp only [ne, false_and, false_or]
        rw [← capture ne]
        exact ih others mem

/-- The capture of any name after the turns of the schemas of a dictionary. -/
theorem capture_takeTurns_toList (schemas : Dict String Schema) (s : Server) (w : World δ)
    (name : String) :
    (∃ schema batch, schemas.get? name = some schema ∧
        (name, .read batch) ∈ (takeTurns b now schemas.toList s w).turns ∧
        schema.cacheSeconds ≠ 0 ∧
        (takeTurns b now schemas.toList s w).server.cache.captures.get? name =
          some ⟨batch.metrics, now⟩) ∨
      ((∀ batch, (name, .read batch) ∈ (takeTurns b now schemas.toList s w).turns →
          ∃ schema, schemas.get? name = some schema ∧ schema.cacheSeconds = 0) ∧
        (takeTurns b now schemas.toList s w).server.cache.captures.get? name =
          s.cache.captures.get? name) := by
  cases known : schemas.get? name with
  | none =>
    -- a capture may outlive the schema of its namespace
    have absent : ∀ n ∈ schemas.toList, name ≠ n.1 := by
      rintro n mem rfl
      exact Dict.get?_eq_none_iff.mp known _ mem
    refine .inr ⟨fun batch read => ?_, capture_takeTurns_of_not_mem b now absent s w⟩
    obtain ⟨schema, mem⟩ := mem_of_mem_turns b now read
    exact absurd rfl (absent _ mem)
  | some schema =>
    have mem := Dict.get?_eq_some_iff.mp known
    rcases capture_takeTurns b now schemas.pairwise_ne (s := s) (w := w) mem with
      ⟨batch, read, window, capture⟩ | ⟨unread, capture⟩
    · exact .inl ⟨schema, batch, rfl, read, window, capture⟩
    · exact .inr ⟨fun batch read => ⟨schema, rfl, unread batch read⟩, capture⟩

end Turns

end Server

end PgMetrics
