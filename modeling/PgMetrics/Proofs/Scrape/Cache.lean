import Mathlib.Data.List.DropRight
import PgMetrics.Proofs.Dict
import PgMetrics.Scrape.Cache

/-!
# A cache and its history

A cache is given captures, asked and cleared, in any order and by any clock. What it holds at any
time is what was stored with a window since it was cleared last, of every namespace the last
capture, stale or not. A check answers from that and from the window that it is made with.

## Main definitions

* `Cache.Operation`, `Cache.run` — what can be done with a cache, and what it answers.
* `Cache.stored` — what was stored since the cache was cleared last.
* `Cache.LastStored` — the last capture of a namespace.
-/

namespace PgMetrics.Cache

/-- What can be done with a cache. -/
inductive Operation where
  | store (namespaceName : String) (cacheSeconds : UInt64) (metrics : List Metric) (now : Instant)
  | check (namespaceName : String) (cacheSeconds : UInt64) (now : Instant)
  | clear

/-- The answer to an operation, if it is a check, and the cache after it. -/
def perform (c : Cache) : Operation → Option CacheDecision × Cache
  | .store namespaceName cacheSeconds metrics now =>
    (none, c.store namespaceName cacheSeconds metrics now)
  | .check namespaceName cacheSeconds now => (some (c.check namespaceName cacheSeconds now), c)
  | .clear => (none, c.clear)

/-- The answers to a list of operations, and the cache after them. -/
def run : List Operation → Cache → List (Option CacheDecision) × Cache
  | [], c => ([], c)
  | op :: rest, c =>
    let others := run rest (c.perform op).2
    ((c.perform op).1 :: others.1, others.2)

@[simp]
theorem length_answers (ops : List Operation) (c : Cache) :
    (run ops c).1.length = ops.length := by
  induction ops generalizing c with
  | nil => rfl
  | cons op rest ih => simp [run, ih]

theorem run_append (ops later : List Operation) (c : Cache) :
    run (ops ++ later) c =
      ((run ops c).1 ++ (run later (run ops c).2).1, (run later (run ops c).2).2) := by
  induction ops generalizing c with
  | nil => rfl
  | cons op rest ih => simp [run, ih]

/-- Every operation is answered by the cache that the operations before it left. -/
theorem answer_run (ops later : List Operation) (op : Operation) (c : Cache) :
    (run (ops ++ op :: later) c).1[ops.length]? = some ((run ops c).2.perform op).1 := by
  simp [run_append, run]

/-- An operation that leaves the cache as it finds it could as well be left out. -/
theorem run_append_of_idle {ops : List Operation} {op : Operation} {c : Cache}
    (idle : ((run ops c).2.perform op).2 = (run ops c).2) (later : List Operation) :
    run (ops ++ later) c =
      ((run (ops ++ op :: later) c).1.eraseIdx ops.length, (run (ops ++ op :: later) c).2) := by
  simp [run_append, run, idle, List.eraseIdx_append_of_length_le]

/-! ## History -/

namespace Operation

def isClear : Operation → Bool
  | clear => true
  | _ => false

/-- What an operation puts into the cache; without a window that is nothing. -/
def stored? : Operation → Option (String × Capture)
  | store namespaceName cacheSeconds metrics now =>
    if cacheSeconds = 0 then none else some (namespaceName, ⟨metrics, now⟩)
  | _ => none

end Operation

/-- What was stored since the cache was cleared last, in order. -/
def stored (ops : List Operation) : List (String × Capture) :=
  (ops.rtakeWhile fun op => !op.isClear).filterMap Operation.stored?

/-- The capture of a namespace that was stored last, if the cache was not cleared since. -/
def LastStored (ops : List Operation) (namespaceName : String) (capture : Capture) : Prop :=
  ∃ before after, stored ops = before ++ (namespaceName, capture) :: after ∧
    ∀ e ∈ after, e.1 ≠ namespaceName

theorem stored_concat (ops : List Operation) (op : Operation) :
    stored (ops ++ [op]) = if op.isClear then [] else stored ops ++ op.stored?.toList := by
  unfold stored
  rw [List.rtakeWhile_concat]
  cases op.isClear <;> cases stored : op.stored? <;> simp [stored]

/-- The cache holds what was stored, of every namespace the last. -/
theorem captures_run (ops : List Operation) :
    (run ops .empty).2.captures = .ofList (stored ops) := by
  induction ops using List.reverseRecOn with
  | nil => rfl
  | append_singleton ops op ih =>
    rw [run_append, stored_concat]
    cases op with
    | clear => rfl
    | check namespaceName cacheSeconds now =>
      simpa [run, perform, Operation.isClear, Operation.stored?] using ih
    | store namespaceName cacheSeconds metrics now =>
      by_cases off : cacheSeconds = 0
      · simpa [run, perform, store, Operation.isClear, Operation.stored?, off] using ih
      · simp [run, perform, store, Operation.isClear, Operation.stored?, off, Dict.ofList_concat,
          ih]

theorem get?_captures_run {ops : List Operation} {namespaceName : String} {capture : Capture} :
    (run ops .empty).2.captures.get? namespaceName = some capture ↔
      LastStored ops namespaceName capture := by
  rw [captures_run, Dict.get?_ofList_eq_some_iff]
  rfl

/-! ## Checks -/

section Checks

variable {namespaceName : String} {cacheSeconds : UInt64} {now : Instant} {metrics : List Metric}

theorem check_eq_replay_iff {c : Cache} :
    c.check namespaceName cacheSeconds now = .replay metrics ↔
      cacheSeconds ≠ 0 ∧ ∃ takenAt, c.captures.get? namespaceName = some ⟨metrics, takenAt⟩ ∧
        Capture.isFresh ⟨metrics, takenAt⟩ cacheSeconds now := by
  unfold check
  by_cases off : cacheSeconds = 0
  · simp [off]
  · cases c.captures.get? namespaceName with
    | none => simp [off]
    | some capture =>
      obtain ⟨kept, takenAt⟩ := capture
      cases fresh : Capture.isFresh ⟨kept, takenAt⟩ cacheSeconds now <;> grind

theorem check_eq_scrape_iff_not_replay {c : Cache} :
    c.check namespaceName cacheSeconds now = .scrape ↔
      ∀ metrics, c.check namespaceName cacheSeconds now ≠ .replay metrics := by
  cases c.check namespaceName cacheSeconds now <;> simp

/-- A check replays what was stored last, if that is fresh for the window of the check. -/
theorem check_run_eq_replay_iff {ops : List Operation} :
    (run ops .empty).2.check namespaceName cacheSeconds now = .replay metrics ↔
      cacheSeconds ≠ 0 ∧ ∃ takenAt, LastStored ops namespaceName ⟨metrics, takenAt⟩ ∧
        Capture.isFresh ⟨metrics, takenAt⟩ cacheSeconds now := by
  simp only [check_eq_replay_iff, get?_captures_run]

theorem check_run_eq_scrape_iff {ops : List Operation} :
    (run ops .empty).2.check namespaceName cacheSeconds now = .scrape ↔
      ¬ (cacheSeconds ≠ 0 ∧ ∃ capture, LastStored ops namespaceName capture ∧
        capture.isFresh cacheSeconds now) := by
  rw [check_eq_scrape_iff_not_replay]
  simp only [ne_eq, check_run_eq_replay_iff]
  constructor
  · rintro none ⟨window, ⟨metrics, takenAt⟩, last, fresh⟩
    exact none metrics ⟨window, takenAt, last, fresh⟩
  · rintro none metrics ⟨window, takenAt, last, fresh⟩
    exact none ⟨window, ⟨metrics, takenAt⟩, last, fresh⟩

end Checks

/-- Whatever was done with a cache: a check replays what was stored last if that is fresh for the
window of the check, and says to scrape otherwise. A check, and what is stored without a window,
leaves the cache and all other answers as they are. The cache has an entry for every namespace that
was stored since it was cleared. -/
theorem answers_follow_history (ops later : List Operation) :
    (∀ namespaceName cacheSeconds now metrics,
      (run (ops ++ .check namespaceName cacheSeconds now :: later) .empty).1[ops.length]? =
          some (some (.replay metrics)) ↔
        cacheSeconds ≠ 0 ∧ ∃ takenAt, LastStored ops namespaceName ⟨metrics, takenAt⟩ ∧
          Capture.isFresh ⟨metrics, takenAt⟩ cacheSeconds now) ∧
    (∀ namespaceName cacheSeconds now,
      (run (ops ++ .check namespaceName cacheSeconds now :: later) .empty).1[ops.length]? =
          some (some .scrape) ↔
        ¬ (cacheSeconds ≠ 0 ∧ ∃ capture, LastStored ops namespaceName capture ∧
          capture.isFresh cacheSeconds now)) ∧
    (∀ namespaceName cacheSeconds now,
      let asked := run (ops ++ .check namespaceName cacheSeconds now :: later) .empty
      run (ops ++ later) .empty = (asked.1.eraseIdx ops.length, asked.2)) ∧
    (∀ namespaceName metrics now,
      let offered := run (ops ++ .store namespaceName 0 metrics now :: later) .empty
      run (ops ++ later) .empty = (offered.1.eraseIdx ops.length, offered.2)) ∧
    (run ops .empty).2.size = ((stored ops).map (·.1)).dedup.length := by
  refine ⟨fun _ _ _ _ => ?_, fun _ _ _ => ?_, fun _ _ _ => ?_, fun _ _ _ => ?_, ?_⟩
  · rw [answer_run, perform, Option.some.injEq, Option.some.injEq]
    exact check_run_eq_replay_iff
  · rw [answer_run, perform, Option.some.injEq, Option.some.injEq]
    exact check_run_eq_scrape_iff
  · exact run_append_of_idle rfl later
  · exact run_append_of_idle rfl later
  · rw [size, captures_run, Dict.size_ofList]

end PgMetrics.Cache
