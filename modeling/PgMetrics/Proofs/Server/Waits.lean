import PgMetrics.Proofs.Server.Connections
import PgMetrics.Proofs.Time.Span

/-!
# The waits between attempts

After each failed attempt but the last the registry waits for as many steps as attempts were made.
The waits are exact until they reach the greatest span, which they never leave, so they grow from
one attempt to the next.

## Main definitions

* `World.waits` — the waits in a log.

## Main results

* `Registry.waits_attempts` — the waits of attempts in a row.
* `Registry.backoff_exact_until_greatest` — how long the waits are, and that they never shrink.
-/

namespace PgMetrics

/-- The length of a wait. -/
def Event.wait? : Event → Option Span
  | .sleep span => some span
  | _ => none

namespace World

variable {δ : Type}

/-- The waits so far, in their order. -/
def waits (w : World δ) : List Span := w.log.filterMap Event.wait?

theorem waits_note (w : World δ) (e : Event) :
    (w.note e).waits = w.waits ++ e.wait?.toList := by
  cases e <;> simp [waits, note, Event.wait?]

@[simp]
theorem waits_set (w : World δ) (server : String) (d : δ) : (w.set server d).waits = w.waits := rfl

@[simp]
theorem waits_sleep (w : World δ) (span : Span) : (w.sleep span).waits = w.waits ++ [span] :=
  waits_note w _

variable (b : Backend δ)

@[simp]
theorem waits_connect (e : Endpoint) (w : World δ) : (w.connect b e).2.waits = w.waits := by
  unfold connect
  simp [waits_note, Event.wait?]

@[simp]
theorem waits_ping (server : String) (w : World δ) : (w.ping b server).2.waits = w.waits := by
  unfold ping
  simp [waits_note, Event.wait?]

@[simp]
theorem waits_close (server : String) (w : World δ) : (w.close b server).waits = w.waits := by
  unfold close
  simp [waits_note, Event.wait?]

end World

namespace Registry

variable {δ : Type}

/-- To ping the server of an attempt takes no wait, and the policy stays. -/
theorem waits_attempt_of_opened {b : Backend δ} {e : Endpoint} {r r₁ : Registry} {w w₁ : World δ}
    {s : Server} (opened : r.openServer b e w = (.ok s, r₁, w₁)) :
    (r.attempt b e w).2.2.waits = w₁.waits ∧ (r.attempt b e w).2.1.policy = r₁.policy := by
  unfold attempt
  simp only [opened]
  rcases ping_cases b s w₁ with answered | ⟨error, silent⟩
  · rw [answered]
    exact ⟨w₁.waits_ping b s.fingerprint, rfl⟩
  · rw [silent]
    exact ⟨by simp, rfl⟩

/-- There is no wait within an attempt. -/
theorem waits_attempt (b : Backend δ) (e : Endpoint) (r : Registry) (w : World δ) :
    (r.attempt b e w).2.2.waits = w.waits ∧ (r.attempt b e w).2.1.policy = r.policy := by
  have connecting := w.waits_connect b e
  rcases openServer_cases b e r w with
    ⟨s, -, opened⟩ | ⟨-, ⟨source, w₁, connected, opened⟩ | ⟨w₁, connected, opened⟩⟩
  · exact waits_attempt_of_opened opened
  · rw [connected] at connecting
    unfold attempt
    rw [opened]
    exact ⟨connecting, rfl⟩
  · rw [connected] at connecting
    obtain ⟨waits, policy⟩ := waits_attempt_of_opened opened
    exact ⟨waits.trans connecting, policy⟩

/-- The waits after `count` attempts in a row, before which `done` were made. -/
def waitsAfter (policy : RetryPolicy) (done count : Nat) : List Span :=
  (List.range' (done + 1) count).map policy.backoff

theorem pairwise_waitsAfter (policy : RetryPolicy) (done count : Nat) :
    (waitsAfter policy done count).Pairwise fun earlier later => earlier.le later = true := by
  unfold waitsAfter
  rw [List.pairwise_map]
  apply (List.pairwise_lt_range' (s := done + 1) (n := count)).imp
  intro i j before
  exact Span.le_iff.mpr (policy.step.scale_mono_right (Nat.le_of_lt before))

/-- Attempts in a row wait once less than they are. -/
theorem waits_attempts (b : Backend δ) (e : Endpoint) (done : Nat) (last : Option ConnectionError)
    (left : Nat) (r : Registry) (w : World δ) :
    ∃ count, count ≤ left - 1 ∧ (r.attempts b e done last left w).2.2.waits =
      w.waits ++ waitsAfter r.policy done count := by
  induction left generalizing done last r w with
  | zero =>
    refine ⟨0, Nat.le_refl 0, ?_⟩
    unfold attempts
    cases last <;> simp [waitsAfter]
  | succ left ih =>
    obtain ⟨waits, policy⟩ := waits_attempt b e r w
    unfold attempts
    rcases result : r.attempt b e w with ⟨answer, r', w'⟩
    rw [result] at waits policy
    dsimp only at waits policy
    cases answer with
    | ok s => exact ⟨0, Nat.zero_le _, by simp [waits, waitsAfter]⟩
    | error error =>
      dsimp only
      by_cases none : left = 0
      · -- the last attempt is followed by no wait
        subst none
        exact ⟨0, Nat.le_refl 0, by simp [attempts, waits, waitsAfter]⟩
      · rw [if_neg none]
        obtain ⟨count, most, later⟩ := ih (done + 1) (some error) r'
          (w'.sleep (r'.policy.backoff (done + 1)))
        refine ⟨count + 1, by omega, ?_⟩
        rw [later, World.waits_sleep, waits, policy, waitsAfter, waitsAfter, List.range'_succ,
          List.map_cons, List.append_assoc, List.singleton_append]

/-- The wait after attempt `n` has `n` times the nanoseconds of the step as long as its seconds fit
64 bits, and it is the greatest span beyond that; a span is told by its nanoseconds. The wait grows
with the number and with the step, so the waits of an acquisition never shrink. -/
theorem backoff_exact_until_greatest :
    (∀ (policy : RetryPolicy) (n : Nat),
      (policy.backoff n).total =
        (if n * policy.step.total / nanosPerSecond < UInt64.size then n * policy.step.total
          else Span.greatest.total) ∧
      (policy.backoff n).nanos.val < nanosPerSecond) ∧
    (∀ s t : Span, s.total = t.total → s = t) ∧
    (∀ s : Span, s.le .greatest = true) ∧
    (∀ (policy : RetryPolicy) (m n : Nat), m ≤ n →
      (policy.backoff m).le (policy.backoff n) = true) ∧
    (∀ (policy longer : RetryPolicy) (n : Nat), policy.step.le longer.step = true →
      (policy.backoff n).le (longer.backoff n) = true) ∧
    ∀ (δ : Type) (b : Backend δ) (e : Endpoint) (r : Registry) (w : World δ),
      ∃ count, count ≤ r.policy.maxAttempts.toNat - 1 ∧
        (r.acquire b e w).2.2.waits = w.waits ++ waitsAfter r.policy 0 count ∧
        (waitsAfter r.policy 0 count).Pairwise fun earlier later => earlier.le later = true := by
  refine ⟨fun policy n => ⟨?_, (policy.backoff n).nanos.isLt⟩, fun s t same => ?_, fun s => ?_,
    fun policy m n fewer => ?_, fun policy longer n shorter => ?_, fun δ b e r w => ?_⟩
  · split
    case isTrue fits => exact Span.total_scale_of_fits fits
    case isFalse overflow => exact congrArg Span.total (Span.scale_eq_greatest overflow)
  · exact Span.total_injective same
  · exact Span.le_iff.mpr s.total_le_greatest
  · exact Span.le_iff.mpr (policy.step.scale_mono_right fewer)
  · exact Span.le_iff.mpr (Span.scale_mono_left (Span.le_iff.mp shorter) n)
  · obtain ⟨count, most, waits⟩ := waits_attempts b e 0 none r.policy.maxAttempts.toNat r w
    exact ⟨count, most, waits, pairwise_waitsAfter r.policy 0 count⟩

namespace Brink

/-- A little more than a third of the greatest span. -/
def policy : RetryPolicy := ⟨3, ⟨6148914691236517205, ⟨333333334, by decide⟩⟩⟩

/-- Twice the step is exact. Three times the step has seconds that fit, but not with the second that
its nanoseconds carry. -/
theorem backoff_of_brink :
    (2 ≤ 3 ∧ (policy.backoff 2).le (policy.backoff 3) = true) ∧
      (policy.step.le Span.greatest = true ∧
        (policy.backoff 2).le (RetryPolicy.backoff ⟨3, .greatest⟩ 2) = true) ∧
      policy.backoff 2 = ⟨12297829382473034410, ⟨666666668, by decide⟩⟩ ∧
      policy.backoff 3 = .greatest := by
  obtain ⟨exact, told, -, later, longer, -⟩ := backoff_exact_until_greatest
  have fewer : 2 ≤ 3 := by decide
  have shorter : policy.step.le Span.greatest = true := by decide
  refine ⟨⟨fewer, later policy 2 3 fewer⟩,
    ⟨shorter, longer policy ⟨3, .greatest⟩ 2 shorter⟩, ?_, ?_⟩
  · exact told _ _ ((exact policy 2).1.trans (by decide))
  · exact told _ _ ((exact policy 3).1.trans (by decide))

end Brink

end Registry

end PgMetrics
