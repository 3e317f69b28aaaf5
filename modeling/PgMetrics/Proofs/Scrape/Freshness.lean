import PgMetrics.Proofs.Scrape.Cache

/-!
# How long a capture stays fresh

The age of a capture is cut to whole milliseconds, and its window saturates in 64 bits. Neither
shows: between instants that have a calendar date, a capture is fresh exactly while its age in
nanoseconds is below the window and one more millisecond. No instant is inside a leap second.

## Main definitions

* `Instant.InCalendar` — the instants that have a calendar date.

## Main results

* `Capture.isFresh_iff_age_lt` — freshness without rounding, for ages whose milliseconds fit.
* `Capture.fresh_exactly_within_window` — freshness between calendar dates.
-/

namespace PgMetrics

namespace Instant

/-- The first second of the year -262144, before which no calendar begins. -/
def calendarStart : Int := -8334632851200

/-- The last second of the year 262143, after which every calendar has ended. -/
def calendarEnd : Int := 8210298412799

/-- The instants that have a calendar date. -/
structure InCalendar (t : Instant) : Prop where
  begun : calendarStart ≤ t.seconds
  notEnded : t.seconds ≤ calendarEnd

instance (t : Instant) : Decidable t.InCalendar :=
  decidable_of_iff (calendarStart ≤ t.seconds ∧ t.seconds ≤ calendarEnd)
    ⟨fun h => ⟨h.1, h.2⟩, fun h => ⟨h.1, h.2⟩⟩

/-- Cutting toward zero does not show against a bound that is not negative: the last millisecond
counts as far as it goes. -/
theorem millisSince_le_iff {now past : Instant} {bound : Int} (nonneg : 0 ≤ bound) :
    now.millisSince past ≤ bound ↔
      now.nanoseconds - past.nanoseconds < (bound + 1) * 1000000 := by
  unfold millisSince
  generalize now.nanoseconds - past.nanoseconds = age
  rcases Int.le_total 0 age with forward | backward
  · rw [Int.tdiv_eq_ediv_of_nonneg forward]
    omega
  · have cut : 0 ≤ (-age).tdiv 1000000 := Int.tdiv_nonneg (by omega) (by decide)
    rw [Int.neg_tdiv] at cut
    omega

/-- No two calendar dates are as many milliseconds apart as fit 64 bits. -/
theorem InCalendar.age_lt {now past : Instant} (hnow : now.InCalendar) (hpast : past.InCalendar) :
    now.nanoseconds - past.nanoseconds < Int64.maxValue.toInt * 1000000 := by
  have most := Int64.toInt_maxValue
  obtain ⟨-, notEnded⟩ := hnow
  obtain ⟨begun, -⟩ := hpast
  have part := now.nanos.isLt
  simp only [nanoseconds, nanosPerSecond, calendarStart, calendarEnd] at *
  omega

end Instant

/-- Seconds that do not fit 64 bits would saturate as milliseconds all the more. -/
theorem windowMillis_eq (cacheSeconds : UInt64) :
    windowMillis cacheSeconds = min ((cacheSeconds.toNat : Int) * 1000) Int64.maxValue.toInt := by
  have most := Int64.toInt_maxValue
  unfold windowMillis
  simp only [most, Int.ofNat_eq_natCast]
  omega

namespace Capture

variable {c : Capture} {cacheSeconds : UInt64} {now : Instant}

/-- A capture is fresh while it is younger than its window and one more millisecond, as long as the
milliseconds of its age fit 64 bits. -/
theorem isFresh_iff_age_lt
    (fits : now.nanoseconds - c.takenAt.nanoseconds < Int64.maxValue.toInt * 1000000) :
    c.isFresh cacheSeconds now ↔ now.nanoseconds - c.takenAt.nanoseconds <
      cacheSeconds.toNat * 1000000000 + 1000000 := by
  have most := Int64.toInt_maxValue
  have window : 0 ≤ windowMillis cacheSeconds := by
    rw [windowMillis_eq]
    omega
  rw [isFresh, decide_eq_true_iff, Instant.millisSince_le_iff window, windowMillis_eq]
  omega

/-- Between calendar dates a capture is fresh exactly while its age in nanoseconds is below the
window and one more millisecond, and the cache gives it again exactly then, if there is a window.
So a longer window and an earlier clock keep a fresh capture fresh. The dates are those that the
system's clock shows, so none is inside a leap second. -/
theorem fresh_exactly_within_window {past now : Instant} (hpast : past.InCalendar)
    (hnow : now.InCalendar) (metrics : List Metric) (cacheSeconds : UInt64) :
    let c : Capture := ⟨metrics, past⟩
    let age (t : Instant) : Int := t.nanoseconds - past.nanoseconds
    (c.isFresh cacheSeconds now ↔ age now < cacheSeconds.toNat * 1000000000 + 1000000) ∧
    (∀ longer earlier, cacheSeconds ≤ longer → earlier.InCalendar →
      earlier.nanoseconds ≤ now.nanoseconds → c.isFresh cacheSeconds now →
        c.isFresh longer earlier) ∧
    ∀ (cache : Cache) (namespaceName : String), cache.captures.get? namespaceName = some c →
      (cache.check namespaceName cacheSeconds now = .replay metrics ↔
        0 < cacheSeconds.toNat ∧ age now < cacheSeconds.toNat * 1000000000 + 1000000) := by
  intro c age
  have exact {t : Instant} (ht : t.InCalendar) (window : UInt64) :
      c.isFresh window t ↔ age t < window.toNat * 1000000000 + 1000000 :=
    isFresh_iff_age_lt (ht.age_lt hpast)
  refine ⟨exact hnow cacheSeconds, ?_, ?_⟩
  · intro longer earlier window hearlier order fresh
    rw [exact hnow] at fresh
    rw [exact hearlier]
    have window := UInt64.le_iff_toNat_le.mp window
    simp only [age] at *
    omega
  · intro cache namespaceName found
    rw [Cache.check_eq_replay_iff, ← exact hnow, found]
    have positive : 0 < cacheSeconds.toNat ↔ cacheSeconds ≠ 0 := by
      rw [ne_eq, ← UInt64.toNat_inj]
      exact Nat.pos_iff_ne_zero
    rw [positive]
    constructor
    · rintro ⟨window, takenAt, same, fresh⟩
      obtain rfl : past = takenAt := congrArg Capture.takenAt (Option.some.inj same)
      exact ⟨window, fresh⟩
    · rintro ⟨window, fresh⟩
      exact ⟨window, past, rfl, fresh⟩

end Capture

namespace WindowEdge

/-- A capture and a clock that far behind its second. -/
def taken : Instant := { (default : Instant) with seconds := 1700000000 }

def after (seconds : Int) (nanos : Fin 1000000000) : Instant := ⟨1700000000 + seconds, nanos⟩

/-- A window of thirty seconds ends with the thousandth part of a second behind it, a clock that
runs backwards finds every capture fresh, and the widest window never ends. -/
theorem fresh_at_edge :
    (taken.InCalendar ∧ (after 30 ⟨999999, by decide⟩).InCalendar) ∧
    Capture.isFresh ⟨[], taken⟩ 30 (after 30 ⟨999999, by decide⟩) = true ∧
    Capture.isFresh ⟨[], taken⟩ 30 (after 30 ⟨1000000, by decide⟩) = false ∧
    Capture.isFresh ⟨[], taken⟩ 1 (after (-9) ⟨999999999, by decide⟩) = true ∧
    Capture.isFresh ⟨[], taken⟩ 18446744073709551615 (after 31536000 ⟨0, by decide⟩) = true := by
  have begun : taken.InCalendar := by decide
  have exact {now : Instant} (hnow : now.InCalendar) (window : UInt64) :=
    (Capture.fresh_exactly_within_window begun hnow [] window).1
  refine ⟨⟨begun, by decide⟩, ?_, ?_, ?_, ?_⟩
  · exact (exact (by decide) 30).mpr (by decide)
  · exact Bool.eq_false_iff.mpr (mt (exact (by decide) 30).mp (by decide))
  · exact (exact (by decide) 1).mpr (by decide)
  · exact (exact (by decide) _).mpr (by decide)

end WindowEdge

end PgMetrics
