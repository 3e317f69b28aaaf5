import PgMetrics.Metric.Basic
import PgMetrics.Time.Instant

/-!
# The result cache

The metrics of the last good scrape of every namespace, with the time of the scrape. An entry never
goes away by itself; whether it may be used again is decided when it is asked for.

## Main definitions

* `Capture.isFresh`: whether a capture is young enough.
* `Cache.check`, `Cache.store`, `Cache.clear`.
-/

namespace PgMetrics

/-- The metrics of one scrape. -/
structure Capture where
  metrics : List Metric
  takenAt : Instant

/-- A length in milliseconds that saturates in 64 bits. -/
def windowMillis (cacheSeconds : UInt64) : Int :=
  let seconds : Int := min (Int.ofNat cacheSeconds.toNat) Int64.maxValue.toInt
  min (seconds * 1000) Int64.maxValue.toInt

/-- Whether the capture is at most `cacheSeconds` old, in whole milliseconds. -/
def Capture.isFresh (c : Capture) (cacheSeconds : UInt64) (now : Instant) : Bool :=
  now.millisSince c.takenAt ≤ windowMillis cacheSeconds

/-- What to do about a namespace. -/
inductive CacheDecision where
  | scrape
  | replay (metrics : List Metric)

/-- Captures by namespace. -/
structure Cache where
  captures : Dict String Capture

namespace Cache

def empty : Cache := ⟨.empty⟩

instance : Inhabited Cache := ⟨empty⟩

/-- Whether to scrape a namespace or to use its capture again; without a window it is scraped. -/
def check (c : Cache) (namespaceName : String) (cacheSeconds : UInt64) (now : Instant) :
    CacheDecision :=
  if cacheSeconds = 0 then .scrape
  else
    match c.captures.get? namespaceName with
    | some capture => if capture.isFresh cacheSeconds now then .replay capture.metrics else .scrape
    | none => .scrape

/-- Keeps the metrics of a scrape; without a window nothing is kept. -/
def store (c : Cache) (namespaceName : String) (cacheSeconds : UInt64) (metrics : List Metric)
    (now : Instant) : Cache :=
  if cacheSeconds = 0 then c else ⟨c.captures.insert namespaceName ⟨metrics, now⟩⟩

def size (c : Cache) : Nat := c.captures.size

def isEmpty (c : Cache) : Bool := c.captures.isEmpty

def clear (_ : Cache) : Cache := empty

end Cache

end PgMetrics
