import PgMetrics.Config.Basic
import PgMetrics.Exporter.Status
import PgMetrics.Metric.Exposition
import PgMetrics.Scrape.Pass
import PgMetrics.UserQueries

/-!
# The exporter

In a pass every endpoint has its turn. The turns are taken up in the order of the endpoints, and
some of them may be under way together; what they give is put together in the order in which they
end. A turn works on the server of its endpoint only, so a pass is told by that order: it does the
same as one in which each turn ends before the next begins. If one turn at a time is admitted, that
is the order of the endpoints.

A server that cannot be reached, or whose version is not told, costs a pass nothing but its own
metrics. A parameter with an unknown unit is reported as the outcome of the pass, after all
endpoints had their turn.

## Main definitions

* `Exporter`, `Exporter.new`: a user's file that is refused leaves the standard namespaces.
* `Completes`: the orders in which the turns may end.
* `Exporter.scrapeEndpoint`, `Exporter.collectIn`, `Exporter.collect`: a pass.
* `Exporter.gather`, `Exporter.render`: a pass with the status, as families and as text.
-/

namespace PgMetrics

/-- The endpoints, what is exported of them, and the state between passes. -/
structure Exporter where
  endpoints : List Endpoint
  catalog : Catalog
  options : ScrapeOptions
  /-- Whether the standard namespaces are exported, and with them the version of the server. -/
  defaultMetrics : Bool
  /-- How many turns may be under way at a time. -/
  concurrency : Nat
  registry : Registry
  status : Status

/-- What one endpoint gave in a pass. -/
structure EndpointScrape where
  metrics : List Metric
  hadErrors : Bool

/-- What ends a pass without metrics. -/
inductive CollectStop where
  | fault (e : SettingsError)
  | abort (a : Abort)
  deriving DecidableEq, Repr

/-- How the clock stands when the namespaces of a server are scraped, by fingerprint, and how long
the pass takes in seconds. -/
structure PassClock where
  now : String → Instant
  duration : Float

/-- What is taken up in the order of the first list may end in the order of the second one, if at
most `limit` are under way at a time. Those under way are the first that have not ended yet. -/
def Completes {α : Type} [DecidableEq α] (limit : Nat) : List α → List α → Prop
  | l, [] => l = []
  | l, a :: order => a ∈ l.take limit ∧ Completes limit (l.erase a) order

instance Completes.decide {α : Type} [DecidableEq α] (limit : Nat) :
    (l order : List α) → Decidable (Completes limit l order)
  | l, [] => inferInstanceAs (Decidable (l = []))
  | l, a :: order =>
    have := Completes.decide limit (l.erase a) order
    inferInstanceAs (Decidable (a ∈ l.take limit ∧ Completes limit (l.erase a) order))

namespace Exporter

/-- The digest by which a refused file is known; empty if it cannot be read. -/
def refusedDigest (file : FileState) : String :=
  match file.octets? with
  | some octets => Digest.text octets
  | none => ""

/-- Loads the user's file and notes whether it was refused. -/
def loadUserQueries (path : String) (file : FileState) (s : Status) :
    Option Declarations × Status :=
  match UserQueries.load path file with
  | .ok q => (some q.declarations, s.setLoadError ⟨path, q.digest⟩ false)
  | .error _ => (none, s.setLoadError ⟨path, refusedDigest file⟩ true)

def new (c : Config) (files : String → FileState) : Except Fault Exporter := do
  let status ← (Status.new c.exporter.metricPrefix c.exporter.constantLabels).mapError .registry
  let (user, status) :=
    match c.exporter.userQueriesPath with
    | some path => loadUserQueries path (files path) status
    | none => (none, status)
  let defaultMetrics := !c.exporter.disableDefaultMetrics
  let catalog ← (Catalog.build defaultMetrics user c.exporter.metricPrefix).mapError .config
  return {
    endpoints := c.endpoints
    catalog
    options := ⟨c.exporter.metricPrefix, !c.exporter.disableSettingsMetrics⟩
    defaultMetrics
    concurrency := max 1 c.exporter.maxConcurrentScrapes.toNat
    registry := .empty c.pool.retryPolicy c.exporter.constantLabels
    status }

/-- The metric that tells the version of a server. -/
def versionMetric (x : Exporter) (s : Server) (info : VersionInfo) : Metric :=
  .scalar ⟨stemmed x.catalog.stem "static", "Version string as reported by postgres",
    ["short_version", "version"], s.labels⟩ .gauge 1.0
    [String.ofList info.version.render, info.banner]

variable {δ : Type}

/-- Brings the plan of a server up to date. Without a version the old plan stays. -/
def refreshServer (b : Backend δ) (x : Exporter) (s : Server) (w : World δ) :
    EndpointScrape × Server × World δ :=
  match s.refresh b x.catalog w with
  | (.ok info, s, w) =>
    (⟨if s.master && x.defaultMetrics then [x.versionMetric s info] else [], false⟩, s, w)
  | (.error _, s, w) => (⟨[], true⟩, s, w)

def scrapeEndpoint (b : Backend δ) (clock : PassClock) (x : Exporter) (e : Endpoint)
    (w : World δ) : Except PassStop EndpointScrape × Exporter × World δ :=
  match x.registry.acquire b e w with
  | (.error _, registry, w) =>
    (.ok ⟨[], true⟩, { x with registry, status := x.status.setUp e.fingerprint false }, w)
  | (.ok s, registry, w) =>
    let status := x.status.setUp e.fingerprint true
    let (first, s, w) := x.refreshServer b s w
    let (outcome, s, w) := s.scrape b x.options (clock.now e.fingerprint) w
    let x := { x with registry := registry.put s, status }
    match outcome with
    | .ok report =>
      (.ok ⟨first.metrics ++ report.metrics, first.hadErrors || report.hasErrors⟩, x, w)
    | .error stop => (.error stop, x, w)

/-- What the endpoints of a pass gave so far. -/
structure Collected where
  metrics : List Metric
  hadErrors : Bool
  /-- The first unknown unit. -/
  fault : Option SettingsError

def Collected.add (c : Collected) (outcome : Except SettingsError EndpointScrape) : Collected :=
  match outcome with
  | .ok scrape => { c with
      metrics := c.metrics ++ scrape.metrics, hadErrors := c.hadErrors || scrape.hadErrors }
  | .error e => { c with hadErrors := true, fault := c.fault.or (some e) }

/-- The turns of the endpoints of a list, in the order in which they end. An abort ends them all;
how far others under way had come by then is not told. -/
def scrapeEndpoints (b : Backend δ) (clock : PassClock) :
    List Endpoint → Collected → Exporter → World δ → Except Abort Collected × Exporter × World δ
  | [], c, x, w => (.ok c, x, w)
  | e :: rest, c, x, w =>
    match x.scrapeEndpoint b clock e w with
    | (.error (.abort a), x, w) => (.error a, x, w)
    | (.error (.settings error), x, w) => scrapeEndpoints b clock rest (c.add (.error error)) x w
    | (.ok scrape, x, w) => scrapeEndpoints b clock rest (c.add (.ok scrape)) x w

/-- A pass in which the turns of the endpoints end in the given order. The fault that is reported is
the first in that order. -/
def collectIn (b : Backend δ) (clock : PassClock) (order : List Endpoint) (x : Exporter)
    (w : World δ) : Except CollectStop (List Metric) × Exporter × World δ :=
  let x := { x with status := x.status.beginPass }
  match scrapeEndpoints b clock order ⟨[], false, none⟩ x w with
  | (.error a, x, w) => (.error (.abort a), x, w)
  | (.ok c, x, w) =>
    let x := { x with status := x.status.endPass c.hadErrors clock.duration }
    match c.fault with
    | some e => (.error (.fault e), x, w)
    | none => (.ok c.metrics, x, w)

/-- A pass with one turn at a time. -/
def collect (b : Backend δ) (clock : PassClock) (x : Exporter) (w : World δ) :
    Except CollectStop (List Metric) × Exporter × World δ :=
  x.collectIn b clock x.endpoints w

/-- Families with those of the status, in the order of their names. Families of one name stay
apart, those of the pass first. -/
def withStatus (families : List Family) (s : Status) : List Family :=
  (families ++ s.families).mergeSort fun a b => decide (a.name ≤ b.name)

/-- A pass in which the turns end in the given order, with the status after it. -/
def gatherIn (b : Backend δ) (clock : PassClock) (order : List Endpoint) (x : Exporter)
    (w : World δ) : Except CollectStop (List Family) × Exporter × World δ :=
  match x.collectIn b clock order w with
  | (.ok metrics, x, w) => (.ok (withStatus (Family.group metrics) x.status), x, w)
  | (.error stop, x, w) => (.error stop, x, w)

/-- A pass with one turn at a time, with the status after it. -/
def gather (b : Backend δ) (clock : PassClock) (x : Exporter) (w : World δ) :
    Except CollectStop (List Family) × Exporter × World δ :=
  x.gatherIn b clock x.endpoints w

/-- What ends a pass without a text. -/
inductive RenderFault where
  | collect (stop : CollectStop)
  | render (stop : RenderStop)

/-- The text of a pass in which the turns end in the given order. -/
def renderIn (b : Backend δ) (clock : PassClock) (order : List Endpoint) (x : Exporter)
    (w : World δ) : Except RenderFault String × Exporter × World δ :=
  match x.gatherIn b clock order w with
  | (.error stop, x, w) => (.error (.collect stop), x, w)
  | (.ok families, x, w) => ((Exposition.render families).mapError .render, x, w)

/-- The text of a pass with one turn at a time. -/
def render (b : Backend δ) (clock : PassClock) (x : Exporter) (w : World δ) :
    Except RenderFault String × Exporter × World δ :=
  x.renderIn b clock x.endpoints w

def shutdown (b : Backend δ) (x : Exporter) (w : World δ) : Exporter × World δ :=
  let (registry, w) := x.registry.closeAll b w
  ({ x with registry }, w)

end Exporter

end PgMetrics
