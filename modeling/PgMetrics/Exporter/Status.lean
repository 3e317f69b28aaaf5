import PgMetrics.Decimal.Shortest
import PgMetrics.Fault.Basic
import PgMetrics.Metric.Family
import PgMetrics.Server.Basic

/-!
# Status metrics

The exporter reports about itself: which servers could be reached, whether the last pass had an
error and how long it took, how many passes there were, and whether the user's file was accepted.
The first and the last say nothing about what was never set.

## Main definitions

* `Status`, `Status.new`: names and constant labels have to be admitted by the format.
* `Status.families`: the families in the order of their names.
-/

namespace PgMetrics

/-- Whether `c` may start the name of a metric. -/
def startsMetricName (c : Char) : Bool := c.isAlpha || c == '_' || c == ':'

/-- Whether a text is the name of a metric. -/
def isMetricName (s : List Char) : Bool :=
  match s with
  | [] => false
  | c :: rest => startsMetricName c && rest.all fun d => startsMetricName d || d.isDigit

/-- Whether a text is the name of a label, which may not have colons. -/
def isLabelName (s : List Char) : Bool := isMetricName s && !s.contains ':'

/-- A revision of the user's file. -/
structure Revision where
  filename : String
  digest : String
  deriving DecidableEq, Repr

/-- Revisions are ordered by file and then by digest. -/
instance : Ord Revision :=
  ⟨compareLex (compareOn Revision.filename) (compareOn Revision.digest)⟩

instance : Std.TransOrd Revision :=
  inferInstanceAs
    (Std.TransCmp (compareLex (compareOn Revision.filename) (compareOn Revision.digest)))

/-- What the exporter reports about itself. -/
structure Status where
  stem : String
  constLabels : Dict String String
  /-- Whether the last pass reached the server, by fingerprint. -/
  up : Dict String Bool
  lastScrapeError : Bool
  /-- In seconds. -/
  lastScrapeDuration : Float
  scrapesTotal : Nat
  /-- Whether the user's file was refused, by file and digest. -/
  loadError : Dict Revision Bool

namespace Status

/-- One for yes and zero for no. -/
def ofFlag (b : Bool) : Float := if b then 1.0 else 0.0

/-- The first part of a descriptor that the format does not admit. -/
def checkNames (stem : String) (constLabels : Dict String String) : Except ExpositionError Unit :=
  let name := stemmed stem "up"
  if !isMetricName name.toList then .error (.invalidName name)
  else
    match constLabels.keys.find? fun l => !isLabelName l.toList with
    | some l => .error (.invalidName l)
    | none => .ok ()

/-- The status before the first pass. -/
def new (stem : String) (constLabels : Dict String String) : Except ExpositionError Status := do
  checkNames stem constLabels
  return ⟨stem, constLabels, .empty, false, 0.0, 0, .empty⟩

/-- Notes whether a server was reached. -/
def setUp (s : Status) (fingerprint : String) (reached : Bool) : Status :=
  { s with up := s.up.insert fingerprint reached }

/-- Notes whether a revision of the user's file was refused. -/
def setLoadError (s : Status) (r : Revision) (refused : Bool) : Status :=
  { s with loadError := s.loadError.insert r refused }

def beginPass (s : Status) : Status := { s with scrapesTotal := s.scrapesTotal + 1 }

def endPass (s : Status) (hadErrors : Bool) (duration : Float) : Status :=
  { s with lastScrapeError := hadErrors, lastScrapeDuration := duration }

/-- Asks whether a server was reached. One that was never heard of counts as not reached from then
on. -/
def readUp (s : Status) (fingerprint : String) : Bool × Status :=
  match s.up.get? fingerprint with
  | some reached => (reached, s)
  | none => (false, s.setUp fingerprint false)

/-- Asks whether a revision was refused. One that was never heard of counts as accepted from then
on. -/
def readLoadError (s : Status) (r : Revision) : Bool × Status :=
  match s.loadError.get? r with
  | some refused => (refused, s)
  | none => (false, s.setLoadError r false)

/-- A metric of the exporter itself. -/
def metric (s : Status) (name help : String) (kind : MetricKind) (labels : List (String × String))
    (value : Float) : Metric :=
  .scalar ⟨stemmed s.stem name, help, labels.map (·.1), s.constLabels⟩ kind value
    (labels.map (·.2))

/-- The name of the metric that says how long the last pass took. -/
def durationName : String := "exporter_last_scrape_duration_seconds"

def metrics (s : Status) : List Metric :=
  s.up.toList.map (fun e => s.metric "up"
    "Whether the last scrape of the server was able to connect" .gauge [(serverLabel, e.1)]
    (ofFlag e.2)) ++
  [s.metric "exporter_last_scrape_error"
      ("Whether the last scrape of metrics from PostgreSQL resulted in an error " ++
        "(1 for error, 0 for success)") .gauge [] (ofFlag s.lastScrapeError),
    s.metric durationName "Duration of the last scrape of metrics from PostgreSQL" .gauge []
      s.lastScrapeDuration,
    s.metric "exporter_scrapes_total" "Total number of times PostgreSQL was scraped for metrics"
      .counter [] (Float.ofNat s.scrapesTotal)] ++
  s.loadError.toList.map fun e => s.metric "exporter_user_queries_load_error"
    ("Whether the user queries file was loaded and parsed successfully " ++
      "(1 for error, 0 for success)") .gauge
    [("filename", e.1.filename), ("hashsum", e.1.digest)] (ofFlag e.2)

/-- The families in the order of their names. -/
def families (s : Status) : List Family := Family.group s.metrics

/-- The status in brief, for the log. -/
def shown (s : Status) : String :=
  "StatusMetrics \x7b last_scrape_error: " ++ (if s.lastScrapeError then "1.0" else "0.0") ++
    ", scrapes_total: " ++ Text.decimalText s.scrapesTotal ++ ".0, .. \x7d"

end Status

end PgMetrics
