import PgMetrics.Scrape.Rows
import PgMetrics.Scrape.Settings
import PgMetrics.Server.Basic

/-!
# A pass over one server

A pass reads the parameters of the server, where they are wanted, and then its namespaces in the
order of their names. A namespace that only primaries are asked for, one with a fresh capture, and
one that is switched off for the version of the plan cost no query. A query that fails costs its
namespace only.

## Main definitions

* `Report`: what a server gave in a pass. The report of a pass is made of those of its parts.
* `Server.readNamespace`, `Server.visitNamespace`, `Server.visitNamespaces`: the namespaces.
* `Server.readSettings`: the parameters.
* `Server.scrape`: the whole pass.
-/

namespace PgMetrics

/-- What a server gave in a pass, each kind in the order in which it came up. -/
structure Report where
  metrics : List Metric
  namespaceErrors : List QueryError
  conversionErrors : List ConversionError
  settingsErrors : List SettingsError

namespace Report

def empty : Report := ⟨[], [], [], []⟩

def append (a b : Report) : Report :=
  ⟨a.metrics ++ b.metrics, a.namespaceErrors ++ b.namespaceErrors,
    a.conversionErrors ++ b.conversionErrors, a.settingsErrors ++ b.settingsErrors⟩

/-- The report of metrics and nothing else. -/
def ofMetrics (metrics : List Metric) : Report := ⟨metrics, [], [], []⟩

/-- The report of a result set. -/
def ofBatch (batch : Batch) : Report := ⟨batch.metrics, [], batch.errors, []⟩

/-- The report of a namespace whose query failed. -/
def ofQueryError (e : QueryError) : Report := ⟨[], [e], [], []⟩

def ofSettings (batch : SettingsBatch) : Report := ⟨batch.metrics, [], [], batch.skipped⟩

/-- The report of parameters that could not be read. -/
def ofSettingsError (e : SettingsError) : Report := ⟨[], [], [], [e]⟩

def hasErrors (r : Report) : Bool :=
  !(r.namespaceErrors.isEmpty && r.conversionErrors.isEmpty && r.settingsErrors.isEmpty)

end Report

/-- What is read in a pass and under which stem it is exported. -/
structure ScrapeOptions where
  stem : String
  /-- Whether the parameters of primaries are read. -/
  settings : Bool
  deriving DecidableEq, Repr

/-- Why a namespace gave no batch. -/
inductive NamespaceStop where
  | query (e : QueryError)
  | abort (a : Abort)
  deriving DecidableEq, Repr

/-- What ends a pass before its end. -/
inductive PassStop where
  | settings (e : SettingsError)
  | abort (a : Abort)
  deriving DecidableEq, Repr

namespace Server

variable {δ : Type}

/-- The batch in the answer to the query of a namespace. -/
def batchOf (s : Server) (namespaceName : String) (schema : Schema)
    (answer : Except DbError ResultSet) : Except NamespaceStop Batch :=
  match answer with
  | .error e => .error (.query (.ofDb s.fingerprint namespaceName e))
  | .ok result =>
    match schema.convert namespaceName result with
    | .ok batch => .ok batch
    | .error a => .error (.abort a)

/-- Reads a namespace. One that is switched off gives an empty batch without a query. -/
def readNamespace (b : Backend δ) (s : Server) (namespaceName : String) (schema : Schema)
    (w : World δ) : Except NamespaceStop Batch × World δ :=
  match (Resolution.of s.plan.queries namespaceName).sql? namespaceName with
  | none => (.ok .empty, w)
  | some sql =>
    let (answer, w) := w.query b s.fingerprint sql
    (s.batchOf namespaceName schema answer, w)

/-- Gives a namespace its turn: it is passed over, replayed, or read and its metrics are kept. -/
def visitNamespace (b : Backend δ) (now : Instant) (s : Server) (namespaceName : String)
    (schema : Schema) (w : World δ) : Except Abort Report × Server × World δ :=
  if schema.masterOnly && !s.master then (.ok .empty, s, w)
  else
    match s.cache.check namespaceName schema.cacheSeconds now with
    | .replay metrics => (.ok (.ofMetrics metrics), s, w)
    | .scrape =>
      match s.readNamespace b namespaceName schema w with
      | (.ok batch, w) =>
        let cache := s.cache.store namespaceName schema.cacheSeconds batch.metrics now
        (.ok (.ofBatch batch), { s with cache }, w)
      | (.error (.query e), w) => (.ok (.ofQueryError e), s, w)
      | (.error (.abort a), w) => (.error a, s, w)

/-- Gives the namespaces of a list their turns. -/
def visitNamespaces (b : Backend δ) (now : Instant) :
    List (String × Schema) → Server → World δ → Except Abort Report × Server × World δ
  | [], s, w => (.ok .empty, s, w)
  | n :: rest, s, w =>
    match s.visitNamespace b now n.1 n.2 w with
    | (.error a, s, w) => (.error a, s, w)
    | (.ok first, s, w) =>
      match visitNamespaces b now rest s w with
      | (.error a, s, w) => (.error a, s, w)
      | (.ok others, s, w) => (.ok (first.append others), s, w)

/-- Gives every namespace of the plan its turn, in the order of the names. -/
def scrapeNamespaces (b : Backend δ) (now : Instant) (s : Server) (w : World δ) :
    Except Abort Report × Server × World δ :=
  visitNamespaces b now s.plan.schemas.toList s w

/-- The parameters in the answer to their query. -/
def settingsOf (s : Server) (stem : String) (answer : Except DbError ResultSet) :
    Except SettingsError SettingsBatch :=
  match answer with
  | .error e => .error (.query (.ofDb s.fingerprint Settings.namespaceName e))
  | .ok result => Settings.collect stem s.labels result.rows

/-- Reads the parameters of the server. -/
def readSettings (b : Backend δ) (stem : String) (s : Server) (w : World δ) :
    Except SettingsError SettingsBatch × World δ :=
  let (answer, w) := w.query b s.fingerprint Settings.query
  (s.settingsOf stem answer, w)

/-- The part of a pass that concerns the parameters. Only an unknown unit ends the pass. -/
def scrapeSettings (b : Backend δ) (options : ScrapeOptions) (s : Server) (w : World δ) :
    Except SettingsError Report × World δ :=
  if options.settings && s.master then
    match s.readSettings b options.stem w with
    | (.ok batch, w) => (.ok (.ofSettings batch), w)
    | (.error e, w) => (if e.isDefect then .error e else .ok (.ofSettingsError e), w)
  else (.ok .empty, w)

/-- A pass over the server that begins at `now`. -/
def scrape (b : Backend δ) (options : ScrapeOptions) (now : Instant) (s : Server) (w : World δ) :
    Except PassStop Report × Server × World δ :=
  match s.scrapeSettings b options w with
  | (.error e, w) => (.error (.settings e), s, w)
  | (.ok settings, w) =>
    match s.scrapeNamespaces b now w with
    | (.error a, s, w) => (.error (.abort a), s, w)
    | (.ok namespaces, s, w) => (.ok (settings.append namespaces), s, w)

end Server

end PgMetrics
