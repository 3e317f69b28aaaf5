import PgMetrics.Dict
import PgMetrics.Fault.Config
import PgMetrics.Version.Range

/-!
# Queries by version

A namespace may carry queries, each for a range of versions. Ranges of one namespace must not
overlap, so at most one query holds for a version. A namespace that carries queries none of which
holds is switched off for that version; one that carries none is read as a whole.

## Main definitions

* `QueryTable.validate`: refuses overlapping ranges and names the first pair.
* `QueryTable.resolve`: the queries for one version.
* `Resolution`: what a look-up in the resolved queries gives.
-/

namespace PgMetrics

/-- A query for a range of versions. -/
structure VersionedQuery where
  versions : VersionRange
  sql : String
  deriving Inhabited

/-- The candidates of every namespace that carries queries. -/
abbrev QueryTable := Dict String (List VersionedQuery)

/-- The query of every namespace that carries queries, empty where none holds. -/
abbrev ResolvedQueries := Dict String String

namespace QueryTable

/-- The first candidate whose range overlaps that of `c`. -/
def clash? (c : VersionedQuery) (others : List VersionedQuery) : Option VersionedQuery :=
  others.find? fun d => VersionRange.overlaps c.versions d.versions

/-- The first pair of candidates whose ranges overlap, ordered by first and second place. -/
def firstClash? : List VersionedQuery → Option (VersionedQuery × VersionedQuery)
  | [] => none
  | c :: rest =>
    match clash? c rest with
    | some d => some (c, d)
    | none => firstClash? rest

/-- Refuses a namespace with overlapping candidates. -/
def validateNamespace (entry : String × List VersionedQuery) : Except ConfigError Unit :=
  match firstClash? entry.2 with
  | some (c, d) =>
    .error (.overlappingQueries entry.1 (VersionRange.text c.versions)
      (VersionRange.text d.versions))
  | none => .ok ()

/-- Refuses a table with overlapping candidates and names the first namespace that has some. -/
def validate (t : QueryTable) : Except ConfigError Unit :=
  t.toList.forM validateNamespace

/-- The text of the first candidate that holds for `v`, empty if none does. -/
def pick (v : Version) (candidates : List VersionedQuery) : String :=
  match candidates.find? fun c => VersionRange.admits c.versions v with
  | some c => c.sql
  | none => ""

def resolve (v : Version) (t : QueryTable) : ResolvedQueries :=
  t.mapValues fun _ candidates => pick v candidates

end QueryTable

/-- What a namespace is read with. -/
inductive Resolution where
  /-- A query of its own. -/
  | custom (sql : String)
  /-- Nothing: it carries queries but none for this version. -/
  | disabled
  /-- The query that reads it as a whole. -/
  | notConfigured
  deriving DecidableEq, Repr

/-- The query that reads a namespace as a whole. -/
def fallbackQuery (namespaceName : String) : String := "SELECT * FROM " ++ namespaceName ++ ";"

namespace Resolution

def of (queries : ResolvedQueries) (namespaceName : String) : Resolution :=
  match queries.get? namespaceName with
  | none => .notConfigured
  | some sql => if sql.isEmpty then .disabled else .custom sql

/-- The text to run, if any. -/
def sql? (namespaceName : String) : Resolution → Option String
  | .custom sql => some sql
  | .disabled => none
  | .notConfigured => some (fallbackQuery namespaceName)

end Resolution

end PgMetrics
