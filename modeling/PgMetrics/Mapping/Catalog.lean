import PgMetrics.Mapping.Query
import PgMetrics.Mapping.Schema
import PgMetrics.Mapping.StandardLayout
import PgMetrics.Mapping.StandardQueries

/-!
# Catalogs and plans

A catalog is everything that is declared: the standard layout and queries, if they are wanted, with
those of the user on top. For one server version it is compiled into a plan, schemas and queries
together.

## Main definitions

* `Declarations`, `Catalog.build`, `Catalog.compile`.
* `Plan`: what a server is scraped with.
-/

namespace PgMetrics

/-- Declared namespaces and queries. -/
structure Declarations where
  layout : Layout
  queries : QueryTable
  deriving Inhabited

namespace Declarations

def none : Declarations := ⟨.empty, .empty⟩

def standard : Declarations := ⟨Standard.layout, Standard.queries⟩

/-- Declarations of `top` replace those of `base` namespace by namespace. -/
def merge (base top : Declarations) : Declarations :=
  ⟨base.layout.merge top.layout, base.queries.merge top.queries⟩

end Declarations

/-- Checked declarations with the stem of the exported names. -/
structure Catalog where
  declarations : Declarations
  stem : String
  deriving Inhabited

/-- What a server is scraped with. -/
structure Plan where
  /-- The version that the plan is for; none before the first. -/
  version : Option Version
  schemas : Dict String Schema
  queries : ResolvedQueries
  deriving Inhabited

/-- The plan before any version is known. -/
def Plan.initial : Plan := ⟨none, .empty, .empty⟩

namespace Catalog

/-- Puts the user's declarations on top of the standard ones, if those are wanted, and refuses
queries that overlap. -/
def build (includeStandard : Bool) (user : Option Declarations) (stem : String) :
    Except ConfigError Catalog := do
  let base := if includeStandard then Declarations.standard else Declarations.none
  let all :=
    match user with
    | some u => base.merge u
    | none => base
  all.queries.validate
  return ⟨all, stem⟩

def compile (c : Catalog) (v : Version) (constLabels : Dict String String) : Plan :=
  { version := some v
    schemas := c.declarations.layout.compile v c.stem constLabels
    queries := c.declarations.queries.resolve v }

end Catalog

end PgMetrics
