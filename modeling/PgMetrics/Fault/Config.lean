import PgMetrics.Text.Quoted

/-!
# Faults of configuration and of server banners

## Main definitions

* `ConfigError`: what can be wrong with configuration files and with the tables of queries.
* `BannerError`: a banner without a version.
-/

namespace PgMetrics

/-- What can be wrong with a configuration, a table of columns or a table of queries. -/
inductive ConfigError where
  | fileNotFound (path : String)
  /-- The text does not have the shape of its format or of its fields. -/
  | malformed (detail : String)
  | invalidValue (field message : String)
  | missingField (field : String)
  | unknownUsage (usage : String)
  | invalidRange (range message : String)
  /-- Two queries of a namespace can hold for one version; the ranges are given as written. -/
  | overlappingQueries (namespaceName first second : String)
  deriving DecidableEq, Repr, Inhabited

def ConfigError.message : ConfigError → String
  | .fileNotFound path => "Configuration file not found: " ++ path
  | .malformed detail => "Failed to parse configuration: " ++ detail
  | .invalidValue field message =>
    "Invalid configuration value for '" ++ field ++ "': " ++ message
  | .missingField field => "Missing required configuration field: " ++ field
  | .unknownUsage usage => "Unknown column usage '" ++ usage ++ "'"
  | .invalidRange range message => "Invalid version range '" ++ range ++ "': " ++ message
  | .overlappingQueries ns first second =>
    "Override queries for '" ++ ns ++ "' overlap: '" ++ first ++ "' and '" ++ second ++ "'"

/-- A text in which no version was found. -/
structure BannerError where
  banner : String
  deriving DecidableEq, Repr

def BannerError.message (e : BannerError) : String :=
  "Could not find a postgres version in string: " ++ Text.quoted e.banner

end PgMetrics
