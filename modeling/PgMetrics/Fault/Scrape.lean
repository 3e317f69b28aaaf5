import PgMetrics.Text.Number
import PgMetrics.Text.Quoted

/-!
# Faults of a scrape

Faults are grouped by what they cost: a connection fault costs the server for a pass, a query fault
costs one namespace, a conversion fault costs one value. A settings fault costs one setting, except
for a unit that the conversion table does not know, which stops the pass.

## Main definitions

* `DbError`, `ConnectionError`, `QueryError`, `ConversionError`, `SettingsError`, each with its
  wording in `message`.
* `Abort`: what ends a computation without an answer.
-/

namespace PgMetrics

/-- What a database handle reports. -/
inductive DbError where
  | connect (message : String)
  | query (message : String)
  | columns (message : String)
  | decode (column message : String)
  | closed
  deriving DecidableEq, Repr, Inhabited

def DbError.message : DbError → String
  | .connect m => "connect failed: " ++ m
  | .query m => "query failed: " ++ m
  | .columns m => "column introspection failed: " ++ m
  | .decode column m => "failed to decode column '" ++ column ++ "': " ++ m
  | .closed => "connection is closed"

/-- Why no live server could be had. -/
inductive ConnectionError where
  | opening (server : String) (source : DbError)
  | ping (server : String) (source : DbError)
  | retriesExhausted (server : String) (attempts : Nat) (last : ConnectionError)
  deriving DecidableEq, Repr

namespace ConnectionError

/-- The server that could not be had. -/
def server : ConnectionError → String
  | .opening s _ => s
  | .ping s _ => s
  | .retriesExhausted s _ _ => s

def message : ConnectionError → String
  | .opening s source =>
    "Error opening connection to database (" ++ s ++ "): " ++ source.message
  | .ping s source => "Ping to " ++ s ++ " failed: " ++ source.message
  | .retriesExhausted s attempts last =>
    "Giving up on " ++ s ++ " after " ++ Text.decimalText attempts ++ " attempts: " ++ last.message

end ConnectionError

/-- Why a namespace gave nothing. -/
inductive QueryError where
  | execution (server namespaceName : String) (source : DbError)
  | introspection (server namespaceName : String) (source : DbError)
  | version (server message : String)
  deriving DecidableEq, Repr

namespace QueryError

/-- Classifies what a database reports while it runs the query of a namespace. -/
def ofDb (server namespaceName : String) (source : DbError) : QueryError :=
  match source with
  | .columns _ => .introspection server namespaceName source
  | _ => .execution server namespaceName source

def message : QueryError → String
  | .execution server ns source =>
    "Error running query on database " ++ server ++ ": " ++ ns ++ ": " ++ source.message
  | .introspection server ns source =>
    "Error retrieving column list for " ++ ns ++ " on " ++ server ++ ": " ++ source.message
  | .version server m => "Error determining server version of " ++ server ++ ": " ++ m

end QueryError

/-- Why one value became no metric. -/
inductive ConversionError where
  | unparseable (namespaceName column value : String)
  | unknownColumn (namespaceName column value : String)
  | missingColumn (namespaceName column : String)
  | bucketMismatch (namespaceName column : String) (bounds counts : Nat)
  deriving DecidableEq, Repr

def ConversionError.message : ConversionError → String
  | .unparseable ns column value =>
    "Unexpected error parsing column: " ++ ns ++ " " ++ column ++ " " ++ value
  | .unknownColumn ns column value =>
    "Unparseable column type - discarding: " ++ ns ++ " " ++ column ++ " " ++ value
  | .missingColumn ns column => "Missing column: " ++ ns ++ " " ++ column
  | .bucketMismatch ns column bounds counts =>
    "Histogram " ++ ns ++ " " ++ column ++ " has " ++ Text.decimalText bounds ++
      " bucket bounds but " ++ Text.decimalText counts ++ " bucket counts"

/-- Why a server parameter became no metric. -/
inductive SettingsError where
  | query (source : QueryError)
  | unknownUnit (name unit : String)
  | unsupportedType (name type : String)
  | invalidValue (name value message : String)
  deriving DecidableEq, Repr

namespace SettingsError

/-- Whether the fault shows a gap in the table of units and so stops the pass. -/
def isDefect : SettingsError → Bool
  | .unknownUnit .. => true
  | _ => false

def message : SettingsError → String
  | .query source => "Error retrieving settings: " ++ source.message
  | .unknownUnit name unit =>
    "Unknown unit for runtime variable " ++ Text.quoted name ++ ": " ++ Text.quoted unit
  | .unsupportedType name type =>
    "Unsupported vartype " ++ Text.quoted type ++ " for setting " ++ Text.quoted name
  | .invalidValue name value m =>
    "Error converting setting " ++ Text.quoted name ++ " value " ++ Text.quoted value ++
      " to float: " ++ m

end SettingsError

/-- What ends a computation without an answer. -/
inductive Abort where
  /-- A written span whose last carry does not fit the seconds. -/
  | spanOverflow
  /-- The text format was asked for a family without a type. -/
  | untypedFamily
  deriving DecidableEq, Repr

def Abort.message : Abort → String
  | .spanOverflow => "overflow in Duration::new"
  | .untypedFamily => "not implemented"

end PgMetrics
