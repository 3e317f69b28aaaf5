/-!
# What a command takes

A command has options, and it may take an operand. An option is named in long form or by a letter,
and it may take a value, which can also come from the environment or be a standard one.

## Main definitions

* `OptionRole`, `OptionSpec`, `OperandSpec`, `CommandSpec`.
* `Slot`: where a value that was given goes.
-/

namespace PgMetrics.CommandLine

/-- What an option is for. -/
inductive OptionRole where
  | flag
  | text (name : String)
  /-- A path, which is not empty. -/
  | path (name : String)
  /-- Ends the reading with a page about the command. -/
  | help
  /-- Ends the reading with the version of the program. -/
  | version
  deriving DecidableEq, Repr

/-- What is known of an option. -/
structure OptionSpec where
  long : String
  short : Option Char
  role : OptionRole
  about : String
  /-- The variable of the environment that stands in for the option. -/
  variableName : Option String := none
  /-- The value where none is given. -/
  standard : Option String := none
  deriving DecidableEq, Repr

/-- What is known of an operand, which is a path. -/
structure OperandSpec where
  name : String
  /-- Whether it may come more than once. -/
  many : Bool
  about : String
  deriving DecidableEq, Repr

/-- What is known of a command. -/
structure CommandSpec where
  name : String
  about : String
  /-- What a long page says instead. -/
  longAbout : Option String := none
  options : List OptionSpec
  operand : Option OperandSpec := none
  deriving DecidableEq, Repr

/-- Where a value goes. -/
structure Slot where
  key : String
  /-- How error texts show it. -/
  shown : String
  /-- Whether an empty value counts as none. -/
  wantsText : Bool
  deriving DecidableEq, Repr

namespace OptionSpec

/-- The name of the value that the option takes. -/
def valueName? (o : OptionSpec) : Option String :=
  match o.role with
  | .text name => some name
  | .path name => some name
  | _ => none

/-- The option as it is shown in error texts. -/
def shown (o : OptionSpec) : String :=
  match o.valueName? with
  | some name => "--" ++ o.long ++ " <" ++ name ++ ">"
  | none => "--" ++ o.long

/-- Where the value of the option goes. -/
def slot (o : OptionSpec) : Slot :=
  ⟨o.long, o.shown, match o.role with
    | .path _ => true
    | _ => false⟩

/-- Whether the option is about the reading itself. -/
def endsReading (o : OptionSpec) : Bool := o.role == .help || o.role == .version

end OptionSpec

namespace OperandSpec

/-- The operand as it is shown in error texts and on pages. -/
def shown (o : OperandSpec) : String := "[" ++ o.name ++ "]" ++ (if o.many then "..." else "")

def slot (o : OperandSpec) : Slot := ⟨o.name, o.shown, true⟩

end OperandSpec

end PgMetrics.CommandLine
