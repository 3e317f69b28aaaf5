import PgMetrics.CommandLine.Options
import PgMetrics.Text.Blank

/-!
# Reading arguments

An argument that starts with a dash names options: one in long form, or several letters together.
An option that takes a value takes the rest of its argument or, if nothing is left, the argument
after it. All other arguments are operands, and so is everything after two dashes alone.

A value in an argument of its own is looked at only when the next option or operand is read, or at
the end. So an argument that is not known is reported before a value that is not good.

## Main definitions

* `UsageError`: what is wrong with arguments, with its wording.
* `Stop`: why reading ends early.
* `Given.read`: the options and operands in arguments.
-/

namespace PgMetrics.CommandLine

/-- What is wrong with arguments. -/
inductive UsageError where
  | unknownCommand (name : String)
  | unexpected (argument : String)
  | missingValue (shown : String)
  | repeated (shown : String)
  | needlessValue (value shown : String)
  | invalidValue (value shown : String)
  deriving DecidableEq, Repr

def UsageError.message : UsageError → String
  | .unknownCommand name => "unrecognized subcommand '" ++ name ++ "'"
  | .unexpected argument => "unexpected argument '" ++ argument ++ "' found"
  | .missingValue shown => "a value is required for '" ++ shown ++ "' but none was supplied"
  | .repeated shown => "the argument '" ++ shown ++ "' cannot be used multiple times"
  | .needlessValue value shown =>
    "unexpected value '" ++ value ++ "' for '" ++ shown ++ "' found; no more were expected"
  | .invalidValue value shown => "invalid value '" ++ value ++ "' for '" ++ shown ++ "'"

/-- Why reading ends before all arguments are read. -/
inductive Stop where
  | misuse (e : UsageError)
  /-- A page about the command is wanted, the long one or the short one. -/
  | help (long : Bool)
  | version
  deriving DecidableEq, Repr

/-- A value that is not entered yet. It is missing while an option waits for it. -/
structure Pending where
  slot : Slot
  value : Option String
  deriving DecidableEq, Repr

/-- What was read. -/
structure Given where
  /-- The values by the keys of their slots. -/
  values : List (String × String)
  pending : Option Pending
  deriving DecidableEq, Repr

namespace Given

def none : Given := ⟨[], .none⟩

def has (g : Given) (key : String) : Bool := (g.values.lookup key).isSome

def value? (g : Given) (key : String) : Option String := g.values.lookup key

/-- Whether a slot was filled or waits for its value. -/
def uses (g : Given) (key : String) : Bool :=
  g.has key || g.pending.any fun p => p.slot.key == key

/-- Whether an option waits for its value. -/
def awaitsValue (g : Given) : Bool := g.pending.any fun p => p.value.isNone

/-! ## Values -/

/-- Enters a value. A slot is filled once. -/
def enter (g : Given) (slot : Slot) (value : String) : Except UsageError Given :=
  if g.has slot.key then .error (.repeated slot.shown)
  else if slot.wantsText && value.isEmpty then .error (.missingValue slot.shown)
  else .ok { g with values := g.values ++ [(slot.key, value)] }

/-- Enters the value that is not entered yet. -/
def settle (g : Given) : Except UsageError Given :=
  match g.pending with
  | .none => .ok g
  | some ⟨slot, .none⟩ => .error (.missingValue slot.shown)
  | some ⟨slot, some value⟩ => enter { g with pending := .none } slot value

/-- Leaves a value to be entered later. -/
def postpone (g : Given) (slot : Slot) (value : Option String) : Except UsageError Given := do
  return { ← g.settle with pending := some ⟨slot, value⟩ }

/-! ## Options -/

/-- An error as the reason to stop. -/
def orStop {α : Type} (x : Except UsageError α) : Except Stop α := x.mapError .misuse

/-- Does what an option without a value is for. -/
def act (g : Given) (o : OptionSpec) (long : Bool) : Except Stop Given := do
  let g ← orStop g.settle
  match o.role with
  | .help => .error (.help long)
  | .version => .error .version
  | _ => orStop (g.enter o.slot "true")

/-- The value in what follows a name; an equals sign before it does not count. -/
def attached (s : List Char) : String := String.ofList ((Text.dropStart? ['='] s).getD s)

/-- Reads an option with what follows its name, which is its value if there is something. -/
def takeValue (g : Given) (o : OptionSpec) (s : List Char) : Except UsageError Given := do
  if s.isEmpty then g.postpone o.slot .none
  else (← g.settle).enter o.slot (attached s)

/-- Reads the letters of an argument. -/
def readLetters (options : List OptionSpec) (g : Given) : List Char → Except Stop Given
  | [] => .ok g
  | c :: rest =>
    match options.find? (·.short == some c) with
    | .none => .error (.misuse (.unexpected (String.ofList ['-', c])))
    | some o =>
      if o.valueName?.isSome then orStop (g.takeValue o rest)
      else do readLetters options (← g.act o false) rest

/-- Reads an option in long form, given what follows the two dashes. -/
def readLong (options : List OptionSpec) (g : Given) (s : List Char) : Except Stop Given :=
  let name := String.ofList (s.takeWhile (· != '='))
  let rest := s.dropWhile (· != '=')
  match options.find? (·.long == name) with
  | .none => .error (.misuse (.unexpected ("--" ++ name)))
  | some o =>
    if o.valueName?.isSome then orStop (g.takeValue o rest)
    else if rest.isEmpty then g.act o true
    else .error (.misuse (.needlessValue (attached rest) o.shown))

/-! ## Operands -/

/-- Reads an operand. Where commands may follow and none has this name, it is not known; after two
dashes a command's name is out of place. -/
def takeOperand (c : CommandSpec) (commands : List String) (dashed : Bool) (g : Given)
    (argument : String) : Except UsageError Given :=
  match c.operand with
  | some o =>
    if g.uses o.slot.key && !o.many then .error (.unexpected argument)
    else g.postpone o.slot (some argument)
  | .none =>
    if commands.isEmpty || (dashed && argument ∈ commands) then .error (.unexpected argument)
    else .error (.unknownCommand argument)

/-- Reads arguments that are all operands. -/
def readOperands (c : CommandSpec) (commands : List String) (g : Given) :
    List String → Except UsageError Given
  | [] => .ok g
  | argument :: rest => do readOperands c commands (← takeOperand c commands true g argument) rest

/-- Reads arguments up to the name of a command, and gives that name and the arguments after it. -/
def readFrom (c : CommandSpec) (commands : List String) (g : Given) :
    List String → Except Stop (Given × Option (String × List String))
  | [] => .ok (g, .none)
  | argument :: rest =>
    if argument ∈ commands ∧ !g.awaitsValue then .ok (g, some (argument, rest))
    else if argument = "--" then do
      return (← orStop (readOperands c commands g rest), .none)
    else
      match argument.toList with
      | '-' :: '-' :: s => do readFrom c commands (← readLong c.options g s) rest
      | '-' :: l :: s => do readFrom c commands (← readLetters c.options g (l :: s)) rest
      | _ =>
        match g.pending with
        | some ⟨slot, .none⟩ =>
          readFrom c commands { g with pending := some ⟨slot, some argument⟩ } rest
        | _ => do
          readFrom c commands (← orStop (takeOperand c commands false g argument)) rest

/-- The options and operands in the arguments of a command that has no commands within it. -/
def read (c : CommandSpec) (arguments : List String) : Except Stop Given := do
  orStop (← readFrom c [] none arguments).1.settle

end Given

end PgMetrics.CommandLine
