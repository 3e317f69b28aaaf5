import PgMetrics.CommandLine.Options
import PgMetrics.Text.Folded
import PgMetrics.Text.Number

/-!
# Pages about commands

A page says what a command is for, how it is called, and what it takes. The short page has an entry
in each line, with what it means beside it; the long one puts that below. All is folded to the width
of the page.

## Main definitions

* `PageStyle`: whether a page is long, how wide it is, and the variables that it shows.
* `Entry`: an entry of a page.
* `CommandSpec.page`: the page about a command.
-/

namespace PgMetrics.CommandLine

/-- How a page is written. -/
structure PageStyle where
  long : Bool
  width : Nat
  assigned : List (String × String)

/-- The width of a page: the number of columns that the environment tells, or a hundred. -/
def pageWidth (assigned : List (String × String)) : Nat :=
  ((assigned.lookup "COLUMNS").bind fun s => Text.unsigned64? s.toList).elim 100 UInt64.toNat

/-- An entry of a page: what is written in an argument, what it means, and what else is known. -/
structure Entry where
  label : String
  about : String
  notes : List String

/-! ## Entries -/

/-- The signs of an option. A missing letter leaves its place empty. -/
def OptionSpec.label (o : OptionSpec) : String :=
  match o.short with
  | some c => "-" ++ String.singleton c ++ ", " ++ o.shown
  | none => "    " ++ o.shown

/-- What is noted of an option: its variable with the value that it has now, and its standard
value. -/
def OptionSpec.notes (o : OptionSpec) (assigned : List (String × String)) : List String :=
  (o.variableName.toList.map fun name =>
    "[env: " ++ name ++ "=" ++ (assigned.lookup name).getD "" ++ "]") ++
  o.standard.toList.map fun value => "[default: " ++ value ++ "]"

/-- The entry of an option. Where there are two pages, the option for help says so. -/
def OptionSpec.entry (o : OptionSpec) (style : PageStyle) (twofold : Bool) : Entry :=
  let about :=
    if o.role == .help && twofold then
      o.about ++ (if style.long then " (see a summary with '-h')" else " (see more with '--help')")
    else o.about
  ⟨o.label, about, o.notes style.assigned⟩

def OperandSpec.entry (o : OperandSpec) : Entry := ⟨o.shown, o.about, []⟩

/-- The entry of a command among the commands of another one. -/
def CommandSpec.entry (c : CommandSpec) : Entry := ⟨c.name, c.about, []⟩

namespace Entry

def text (e : Entry) : String := String.intercalate " " (e.about :: e.notes)

/-- The text below the label, where the notes stand apart. -/
def apart (e : Entry) : String :=
  e.about ++ (if e.notes.isEmpty then "" else "\n\n" ++ String.intercalate "\n" e.notes)

/-- The column of texts below their labels. -/
def below : Nat := 10

/-- A label with a text below it. -/
def stacked (width : Nat) (label text : String) : List Char :=
  [' ', ' '] ++ label.toList ++ '\n' :: List.replicate below ' ' ++
    Text.indented below (Text.folded (width - below) text.toList)

/-- A label with a text beside it, where labels have `longest` columns. -/
def beside (width longest : Nat) (label text : String) : List Char :=
  [' ', ' '] ++ label.toList ++ List.replicate (longest + 2 - label.length) ' ' ++
    Text.indented (longest + 4) (Text.folded (width - (longest + 4)) text.toList)

/-- Whether the text of an entry would be squeezed beside labels that take more than two fifths of
the page. -/
def isSqueezed (width taken : Nat) (e : Entry) : Bool :=
  taken ≤ width && 2 * width < 5 * taken &&
    width - taken < e.about.length + (String.intercalate " " e.notes).length

/-- Entries under a heading. The labels take `longest + room` columns of the page. -/
def shortList (style : PageStyle) (heading : String) (room : Nat) (entries : List Entry) :
    List (List Char) :=
  if entries.isEmpty then []
  else
    let longest := (entries.map (·.label.length)).foldl max 2
    let squeezed := entries.any (isSqueezed style.width (longest + room))
    let write (e : Entry) : List Char :=
      if squeezed then stacked style.width e.label e.text
      else beside style.width longest e.label e.text
    [heading.toList ++ ":\n".toList ++ List.intercalate ['\n'] (entries.map write)]

/-- Entries under a heading on a long page. -/
def longList (style : PageStyle) (heading : String) (entries : List Entry) :
    List (List Char) :=
  if entries.isEmpty then []
  else
    [heading.toList ++ ":\n".toList ++ List.intercalate ['\n', '\n']
      (entries.map fun e => stacked style.width e.label e.apart)]

end Entry

/-! ## Pages -/

namespace CommandSpec

/-- Whether the command has a long page beside the short one. -/
def isTwofold (c : CommandSpec) : Bool := c.longAbout.isSome

/-- How the command is called, given the words before its own. -/
def usage (c : CommandSpec) (caller : List String) (commands : List CommandSpec) : String :=
  let options := if c.options.any fun o => !o.endsReading then ["[OPTIONS]"] else []
  let operand := c.operand.toList.map OperandSpec.shown
  let command := if commands.isEmpty then [] else ["[COMMAND]"]
  String.intercalate " " (caller ++ [c.name] ++ options ++ operand ++ command)

/-- The page about a command, without the line feed at its end. -/
def page (c : CommandSpec) (caller : List String) (commands : List CommandSpec)
    (style : PageStyle) : String :=
  let style := { style with long := style.long && c.isTwofold }
  let about := if style.long then c.longAbout.getD c.about else c.about
  let entries := c.options.map (·.entry style c.isTwofold)
  let operands := c.operand.toList.map OperandSpec.entry
  let lists :=
    Entry.shortList style "Commands" 12 (commands.map CommandSpec.entry) ++
    (if style.long then
      Entry.longList style "Arguments" operands ++ Entry.longList style "Options" entries
    else
      Entry.shortList style "Arguments" 12 operands ++ Entry.shortList style "Options" 8 entries)
  String.ofList (Text.trimEndBy Text.isBlank (List.intercalate ['\n', '\n']
    (Text.folded style.width about.toList :: ("Usage: " ++ c.usage caller commands).toList ::
      lists)))

end CommandSpec

end PgMetrics.CommandLine
