import PgMetrics.Text.Blank

/-!
# Text in lines of limited width

A text is broken at spaces so that its lines stay within a width where words allow it. A word longer
than that has a line of its own. Blanks at a break are dropped, and all others stay.

## Main definitions

* `chunks`: the words of a line, each with the spaces after it.
* `foldedLine`, `folded`: a line or a text within a width.
* `indented`: the lines of a text after the first, pushed to the right.
-/

namespace PgMetrics.Text

/-- The words of a line, each with the spaces after it. Spaces at its front are a word. -/
def chunks : List Char → List (List Char)
  | [] => []
  | c :: s =>
    match chunks s with
    | [] => [[c]]
    | w :: rest =>
      if c = ' ' ∧ w.head? ≠ some ' ' then [c] :: w :: rest
      else (c :: w) :: rest

/-- A line that is being written. -/
structure OpenLine where
  /-- What was written, the last character first. -/
  reversed : List Char
  /-- The columns that the line at the end of it takes. -/
  width : Nat

namespace OpenLine

/-- Adds a word to the line if it fits, and else to a new one that starts with `margin`. -/
def add (limit : Nat) (margin : List Char) (l : OpenLine) (word : List Char) : OpenLine :=
  let size := (trimEndBy isBlank word).length
  if limit < l.width + size then
    ⟨word.reverse ++ (margin.reverse ++ '\n' :: l.reversed.dropWhile isBlank),
      margin.length + word.length⟩
  else ⟨word.reverse ++ l.reversed, l.width + word.length⟩

end OpenLine

/-- A line within a width. The lines that follow it start with the spaces that it starts with. -/
def foldedLine (limit : Nat) (line : List Char) : List Char :=
  match chunks line with
  | [] => []
  | w :: rest =>
    let margin := if w.all isBlank then w else []
    (rest.foldl (OpenLine.add limit margin) ⟨w.reverse, w.length⟩).reversed.reverse

/-- A text within a width, without blanks at its end. -/
def folded (limit : Nat) (s : List Char) : List Char :=
  trimEndBy isBlank
    (List.intercalate ['\n'] ((pieces (· == '\n') s).map (foldedLine limit)))

/-- A text whose lines after the first start with `n` spaces. -/
def indented (n : Nat) (s : List Char) : List Char :=
  s.flatMap fun c => if c = '\n' then '\n' :: List.replicate n ' ' else [c]

end PgMetrics.Text
