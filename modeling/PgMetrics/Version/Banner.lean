import PgMetrics.Text.WordChar
import PgMetrics.Version.Basic

/-!
# Version banners

A server introduces itself by a product name and a version: `PostgreSQL 9.6.1 on x86_64`. The name
is a word, one space follows it, and then up to three runs of digits joined by points. Words and
digits are those of any script; the version reader then takes the ASCII part of what was found.

## Main definitions

* `Banner.versionText?`: the text of the version in a banner.
* `Banner.parse`: the version, or the text in which none was found.
-/

namespace PgMetrics.Banner

/-- A point with digits after it, at the front of a text: the part and what follows it. -/
def pointAndDigits (s : List Char) : List Char × List Char :=
  match s with
  | '.' :: t =>
    let ds := t.takeWhile Text.isDecimal
    if ds.isEmpty then ([], s) else ('.' :: ds, t.dropWhile Text.isDecimal)
  | _ => ([], s)

/-- The text of the version that follows the product name. -/
def versionText? (banner : List Char) : Option (List Char) :=
  let name := banner.takeWhile Text.isWord
  match banner.dropWhile Text.isWord with
  | ' ' :: rest =>
    let major := rest.takeWhile Text.isDecimal
    if name.isEmpty || major.isEmpty then none
    else
      let minor := pointAndDigits (rest.dropWhile Text.isDecimal)
      let patch := pointAndDigits minor.2
      some (major ++ minor.1 ++ patch.1)
  | _ => none

/-- The version of a banner. The error is the text that holds none: the banner itself, or the
version text where that has too great or foreign digits. -/
def parse (banner : List Char) : Except (List Char) Version :=
  match versionText? banner with
  | none => .error banner
  | some text =>
    match Version.parse? text with
    | some v => .ok v
    | none => .error text

end PgMetrics.Banner
