import PgMetrics.Proofs.Outcome
import PgMetrics.Proofs.Text.Blank
import PgMetrics.Proofs.Text.Number
import PgMetrics.Version.Banner

/-!
# Versions as they are written

People write a version with one, two or three numbers. Whatever follows it, a reader finds exactly
these numbers, as long as what follows cannot be taken for more of them; a number that does not fit
64 bits is an error and never another number. A banner is read in the same way behind its product
name, although its pattern also takes digits of other scripts.

## Main definitions

* `WrittenVersion` — the three forms, with their text and the version that they stand for.
* `WrittenVersion.Closes` — what may follow a form.

## Main results

* `WrittenVersion.parse?_append` — the reader of versions.
* `WrittenVersion.versionText?_append` — what is cut out of a banner.
* `WrittenVersion.read_by_both` — both readers find the written version.
-/

namespace PgMetrics

open Text (Padded)

/-- A version as people write it. -/
inductive WrittenVersion where
  | one (major : Padded)
  | two (major minor : Padded)
  | three (major minor patch : Padded)

namespace WrittenVersion

def text : WrittenVersion → List Char
  | one a => a.text
  | two a b => a.text ++ '.' :: b.text
  | three a b c => a.text ++ '.' :: (b.text ++ '.' :: c.text)

/-- The version with the written numbers, where each fits; numbers that are not written are
zero. -/
def version? : WrittenVersion → Option Version
  | one a => Version.ofNats? a.number 0 0
  | two a b => Version.ofNats? a.number b.number 0
  | three a b c => Version.ofNats? a.number b.number c.number

/-- Whether all three numbers are written. -/
def isFull : WrittenVersion → Bool
  | three .. => true
  | _ => false

/-- What may follow a version: no further digit, and a point only after the third number. -/
def Closes (w : WrittenVersion) (rest : List Char) : Prop :=
  ∀ c ∈ rest.head?, c.isDigit = false ∧ (c = '.' → w.isFull = true)

/-- The form in which a version is printed. -/
def ofVersion (v : Version) : WrittenVersion :=
  three (.plain v.major.toNat) (.plain v.minor.toNat) (.plain v.patch.toNat)

@[simp]
theorem text_ofVersion (v : Version) : (ofVersion v).text = v.render := rfl

@[simp]
theorem version?_ofVersion (v : Version) : (ofVersion v).version? = some v := by
  have := v.major.toNat_lt
  have := v.minor.toNat_lt
  have := v.patch.toNat_lt
  simp [version?, ofVersion, Padded.plain, Version.ofNats?, UInt64.size, *]

theorem closes_nil (w : WrittenVersion) : w.Closes [] := nofun

theorem Closes.of_prefix {w : WrittenVersion} {s t : List Char} (h : w.Closes t) (le : s <+: t) :
    w.Closes s := by
  intro c hc
  obtain ⟨rest, rfl⟩ := le
  exact h c (by simp [List.head?_append, Option.mem_def.mp hc])

/-! ## The text of a version -/

theorem isNumeric_of_mem_text {w : WrittenVersion} {c : Char} (h : c ∈ w.text) :
    Version.isNumeric c = true := by
  have digit {n : Padded} (h : c ∈ n.text) : Version.isNumeric c = true := by
    simp [Version.isNumeric, Padded.isDigit_of_mem_text h]
  have point : Version.isNumeric '.' = true := rfl
  cases w <;> simp only [text, List.mem_append, List.mem_cons] at h <;> grind

/-- A version begins and ends with digits. -/
theorem exists_ends (w : WrittenVersion) :
    ∃ first last, w.text.head? = some first ∧ w.text.getLast? = some last ∧
      first.isDigit = true ∧ last.isDigit = true := by
  have first (n : Padded) : ∃ c, n.text.head? = some c ∧ c.isDigit = true :=
    ⟨_, List.head?_eq_some_head n.text_ne_nil, Padded.isDigit_of_mem_text (List.head_mem _)⟩
  have last (n : Padded) : ∃ c, n.text.getLast? = some c ∧ c.isDigit = true :=
    ⟨_, List.getLast?_eq_some_getLast n.text_ne_nil,
      Padded.isDigit_of_mem_text (List.getLast_mem _)⟩
  cases w with
  | one a =>
    obtain ⟨f, hf, df⟩ := first a
    obtain ⟨l, hl, dl⟩ := last a
    exact ⟨f, l, hf, hl, df, dl⟩
  | two a b =>
    obtain ⟨f, hf, df⟩ := first a
    obtain ⟨l, hl, dl⟩ := last b
    exact ⟨f, l, by simp [text, hf], by simp [text, List.getLast?_cons, hl], df, dl⟩
  | three a b c =>
    obtain ⟨f, hf, df⟩ := first a
    obtain ⟨l, hl, dl⟩ := last c
    exact ⟨f, l, by simp [text, hf], by simp [text, List.getLast?_cons, hl], df, dl⟩

/-! ## The reader of versions -/

/-- The letter that may stand before a version. -/
def letter (given : Bool) : List Char := if given then ['v'] else []

/-- Of what follows the version, only digits and points are kept. -/
theorem exists_numericPart {blanks : List Char} (blank : ∀ c ∈ blanks, Text.isBlank c = true)
    (given : Bool) (w : WrittenVersion) (rest : List Char) :
    ∃ kept, kept <+: rest ∧ (∀ c ∈ kept, Version.isNumeric c = true) ∧
      Version.numericPart (blanks ++ (letter given ++ w.text) ++ rest) = w.text ++ kept := by
  obtain ⟨first, last, starts, ends, hf, hl⟩ := w.exists_ends
  have visible := Text.isBlank_of_isDigit hl
  have noPoint : (last == '.') = false := beq_eq_false_iff_ne.mpr (Text.ne_of_isDigit hl rfl)
  have trimmed : Text.trim (blanks ++ (letter given ++ w.text) ++ rest) =
      letter given ++ w.text ++ Text.trimEndBy Text.isBlank rest := by
    cases given
    · exact Text.trim_append blank starts ends (Text.isBlank_of_isDigit hf) visible rest
    · have begins : (letter true ++ w.text).head? = some 'v' := rfl
      exact Text.trim_append blank begins (by simp [letter, List.getLast?_cons, ends]) rfl
        visible rest
  have dropped (s : List Char) :
      (Text.dropStart? ['v'] (letter given ++ w.text ++ s)).getD (letter given ++ w.text ++ s) =
        w.text ++ s := by
    cases given
    · obtain ⟨tail, ht⟩ := List.head?_eq_some_iff.mp starts
      have : 'v' ≠ first := (Text.ne_of_isDigit hf rfl).symm
      simp [letter, ht, Text.dropStart?, this]
    · rfl
  refine ⟨Text.trimEndBy (· == '.') ((Text.trimEndBy Text.isBlank rest).takeWhile
    Version.isNumeric), ?_, fun c hc => ?_, ?_⟩
  · exact (Text.trimEndBy_prefix _ _).trans
      ((List.takeWhile_prefix _).trans (Text.trimEndBy_prefix _ _))
  · exact List.all_eq_true.mp List.all_takeWhile c ((Text.trimEndBy_prefix _ _).mem hc)
  · rw [Version.numericPart, trimmed, dropped,
      List.takeWhile_append_of_pos fun c => isNumeric_of_mem_text,
      Text.trimEndBy_append ends noPoint]

/-- Digits and points that may follow a version begin with a point, after a full one. -/
theorem Closes.point {w : WrittenVersion} {c : Char} {rest : List Char}
    (closes : w.Closes (c :: rest))
    (numeric : Version.isNumeric c = true) : c = '.' ∧ w.isFull = true := by
  obtain ⟨noDigit, full⟩ := closes c rfl
  have : c = '.' := by simpa [Version.isNumeric, noDigit] using numeric
  exact ⟨this, full this⟩

theorem ofPieces?_append {w : WrittenVersion} {rest : List Char} (closes : w.Closes rest)
    (numeric : ∀ c ∈ rest, Version.isNumeric c = true) :
    Version.ofPieces? (Text.pieces (· == '.') (w.text ++ rest)) = w.version? := by
  have whole (n : Padded) : ∀ c ∈ n.text, (c == '.') = false := fun c hc =>
    beq_eq_false_iff_ne.mpr (Text.ne_of_isDigit (Padded.isDigit_of_mem_text hc) rfl)
  have zero : 0 < UInt64.size := by decide
  cases rest with
  | nil =>
    cases w <;>
      simp only [List.append_nil, text, Text.pieces_append (whole _) (beq_self_eq_true '.'),
        Text.pieces_of_none (whole _), Version.ofPieces?, Padded.unsigned64?_text, version?,
        Version.ofNats?] <;>
      grind
  | cons point rest =>
    obtain ⟨rfl, full⟩ := closes.point (numeric _ List.mem_cons_self)
    cases w with
    | one => cases full
    | two => cases full
    | three a b c =>
      -- the third piece ends at the point, and the ones after it do not count
      simp only [text, List.append_assoc, List.cons_append,
        Text.pieces_append (whole _) (beq_self_eq_true '.'), Version.ofPieces?,
        Padded.unsigned64?_text, version?, Version.ofNats?]
      grind

/-- The reader of versions finds the written version, whatever follows it. -/
theorem parse?_append {blanks : List Char} (blank : ∀ c ∈ blanks, Text.isBlank c = true)
    (given : Bool) {w : WrittenVersion} {rest : List Char} (closes : w.Closes rest) :
    Version.parse? (blanks ++ (letter given ++ w.text) ++ rest) = w.version? := by
  obtain ⟨kept, le, numeric, part⟩ := exists_numericPart blank given w rest
  obtain ⟨first, last, starts, -⟩ := w.exists_ends
  have ne : (w.text ++ kept).isEmpty = false := by
    obtain ⟨tail, ht⟩ := List.head?_eq_some_iff.mp starts
    simp [ht]
  simp only [Version.parse?, part, ne]
  exact ofPieces?_append (closes.of_prefix le) numeric

theorem parse?_text {w : WrittenVersion} {rest : List Char} (closes : w.Closes rest) :
    Version.parse? (w.text ++ rest) = w.version? :=
  parse?_append (show ∀ c ∈ [], Text.isBlank c = true from nofun) false closes

end WrittenVersion

open WrittenVersion in
/-- A printed version reads back as itself. -/
theorem Version.parse?_render (v : Version) : Version.parse? v.render = some v := by
  rw [← text_ofVersion, ← List.append_nil (text _), parse?_text (closes_nil _), version?_ofVersion]

namespace WrittenVersion

/-! ## The reader of banners -/

theorem isDecimal_of_isDigit {c : Char} (h : c.isDigit = true) : Text.isDecimal c = true := by
  have := Text.isDigit_iff.mp h
  rw [Text.isDecimal, if_pos (by omega), h]

theorem isDecimal_of_mem_text {n : Padded} {c : Char} (h : c ∈ n.text) : Text.isDecimal c = true :=
  isDecimal_of_isDigit (Padded.isDigit_of_mem_text h)

theorem pointAndDigits_of_no_point {s : List Char} (h : ∀ c ∈ s.head?, c ≠ '.') :
    Banner.pointAndDigits s = ([], s) := by
  unfold Banner.pointAndDigits
  split
  · exact absurd rfl (h '.' rfl)
  · rfl

theorem pointAndDigits_text (n : Padded) (s : List Char) :
    Banner.pointAndDigits ('.' :: (n.text ++ s)) =
      ('.' :: (n.text ++ s.takeWhile Text.isDecimal), s.dropWhile Text.isDecimal) := by
  simp [Banner.pointAndDigits, List.takeWhile_append_of_pos fun _ => isDecimal_of_mem_text,
    List.dropWhile_append_of_pos fun _ => isDecimal_of_mem_text, n.text_ne_nil]

/-- The version text behind a product name. -/
theorem versionText?_eq {name : List Char} (ne : name ≠ [])
    (word : ∀ c ∈ name, Text.isWord c = true) (n : Padded) (s : List Char) :
    Banner.versionText? (name ++ ' ' :: (n.text ++ s)) =
      some (n.text ++ (s.takeWhile Text.isDecimal ++
        ((Banner.pointAndDigits (s.dropWhile Text.isDecimal)).1 ++
          (Banner.pointAndDigits (Banner.pointAndDigits (s.dropWhile Text.isDecimal)).2).1))) := by
  have space : Text.isWord ' ' = false := rfl
  simp [Banner.versionText?, List.takeWhile_append_of_pos word, List.dropWhile_append_of_pos word,
    space, List.takeWhile_append_of_pos fun _ => isDecimal_of_mem_text,
    List.dropWhile_append_of_pos fun _ => isDecimal_of_mem_text, n.text_ne_nil, ne]

/-- Digits of other scripts may follow a version, and anything behind them. -/
theorem Closes.digits_append {w : WrittenVersion} {rest : List Char} (closes : w.Closes rest)
    (tail : List Char) (h : rest.takeWhile Text.isDecimal = [] → w.Closes tail) :
    w.Closes (rest.takeWhile Text.isDecimal ++ tail) := by
  cases rest with
  | nil => exact h rfl
  | cons c rest =>
    cases decimal : Text.isDecimal c with
    | true => simpa [Closes, decimal] using closes
    | false => simpa [decimal] using h

theorem Closes.no_point {w : WrittenVersion} {rest : List Char} (closes : w.Closes rest)
    (short : w.isFull = false) : ∀ c ∈ rest.head?, c ≠ '.' := by
  intro c hc point
  rw [(closes c hc).2 point] at short
  cases short

/-- What is cut out of a banner: the written version, and what may follow it. -/
theorem exists_versionText? {name : List Char} (ne : name ≠ [])
    (word : ∀ c ∈ name, Text.isWord c = true) {w : WrittenVersion} {rest : List Char}
    (closes : w.Closes rest) :
    ∃ more, w.Closes more ∧
      Banner.versionText? (name ++ ' ' :: (w.text ++ rest)) = some (w.text ++ more) := by
  have point : Text.isDecimal '.' = false := rfl
  -- where no digit of another script follows, a short version is followed by no point
  have stop (short : w.isFull = false) (none : rest.takeWhile Text.isDecimal = []) :
      Banner.pointAndDigits (rest.dropWhile Text.isDecimal) = ([], rest) := by
    have all : rest.dropWhile Text.isDecimal = rest := by
      simpa [none] using List.takeWhile_append_dropWhile (p := Text.isDecimal) (l := rest)
    rw [all, pointAndDigits_of_no_point (closes.no_point short)]
  cases w with
  | one a =>
    have found := versionText?_eq ne word a rest
    refine ⟨_, closes.digits_append _ fun none => ?_, found⟩
    rw [stop rfl none, pointAndDigits_of_no_point (closes.no_point rfl)]
    exact closes_nil _
  | two a b =>
    refine ⟨_, closes.digits_append (Banner.pointAndDigits (rest.dropWhile Text.isDecimal)).1
      fun none => ?_, ?_⟩
    · rw [stop rfl none]
      exact closes_nil _
    · rw [text, List.append_assoc, versionText?_eq ne word]
      simp [point, pointAndDigits_text]
  | three a b c =>
    refine ⟨_, closes.digits_append [] fun _ => closes_nil _, ?_⟩
    rw [text, List.append_assoc, versionText?_eq ne word]
    simp [point, pointAndDigits_text]

theorem toOption_parse_banner {name : List Char} (ne : name ≠ [])
    (word : ∀ c ∈ name, Text.isWord c = true) {w : WrittenVersion} {rest : List Char}
    (closes : w.Closes rest) :
    (Banner.parse (name ++ ' ' :: (w.text ++ rest))).toOption = w.version? := by
  obtain ⟨more, closes, found⟩ := exists_versionText? ne word closes
  rw [Banner.parse, found]
  simp only [parse?_text closes]
  cases w.version? <;> rfl

/-- Both readers find the numbers that are written, and nothing where one of them does not fit; so
a printed version reads back as itself. -/
theorem read_by_both (w : WrittenVersion) (blanks name rest : List Char)
    (blank : ∀ c ∈ blanks, Text.isBlank c = true) (given : Bool) (ne : name ≠ [])
    (word : ∀ c ∈ name, Text.isWord c = true) (closes : w.Closes rest) :
    Version.parse? (blanks ++ (letter given ++ w.text) ++ rest) = w.version? ∧
    (Banner.parse (name ++ ' ' :: (w.text ++ rest))).toOption = w.version? ∧
    ∀ v : Version, Version.parse? v.render = some v ∧
      Banner.parse (name ++ ' ' :: v.render) = .ok v := by
  refine ⟨parse?_append blank given closes, toOption_parse_banner ne word closes, fun v => ?_⟩
  have printed := toOption_parse_banner ne word (closes_nil (ofVersion v))
  rw [List.append_nil, text_ofVersion, version?_ofVersion] at printed
  exact ⟨v.parse?_render, eq_ok_of_toOption printed⟩

/-- A fourth number and a digit of another script do not count, and a number of 65 bits is none. -/
theorem read_of_fourth_number :
    let w := three ⟨1, 9⟩ ⟨0, 6⟩ ⟨0, 2⟩
    let great := two ⟨0, 9⟩ ⟨0, UInt64.size⟩
    Version.parse? ([' ', '\t'] ++ (letter true ++ w.text) ++ ['.', '7', '٣']) = some ⟨9, 6, 2⟩ ∧
      (Banner.parse (['D', 'B'] ++ ' ' :: (w.text ++ ['.', '7', '٣']))).toOption = some ⟨9, 6, 2⟩ ∧
      Version.parse? ([] ++ (letter false ++ great.text) ++ ['٣']) = none ∧
      (Banner.parse (['D', 'B'] ++ ' ' :: (great.text ++ ['٣']))).toOption = none := by
  have first := read_by_both (three ⟨1, 9⟩ ⟨0, 6⟩ ⟨0, 2⟩) [' ', '\t'] ['D', 'B'] ['.', '7', '٣']
    (List.all_eq_true.mp rfl) true (by decide) (List.all_eq_true.mp rfl)
    (fun c hc => by cases hc; decide)
  have second := read_by_both (two ⟨0, 9⟩ ⟨0, UInt64.size⟩) [] ['D', 'B'] ['٣']
    nofun false (by decide) (List.all_eq_true.mp rfl) (fun c hc => by cases hc; decide)
  exact ⟨first.1, first.2.1, second.1, second.2.1⟩

end WrittenVersion

end PgMetrics
