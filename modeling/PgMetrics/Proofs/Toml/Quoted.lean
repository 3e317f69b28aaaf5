import Mathlib.Data.List.Basic
import PgMetrics.Toml.Written

/-!
# Strings of TOML, written and read

Whichever of its forms a string is written in, it reads back as itself, and what follows it is left
to be read, as long as that does not begin with a quote.

The two forms with escapes suit every text. Between three quotes, a run of quotes is not read until
it is known how it ends: up to two of them before the closing ones belong to the text. So what is
shown about such a form is about a text behind quotes that are still to be read.

## Main results

* `escaped_cases` — a character as it is written: an escape, or the character itself.
* `basicLine?_basic`, `basicLines?_escapedLines`, `literalLine?_literal`, `literalLines?_append` —
  the four forms.
* `string?_string`, `quotedKey?_basic`, `quotedKey?_literal` — strings and quoted keys.
-/

namespace PgMetrics.Toml

open Written (escaped needsEscape escapedLines longestRun)

/-! ## Escapes -/

/-- An escape sequence without its backslash, and the character that it stands for. No line break is
found behind its spaces, which the backslash would take away. -/
structure IsEscape (c : Char) (e : List Char) : Prop where
  read : ∀ s, escape? (e ++ s) = some (c, s)
  visible : ∀ s, dropBreak? ((e ++ s).dropWhile isSpace) = none

/-- The code points of control characters have four hexadecimal digits. -/
theorem fourDigits_spec :
    ∀ n < 128, (Written.fourDigits n).length = 4 ∧
      Text.numberIn? 16 (Written.fourDigits n) = some n := by
  decide +kernel

theorem isEscape_fourDigits {c : Char} (h : c.toNat < 128) :
    IsEscape c ('u' :: Written.fourDigits c.toNat) := by
  obtain ⟨length, value⟩ := fourDigits_spec c.toNat h
  have point : Text.codePoint? c.toNat = some c := by
    rw [Text.codePoint?, if_pos (show c.toNat.isValidChar from c.valid), Char.ofNat_toNat]
  refine ⟨fun s => ?_, fun s => rfl⟩
  have front : (Written.fourDigits c.toNat ++ s).take 4 = Written.fourDigits c.toNat := by
    rw [← length, List.take_left]
  have back : (Written.fourDigits c.toNat ++ s).drop 4 = s := by
    rw [← length, List.drop_left]
  simp [escape?, codePoint?, front, back, length, value, point]

/-- A character is written as an escape, or as itself where nothing speaks against it. -/
theorem escaped_cases (c : Char) :
    (∃ e, escaped c = '\\' :: e ∧ IsEscape c e) ∨
    (escaped c = [c] ∧ isPlain c = true ∧ c ≠ '"' ∧ c ≠ '\\') := by
  unfold escaped
  split
  case h_1 letter found =>
    obtain ⟨before, after, table, -⟩ := List.lookup_eq_some_iff.mp found
    have mem : (c, letter) ∈ before ++ (c, letter) :: after := by simp
    rw [← table] at mem
    refine .inl ⟨[letter], rfl, ?_⟩
    simp only [List.mem_cons, Prod.mk.injEq, List.not_mem_nil, or_false] at mem
    rcases mem with ⟨rfl, rfl⟩ | ⟨rfl, rfl⟩ | ⟨rfl, rfl⟩ | ⟨rfl, rfl⟩ | ⟨rfl, rfl⟩ | ⟨rfl, rfl⟩ |
      ⟨rfl, rfl⟩ <;> exact ⟨fun _ => rfl, fun _ => rfl⟩
  case h_2 absent =>
    simp only [List.lookup_eq_none_iff, List.forall_mem_cons, bne_iff_ne] at absent
    obtain ⟨-, -, noBreak, -, -, noQuote, noBackslash, -⟩ := absent
    by_cases control : needsEscape c = true
    · have : c.toNat < 128 := by
        simp only [needsEscape, isPlain] at control
        grind
      exact .inl ⟨_, if_pos control, isEscape_fourDigits this⟩
    · have : isPlain c = true := by simpa [needsEscape, noBreak] using control
      exact .inr ⟨if_neg control, this, noQuote, noBackslash⟩

theorem dropBreak?_of_isPlain {c : Char} (plain : isPlain c = true) (s : List Char) :
    dropBreak? (c :: s) = none := by
  unfold dropBreak?
  split
  · simp_all [isPlain]
  · simp_all [isPlain]
  · rfl

/-- No character is written with a quote or a line break first. -/
theorem head?_escaped (c : Char) :
    ∃ d e, escaped c = d :: e ∧ d ≠ '"' ∧ isPlain d = true := by
  rcases escaped_cases c with ⟨e, h, -⟩ | ⟨h, plain, noQuote, -⟩
  · exact ⟨'\\', e, h, by decide, rfl⟩
  · exact ⟨c, [], h, noQuote, plain⟩

/-- Without control characters a text can be shown over several lines. -/
theorem shown_of_not_needsEscape {s : List Char} (h : s.any needsEscape = false) :
    ∀ c ∈ s, c = '\n' ∨ isPlain c = true := by
  intro c hc
  have := List.any_eq_false.mp h c hc
  simp only [needsEscape, Bool.and_eq_true, Bool.not_eq_true', bne_iff_ne] at this
  grind

theorem isPlain_of_not_needsEscape {s : List Char} (h : s.any needsEscape = false)
    (one : '\n' ∉ s) : ∀ c ∈ s, isPlain c = true := by
  intro c hc
  rcases shown_of_not_needsEscape h c hc with rfl | plain
  · exact absurd hc one
  · exact plain

/-! ## One line -/

/-- Every text is read back from between double quotes. -/
theorem basicLine?_basic (s rest : List Char) {fuel : Nat} (enough : s.length < fuel) :
    basicLine? fuel (s.flatMap escaped ++ '"' :: rest) = some (s, rest) := by
  induction s generalizing fuel with
  | nil =>
    obtain ⟨fuel, rfl⟩ := Nat.exists_eq_add_of_lt enough
    rfl
  | cons c s ih =>
    obtain ⟨fuel, rfl⟩ : ∃ n, fuel = n + 1 := ⟨fuel - 1, by omega⟩
    have ih := @ih fuel (by simpa using enough)
    rw [List.flatMap_cons, List.append_assoc]
    rcases escaped_cases c with ⟨e, h, escape⟩ | ⟨h, plain, noQuote, noBackslash⟩
    · simp [h, basicLine?, escape.read, ih]
    · simp [h, basicLine?, plain, ih]

/-- A text is read back from between single quotes if it needs no escape, line break or single
quote. -/
theorem literalLine?_literal {s : List Char} (plain : ∀ c ∈ s, isPlain c = true)
    (noQuote : '\'' ∉ s) (rest : List Char) :
    literalLine? (s ++ '\'' :: rest) = some (s, rest) := by
  induction s with
  | nil => rfl
  | cons c s ih =>
    obtain ⟨first, plain⟩ := List.forall_mem_cons.mp plain
    simp only [List.mem_cons, not_or] at noQuote
    have : c ≠ '\'' := fun h => noQuote.1 h.symm
    simp [literalLine?, first, ih plain noQuote.2]

/-! ## Several lines -/

/-- Of a run of quotes that is followed by the closing ones, all but the last three belong to the
text. -/
theorem closing_replicate {quote : Char} {n : Nat} (few : n ≤ 2) {rest : List Char}
    (stop : rest.head? ≠ some quote) :
    closing quote (List.replicate n quote ++ rest) = (List.replicate n quote, rest) := by
  obtain rfl | rfl | rfl : n = 0 ∨ n = 1 ∨ n = 2 := by omega
  all_goals
    match rest, stop with
    | [], _ => simp [List.replicate, closing]
    | [a], stop => simp_all [List.replicate, closing]
    | a :: b :: rest, stop => simp_all [List.replicate, closing]

/-- Puts a text before the string that is read. -/
def behind (front : List Char) (found : Option (List Char × List Char)) :
    Option (List Char × List Char) :=
  found.map fun (text, rest) => (front ++ text, rest)

@[simp]
theorem behind_some (front text rest : List Char) :
    behind front (some (text, rest)) = some (front ++ text, rest) := rfl

@[simp]
theorem behind_nil (found : Option (List Char × List Char)) : behind [] found = found := by
  cases found <;> rfl

@[simp]
theorem behind_behind (a b : List Char) (found : Option (List Char × List Char)) :
    behind a (behind b found) = behind (a ++ b) found := by
  cases found <;> simp [behind]

/-- A character that is no backslash and does not begin a closing run belongs to the text. -/
theorem basicLines?_plain {c : Char} (plain : isPlain c = true) (noBackslash : c ≠ '\\')
    {s : List Char} (stop : c = '"' → ∀ t, s ≠ '"' :: '"' :: t) (fuel : Nat) :
    basicLines? (fuel + 1) (c :: s) = behind [c] (basicLines? fuel s) := by
  rw [basicLines?.eq_5 _ _ _ (fun t hc hs => stop hc t hs) noBackslash,
    dropBreak?_of_isPlain plain]
  cases basicLines? fuel s <;> simp [plain, behind]

theorem basicLines?_break (fuel : Nat) (s : List Char) :
    basicLines? (fuel + 1) ('\n' :: s) = behind ['\n'] (basicLines? fuel s) := by
  rw [basicLines?.eq_5 _ _ _ (fun t hc _ => absurd hc (by decide)) (by decide)]
  have : dropBreak? ('\n' :: s) = some s := rfl
  simp only [this]
  cases basicLines? fuel s <;> rfl

theorem basicLines?_escape {c : Char} {e : List Char} (h : IsEscape c e) (fuel : Nat)
    (s : List Char) :
    basicLines? (fuel + 1) ('\\' :: (e ++ s)) = behind [c] (basicLines? fuel s) := by
  rw [basicLines?, h.visible]
  cases found : basicLines? fuel s <;> simp [h.read, found, behind]

/-- Two quotes or less that are not followed by a further one belong to the text. -/
theorem basicLines?_quotes {q : Nat} (few : q ≤ 2) {s : List Char} (stop : s.head? ≠ some '"')
    (fuel : Nat) :
    basicLines? (fuel + q) (List.replicate q '"' ++ s) =
      behind (List.replicate q '"') (basicLines? fuel s) := by
  induction q with
  | zero => simp
  | succ q ih =>
    rw [List.replicate_succ, List.cons_append, ← Nat.add_assoc, basicLines?_plain rfl (by decide),
      ih (by omega)]
    · simp
    · intro _ t h
      obtain rfl | rfl : q = 0 ∨ q = 1 := by omega
      · simp_all
      · simp_all

theorem escapedLines_of_ne {c : Char} (lineFeed : c ≠ '\n') (quote : c ≠ '"') (q : Nat)
    (s : List Char) : escapedLines q (c :: s) = escaped c ++ escapedLines 0 s := by
  rw [escapedLines]
  · exact lineFeed
  · exact quote

theorem length_le_escapedLines (q : Nat) (s : List Char) :
    s.length ≤ (escapedLines q s).length := by
  fun_induction escapedLines q s with
  | case1 => exact Nat.le_refl 0
  | case2 | case3 | case4 =>
    simp only [List.length_cons]
    omega
  | case5 q c s _ _ ih =>
    obtain ⟨d, e, h, -⟩ := head?_escaped c
    simp only [List.length_append, List.length_cons, h]
    omega

/-- What stands before a character that is no quote is read with it. -/
theorem basicLines?_behind {q : Nat} (few : q ≤ 2) {c : Char} {s t text rest : List Char} {n : Nat}
    (other : s.head? ≠ some '"')
    (first : ∀ fuel, basicLines? (fuel + 1) s = behind [c] (basicLines? fuel t))
    (later : ∀ fuel, n < fuel → basicLines? fuel t = some (text, rest))
    {fuel : Nat} (enough : q + (n + 1) < fuel) :
    basicLines? fuel (List.replicate q '"' ++ s) =
      some (List.replicate q '"' ++ c :: text, rest) := by
  obtain ⟨m, rfl⟩ : ∃ m, fuel = m + 1 + q := ⟨fuel - 1 - q, by omega⟩
  rw [basicLines?_quotes few other, first, later m (by omega)]
  simp

/-- Between three double quotes every text is read back from behind the quotes that it begins
with. -/
theorem basicLines?_escapedLines {q : Nat} (few : q ≤ 2) (s : List Char) {rest : List Char}
    (stop : rest.head? ≠ some '"') {fuel : Nat} (enough : q + s.length < fuel) :
    basicLines? fuel (List.replicate q '"' ++ (escapedLines q s ++ ("\"\"\"".toList ++ rest))) =
      some (List.replicate q '"' ++ s, rest) := by
  induction s generalizing q fuel with
  | nil =>
    obtain ⟨n, rfl⟩ : ∃ n, fuel = n + 1 := ⟨fuel - 1, by omega⟩
    have turned : List.replicate q '"' ++ ("\"\"\"".toList ++ rest) =
        '"' :: '"' :: '"' :: (List.replicate q '"' ++ rest) := by
      obtain rfl | rfl | rfl : q = 0 ∨ q = 1 ∨ q = 2 := by omega
      all_goals rfl
    rw [escapedLines, List.nil_append, turned, basicLines?, closing_replicate few stop]
    · simp
    · exact nofun
  | cons c s ih =>
    have later (fuel : Nat) (enough : s.length < fuel) :
        basicLines? fuel (escapedLines 0 s ++ ("\"\"\"".toList ++ rest)) = some (s, rest) :=
      ih (q := 0) (by omega) (by simpa using enough)
    rw [List.length_cons] at enough
    by_cases lineFeed : c = '\n'
    · subst lineFeed
      exact basicLines?_behind few (by simp) (basicLines?_break · _) later enough
    by_cases quote : c = '"'
    · subst quote
      by_cases full : q = 2
      · rw [escapedLines, if_pos full]
        exact basicLines?_behind few (by simp)
          (basicLines?_escape (e := ['"']) ⟨fun _ => rfl, fun _ => rfl⟩ · _) later enough
      · have longer := @ih (q + 1) (by omega) fuel (by omega)
        rw [List.replicate_succ'] at longer
        simpa [escapedLines, full] using longer
    rw [escapedLines_of_ne lineFeed quote, List.append_assoc]
    refine basicLines?_behind few ?_ (fun fuel => ?_) later enough
    · obtain ⟨d, e, h, other, -⟩ := head?_escaped c
      simpa [h] using other
    · rcases escaped_cases c with ⟨e, h, escape⟩ | ⟨h, plain, noQuote, noBackslash⟩
      · rw [h]
        exact basicLines?_escape escape _ _
      · rw [h]
        exact basicLines?_plain plain noBackslash (fun h => absurd h noQuote) _

/-! ### Without escapes -/

/-- The longest run of a character in a text that stands behind a run, if one was seen before. -/
def longestFrom (x : Char) (run longest : Nat) (s : List Char) : Nat :=
  (s.foldl (fun (run, longest) c =>
    if c = x then (run + 1, max longest (run + 1)) else (0, longest)) (run, longest)).2

theorem longestFrom_cons (x c : Char) (run longest : Nat) (s : List Char) :
    longestFrom x run longest (c :: s) =
      if c = x then longestFrom x (run + 1) (max longest (run + 1)) s
      else longestFrom x 0 longest s := by
  by_cases same : c = x <;> simp [longestFrom, same]

theorem le_longestFrom (x : Char) (run longest : Nat) (s : List Char) :
    longest ≤ longestFrom x run longest s := by
  induction s generalizing run longest with
  | nil => exact Nat.le_refl longest
  | cons c s ih =>
    rw [longestFrom_cons]
    split
    · exact Nat.le_trans (Nat.le_max_left ..) (ih ..)
    · exact ih ..

theorem literalLines?_plain {c : Char} (shown : c = '\n' ∨ isPlain c = true)
    {s : List Char} (stop : c = '\'' → ∀ t, s ≠ '\'' :: '\'' :: t) :
    literalLines? (c :: s) = behind [c] (literalLines? s) := by
  rw [literalLines?.eq_4 _ _ (fun t hc hs => stop hc t hs)]
  · cases literalLines? s <;> simp_all [behind]
  · rintro t rfl
    simp_all [isPlain]

theorem literalLines?_quotes {q : Nat} (few : q ≤ 2) {s : List Char} (stop : s.head? ≠ some '\'') :
    literalLines? (List.replicate q '\'' ++ s) =
      behind (List.replicate q '\'') (literalLines? s) := by
  induction q with
  | zero => simp
  | succ q ih =>
    rw [List.replicate_succ, List.cons_append, literalLines?_plain (.inr rfl), ih (by omega)]
    · simp
    · intro _ t h
      obtain rfl | rfl : q = 0 ∨ q = 1 := by omega
      · simp_all
      · simp_all

/-- Between three single quotes a text is read back if it has no run of as many. -/
theorem literalLines?_append {q longest : Nat} (s : List Char) (begun : q ≤ longest)
    (few : longestFrom '\'' q longest s ≤ 2) (plain : ∀ c ∈ s, c = '\n' ∨ isPlain c = true)
    {rest : List Char} (stop : rest.head? ≠ some '\'') :
    literalLines? (List.replicate q '\'' ++ (s ++ ("'''".toList ++ rest))) =
      some (List.replicate q '\'' ++ s, rest) := by
  induction s generalizing q longest with
  | nil =>
    have few : q ≤ 2 := Nat.le_trans begun few
    have turned : List.replicate q '\'' ++ ("'''".toList ++ rest) =
        '\'' :: '\'' :: '\'' :: (List.replicate q '\'' ++ rest) := by
      obtain rfl | rfl | rfl : q = 0 ∨ q = 1 ∨ q = 2 := by omega
      all_goals rfl
    rw [List.nil_append, turned, literalLines?, closing_replicate few stop]
    simp
  | cons c s ih =>
    obtain ⟨first, others⟩ := List.forall_mem_cons.mp plain
    rw [longestFrom_cons] at few
    split at few
    case isTrue quote =>
      subst quote
      have longer := ih (Nat.le_max_right ..) few others
      rw [List.replicate_succ'] at longer
      simpa using longer
    case isFalse other =>
      have : q ≤ 2 := Nat.le_trans begun (Nat.le_trans (le_longestFrom ..) few)
      have ih := ih (q := 0) (by omega) few others
      rw [List.replicate_zero, List.nil_append, List.nil_append] at ih
      rw [List.cons_append, literalLines?_quotes this (by simpa using other),
        literalLines?_plain first (fun h => absurd h other), ih]
      simp

/-! ## Quoted keys -/

theorem length_le_flatMap_escaped (s : List Char) : s.length ≤ (s.flatMap escaped).length := by
  induction s with
  | nil => exact Nat.le_refl 0
  | cons c s ih =>
    obtain ⟨d, e, h, -⟩ := head?_escaped c
    simp only [List.flatMap_cons, List.length_append, List.length_cons, h]
    omega

theorem quotedKey?_basic (s rest : List Char) :
    quotedKey? (Written.basic s ++ rest) = some (s, rest) := by
  have text : Written.basic s ++ rest = '"' :: (s.flatMap escaped ++ '"' :: rest) := by
    simp [Written.basic]
  rw [text, quotedKey?, basicLine?_basic]
  have := length_le_flatMap_escaped s
  simp only [List.length_append, List.length_cons]
  omega

theorem quotedKey?_literal {s : List Char} (plain : ∀ c ∈ s, isPlain c = true)
    (noQuote : '\'' ∉ s) (rest : List Char) :
    quotedKey? (Written.literal s ++ rest) = some (s, rest) := by
  have text : Written.literal s ++ rest = '\'' :: (s ++ '\'' :: rest) := by
    simp [Written.literal]
  rw [text, quotedKey?, literalLine?_literal plain noQuote]

/-! ## Strings -/

/-- Without three quotes at the front, a string is read as a quoted key is. -/
theorem string?_eq_quotedKey? {s : List Char} (double : ¬ "\"\"\"".toList <+: s)
    (single : ¬ "'''".toList <+: s) : string? s = quotedKey? s := by
  unfold string?
  split
  · exact absurd (by simp) double
  · rfl
  · exact absurd (by simp) single
  · rfl
  · unfold quotedKey?
    split <;> simp_all

/-- An empty quoted text does not begin with three quotes. -/
theorem not_three_quotes {quote : Char} {rest : List Char} (stop : rest.head? ≠ some quote) :
    ¬ [quote, quote, quote] <+: quote :: quote :: rest := by
  cases rest with
  | nil => simp
  | cons c rest =>
    have : quote ≠ c := fun h => stop (congrArg some h.symm)
    simp [this]

theorem skipBreak_opening {s t : List Char} (h : '\n' ∉ s → dropBreak? t = none) :
    skipBreak (Written.opening s ++ t) = t := by
  unfold Written.opening skipBreak
  split
  · rfl
  · rw [List.nil_append, h ‹_›]
    rfl

variable {rest : List Char} (double : rest.head? ≠ some '"') (single : rest.head? ≠ some '\'')

include double in
theorem string?_basic (s : List Char) : string? (Written.basic s ++ rest) = some (s, rest) := by
  rw [string?_eq_quotedKey?, quotedKey?_basic]
  · cases s with
    | nil => exact not_three_quotes double
    | cons c s =>
      obtain ⟨d, e, h, other, -⟩ := head?_escaped c
      simp [Written.basic, h, other.symm]
  · simp [Written.basic]

include single in
theorem string?_literal {s : List Char} (plain : ∀ c ∈ s, isPlain c = true) (noQuote : '\'' ∉ s) :
    string? (Written.literal s ++ rest) = some (s, rest) := by
  rw [string?_eq_quotedKey?, quotedKey?_literal plain noQuote]
  · simp [Written.literal]
  · cases s with
    | nil => exact not_three_quotes single
    | cons c s =>
      have : '\'' ≠ c := fun h => noQuote (h ▸ List.mem_cons_self)
      simp [Written.literal, this]

include double in
theorem string?_basicLines (s : List Char) :
    string? (Written.basicLines s ++ rest) = some (s, rest) := by
  have text : Written.basicLines s ++ rest = '"' :: '"' :: '"' ::
      (Written.opening s ++ (escapedLines 0 s ++ ("\"\"\"".toList ++ rest))) := by
    simp [Written.basicLines]
  have noBreak (h : '\n' ∉ s) :
      dropBreak? (escapedLines 0 s ++ ("\"\"\"".toList ++ rest)) = none := by
    cases s with
    | nil => rfl
    | cons c s =>
      obtain ⟨lineFeed, -⟩ := not_or.mp (List.mem_cons.not.mp h)
      by_cases quote : c = '"'
      · subst quote
        rfl
      · obtain ⟨d, e, written, -, plain⟩ := head?_escaped c
        rw [escapedLines_of_ne (Ne.symm lineFeed) quote, written]
        exact dropBreak?_of_isPlain plain _
  rw [text, string?, skipBreak_opening noBreak]
  refine basicLines?_escapedLines (q := 0) (by omega) s double ?_
  have := length_le_escapedLines 0 s
  simp only [List.length_append]
  omega

include single in
theorem string?_literalLines {s : List Char} (plain : ∀ c ∈ s, c = '\n' ∨ isPlain c = true)
    (few : longestRun '\'' s ≤ 2) : string? (Written.literalLines s ++ rest) = some (s, rest) := by
  have text : Written.literalLines s ++ rest = '\'' :: '\'' :: '\'' ::
      (Written.opening s ++ (s ++ ("'''".toList ++ rest))) := by
    simp [Written.literalLines]
  have noBreak (h : '\n' ∉ s) : dropBreak? (s ++ ("'''".toList ++ rest)) = none := by
    cases s with
    | nil => rfl
    | cons c s =>
      obtain ⟨lineFeed, -⟩ := not_or.mp (List.mem_cons.not.mp h)
      rcases plain c List.mem_cons_self with rfl | shown
      · exact absurd rfl lineFeed
      · exact dropBreak?_of_isPlain shown _
  rw [text, string?, skipBreak_opening noBreak]
  exact literalLines?_append (q := 0) s (Nat.le_refl 0) few plain single

include double single in
/-- A string reads back as itself. -/
theorem string?_string (s : List Char) : string? (Written.string s ++ rest) = some (s, rest) := by
  unfold Written.string
  dsimp only
  split
  · exact string?_basic double s
  split
  case isTrue h =>
    simp only [Bool.and_eq_true, Bool.not_eq_true', decide_eq_true_eq, decide_eq_false_iff_not] at h
    exact string?_literal single (isPlain_of_not_needsEscape h.1.1 h.1.2) h.2
  split
  · exact string?_basicLines double s
  split
  case isTrue h =>
    simp only [Bool.and_eq_true, Bool.not_eq_true', decide_eq_true_eq] at h
    exact string?_literalLines single (shown_of_not_needsEscape h.1) h.2
  split
  · exact string?_basicLines double s
  · exact string?_basic double s

end PgMetrics.Toml
