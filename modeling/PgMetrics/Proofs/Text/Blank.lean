import Mathlib.Data.List.TakeWhile
import PgMetrics.Text.Blank

/-!
# Trimming and splitting

What is cut off at an end of a text is told by what stands there: characters to be cut before one
that stays are cut, and the text from that one on is kept as it is. Splitting at separators gives
back the pieces that were joined.

## Main definitions

* `Spaced` — a text with blanks around it.

## Main results

* `trim_append` — blanks before and after a text whose ends are not blank.
* `spaced_trim`, `trim_of_spaced` — what trimming cuts off and what it leaves.
* `pieces_append_sep`, `words_append_blank` — a separator divides the pieces, a blank the words.
* `pieces_append`, `words_append` — the first piece and the first word of a text.
* `pieces_intersperse` — the pieces of a text that was joined from them.
-/

namespace PgMetrics.Text

variable {p : Char → Bool}

/-! ## Prefixes -/

theorem takeWhile_of_head? {s : List Char} (h : ∀ c ∈ s.head?, p c = false) :
    s.takeWhile p = [] := by
  cases s with
  | nil => rfl
  | cons c rest => simp [h c rfl]

theorem dropWhile_of_head? {s : List Char} (h : ∀ c ∈ s.head?, p c = false) :
    s.dropWhile p = s := by
  cases s with
  | nil => rfl
  | cons c rest => simp [h c rfl]

/-! ## Trimming -/

theorem trimEndBy_prefix (p : Char → Bool) (s : List Char) : trimEndBy p s <+: s := by
  rw [← List.reverse_suffix]
  simpa [trimEndBy] using List.dropWhile_suffix p

/-- Nothing is cut before the last character that stays. -/
theorem trimEndBy_append {a : List Char} {last : Char} (ends : a.getLast? = some last)
    (stays : p last = false) (s : List Char) : trimEndBy p (a ++ s) = a ++ trimEndBy p s := by
  have kept : a.reverse.dropWhile p = a.reverse := by
    refine dropWhile_of_head? fun c hc => ?_
    rw [List.head?_reverse, ends] at hc
    exact Option.some.inj hc ▸ stays
  rw [trimEndBy, trimEndBy, List.reverse_append, List.dropWhile_append, kept]
  split
  · simp_all
  · simp

theorem trim_append {blanks a : List Char} (blank : ∀ c ∈ blanks, isBlank c = true)
    {first last : Char}
    (starts : a.head? = some first) (ends : a.getLast? = some last) (hf : isBlank first = false)
    (hl : isBlank last = false) (s : List Char) :
    trim (blanks ++ a ++ s) = a ++ trimEndBy isBlank s := by
  have kept : (a ++ s).dropWhile isBlank = a ++ s := by
    refine dropWhile_of_head? fun c hc => ?_
    rw [List.head?_append, starts] at hc
    exact Option.some.inj hc ▸ hf
  rw [trim, trimStartBy, List.append_assoc, List.dropWhile_append_of_pos blank, kept,
    trimEndBy_append ends hl]

theorem trim_of_none {s : List Char} (none : ∀ c ∈ s, isBlank c = false) : trim s = s := by
  have kept (t : List Char) (same : ∀ c ∈ t, c ∈ s) : t.dropWhile isBlank = t :=
    dropWhile_of_head? fun c head => none c (same c (List.mem_of_mem_head? head))
  rw [trim, trimStartBy, kept s fun _ => id, trimEndBy, kept s.reverse fun _ => List.mem_reverse.mp,
    List.reverse_reverse]

/-- The text `s` is `t` with blanks before and after it. -/
def Spaced (t s : List Char) : Prop :=
  ∃ before after, (∀ c ∈ before, isBlank c = true) ∧ (∀ c ∈ after, isBlank c = true) ∧
    s = before ++ t ++ after

theorem Spaced.refl (t : List Char) : Spaced t t := ⟨[], [], by simp⟩

theorem exists_append_of_trimEndBy (p : Char → Bool) (s : List Char) :
    ∃ after, (∀ c ∈ after, p c = true) ∧ s = trimEndBy p s ++ after := by
  refine ⟨(s.reverse.takeWhile p).reverse, fun c mem => ?_, ?_⟩
  · exact List.mem_takeWhile_imp (List.mem_reverse.mp mem)
  · rw [trimEndBy, ← List.reverse_append, List.takeWhile_append_dropWhile, List.reverse_reverse]

/-- Trimming cuts off blanks and nothing else. -/
theorem spaced_trim (s : List Char) : Spaced (trim s) s := by
  obtain ⟨after, blank, kept⟩ := exists_append_of_trimEndBy isBlank (s.dropWhile isBlank)
  refine ⟨s.takeWhile isBlank, after, fun c mem => List.mem_takeWhile_imp mem, blank, ?_⟩
  calc s = s.takeWhile isBlank ++ s.dropWhile isBlank := List.takeWhile_append_dropWhile.symm
    _ = s.takeWhile isBlank ++ (trim s ++ after) := congrArg _ kept
    _ = s.takeWhile isBlank ++ trim s ++ after := (List.append_assoc ..).symm

theorem trimEndBy_of_all {s : List Char} (all : ∀ c ∈ s, p c = true) : trimEndBy p s = [] := by
  rw [trimEndBy, List.reverse_eq_nil_iff, List.dropWhile_eq_nil_iff]
  exact fun c mem => all c (List.mem_reverse.mp mem)

theorem trim_eq_nil_iff {s : List Char} : trim s = [] ↔ ∀ c ∈ s, isBlank c = true := by
  constructor
  · intro empty c mem
    obtain ⟨before, after, blank, blank', same⟩ := spaced_trim s
    rw [empty, List.append_nil] at same
    rw [same] at mem
    exact (List.mem_append.mp mem).elim (blank c) (blank' c)
  · intro blank
    rw [trim, trimStartBy, List.dropWhile_eq_nil_iff.mpr blank]
    rfl

/-- A text whose ends are not blank is what is left once the blanks around it are cut. -/
theorem trim_of_spaced {t s : List Char} (h : Spaced t s) {first last : Char}
    (starts : t.head? = some first) (ends : t.getLast? = some last) (hf : isBlank first = false)
    (hl : isBlank last = false) : trim s = t := by
  obtain ⟨before, after, blank, blank', rfl⟩ := h
  rw [trim_append blank starts ends hf hl, trimEndBy_of_all blank', List.append_nil]

/-! ## Splitting -/

theorem pieces_ne_nil (s : List Char) : pieces p s ≠ [] := by
  fun_cases pieces p s <;> simp

theorem pieces_of_none {a : List Char} (none : ∀ c ∈ a, p c = false) : pieces p a = [a] := by
  induction a with
  | nil => rfl
  | cons c rest ih =>
    obtain ⟨first, rest⟩ := List.forall_mem_cons.mp none
    simp [pieces, first, ih rest]

/-- A separator ends the pieces before it, and those after it begin behind it. -/
theorem pieces_append_sep (s : List Char) {sep : Char} (h : p sep = true) (t : List Char) :
    pieces p (s ++ sep :: t) = pieces p s ++ pieces p t := by
  induction s with
  | nil => simp [pieces, h]
  | cons c rest ih =>
    obtain ⟨w, ws, split⟩ := List.exists_cons_of_ne_nil (pieces_ne_nil (p := p) rest)
    rw [split] at ih
    cases separates : p c <;> simp [pieces, separates, split, ih]

/-- The first piece goes up to the first separator. -/
theorem pieces_append {a : List Char} (none : ∀ c ∈ a, p c = false) {sep : Char} (h : p sep = true)
    (s : List Char) : pieces p (a ++ sep :: s) = a :: pieces p s := by
  rw [pieces_append_sep a h, pieces_of_none none, List.singleton_append]

/-- There is no separator in a piece. -/
theorem of_mem_pieces {s w : List Char} (mem : w ∈ pieces p s) : ∀ c ∈ w, p c = false := by
  induction s generalizing w with
  | nil =>
    obtain rfl := List.mem_singleton.mp mem
    exact List.forall_mem_nil (p · = false)
  | cons c rest ih =>
    obtain ⟨first, others, split⟩ := List.exists_cons_of_ne_nil (pieces_ne_nil (p := p) rest)
    rw [split] at ih
    cases separates : p c <;> grind [pieces]

/-- A text that is joined by separators has the parts that it was joined from. -/
theorem pieces_intersperse {parts : List (List Char)} (ne : parts ≠ [])
    (none : ∀ a ∈ parts, ∀ c ∈ a, p c = false) {sep : Char} (h : p sep = true) :
    pieces p (parts.intersperse [sep]).flatten = parts := by
  induction parts with
  | nil => exact absurd rfl ne
  | cons a rest ih =>
    obtain ⟨first, others⟩ := List.forall_mem_cons.mp none
    cases rest with
    | nil => simp [pieces_of_none first]
    | cons b rest =>
      have later := ih (List.cons_ne_nil b rest) others
      rw [List.intersperse_cons_cons, List.flatten_cons, List.flatten_cons, List.singleton_append,
        pieces_append first h, later]

/-- Pieces that are joined by their separator give the text. -/
theorem flatten_intersperse_pieces (sep : Char) (s : List Char) :
    ((pieces (· == sep) s).intersperse [sep]).flatten = s := by
  induction s with
  | nil => rfl
  | cons c rest ih =>
    obtain ⟨w, ws, split⟩ := List.exists_cons_of_ne_nil (pieces_ne_nil (p := (· == sep)) rest)
    rw [split] at ih
    by_cases isSep : c = sep
    · simp [pieces, isSep, split, ih]
    · have first : pieces (· == sep) (c :: rest) = (c :: w) :: ws := by
        simp [pieces, isSep, split]
      rw [first]
      cases ws <;> simp_all

/-- Texts in two parts are equal exactly if the parts are, where the parts behind the separator have
no further one. -/
theorem append_sep_inj {s t a b : List Char} {sep : Char} (ha : sep ∉ a) (hb : sep ∉ b) :
    s ++ sep :: a = t ++ sep :: b ↔ s = t ∧ a = b := by
  constructor
  · intro same
    rcases List.append_eq_append_iff.mp same with ⟨c, longer, rest⟩ | ⟨c, longer, rest⟩ <;>
      cases c <;> simp_all
  · rintro ⟨rfl, rfl⟩
    rfl

theorem words_of_none {a : List Char} (none : ∀ c ∈ a, isBlank c = false) (ne : a ≠ []) :
    words a = [a] := by
  simp [words, pieces_of_none none, ne]

theorem words_append_blank (s : List Char) {sep : Char} (h : isBlank sep = true) (t : List Char) :
    words (s ++ sep :: t) = words s ++ words t := by
  simp [words, pieces_append_sep s h]

theorem isBlank_of_mem_words {s w : List Char} (mem : w ∈ words s) :
    ∀ c ∈ w, isBlank c = false :=
  of_mem_pieces (List.mem_filter.mp mem).1

theorem words_append {a : List Char} (none : ∀ c ∈ a, isBlank c = false) (ne : a ≠ []) {sep : Char}
    (h : isBlank sep = true) (s : List Char) : words (a ++ sep :: s) = a :: words s := by
  rw [words_append_blank a h, words_of_none none ne, List.singleton_append]

end PgMetrics.Text
