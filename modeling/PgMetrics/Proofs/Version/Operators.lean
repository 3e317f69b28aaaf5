import Mathlib.Data.List.Flatten
import PgMetrics.Proofs.Outcome
import PgMetrics.Proofs.Text.Blank
import PgMetrics.Version.Range

/-!
# Operators in the text of a range

Each word of a range is read as one bound: an operator may stand at its front, and then a version,
behind which anything may follow. An operator that stands farther back, as where two bounds are
joined by a comma, is a part of what follows a version. It is dropped together with the version
behind it, and the text is accepted as a range with fewer bounds.

## Main definitions

* `VersionRange.operators` — the operators written in a text, each as long as it can be.
* `VersionBound.lead`, `VersionBound.hidden`, `VersionBound.visible` — the operator at the front of
  a word, those farther back, and what stands between.

## Main results

* `VersionRange.operators_eq_flatMap_words` — no operator reaches over a blank.
* `Version.parse?_takeWhile` — what follows an operator behind a version is not read.
* `VersionRange.operators_lead_or_are_dropped` — which operators are read and which are not.
* `VersionRange.Joined.not_operators_kept` — a range that lost a bound.
-/

namespace PgMetrics

/-- Whether an operator may begin with `c`. -/
def isSign (c : Char) : Bool := c == '>' || c == '<' || c == '='

theorem isSign_eq_false_iff {c : Char} :
    isSign c = false ↔ c ≠ '>' ∧ c ≠ '<' ∧ c ≠ '=' := by
  simp [isSign, and_assoc]

namespace VersionRange

/-- The operators written in a text, from the left and each as long as it can be. -/
def operators : List Char → List Relation
  | '>' :: '=' :: s => .atLeast :: operators s
  | '<' :: '=' :: s => .atMost :: operators s
  | '>' :: s => .above :: operators s
  | '<' :: s => .below :: operators s
  | '=' :: s => .equal :: operators s
  | _ :: s => operators s
  | [] => []

theorem operators_above {s : List Char} (other : ∀ u, s ≠ '=' :: u) :
    operators ('>' :: s) = .above :: operators s := operators.eq_3 s other

theorem operators_below {s : List Char} (other : ∀ u, s ≠ '=' :: u) :
    operators ('<' :: s) = .below :: operators s := operators.eq_4 s other

theorem operators_of_plain {c : Char} (plain : isSign c = false) (s : List Char) :
    operators (c :: s) = operators s := by
  obtain ⟨above, below, equal⟩ := isSign_eq_false_iff.mp plain
  apply operators.eq_6
  · exact fun _ same => absurd same above
  · exact fun _ same => absurd same below
  · exact above
  · exact below
  · exact equal

theorem operators_append_sep (s : List Char) {sep : Char} (plain : isSign sep = false)
    (t : List Char) : operators (s ++ sep :: t) = operators s ++ operators t := by
  -- an operator at the end of the text is not made longer by the separator
  have ends {s : List Char} (other : ∀ u, s ≠ '=' :: u) : ∀ u, s ++ sep :: t ≠ '=' :: u := by
    intro u same
    cases s with
    | nil =>
      cases same
      cases plain
    | cons c rest =>
      cases same
      exact other rest rfl
  fun_induction operators s with
  | case1 s ih => simp [operators, ih]
  | case2 s ih => simp [operators, ih]
  | case3 s other ih => rw [List.cons_append, operators_above (ends other), ih, List.cons_append]
  | case4 s other ih => rw [List.cons_append, operators_below (ends other), ih, List.cons_append]
  | case5 s ih => simp [operators, ih]
  | case6 c s above below notAbove notBelow notEqual ih =>
    have plain : isSign c = false := isSign_eq_false_iff.mpr ⟨notAbove, notBelow, notEqual⟩
    rw [List.cons_append, operators_of_plain plain, ih]
  | case7 => exact operators_of_plain plain t

theorem isSign_of_isBlank {c : Char} (h : Text.isBlank c = true) : isSign c = false := by
  rw [isSign_eq_false_iff]
  refine ⟨?_, ?_, ?_⟩ <;>
  · rintro rfl
    cases h

/-- The operators of a text are those of its words. -/
theorem operators_eq_flatMap_words (s : List Char) :
    operators s = (Text.words s).flatMap operators := by
  by_cases blank : ∃ c ∈ s, Text.isBlank c = true
  · obtain ⟨c, mem, isBlank⟩ := blank
    obtain ⟨before, after, rfl⟩ := List.append_of_mem mem
    rw [operators_append_sep before (isSign_of_isBlank isBlank),
      Text.words_append_blank before isBlank, List.flatMap_append,
      ← operators_eq_flatMap_words before, ← operators_eq_flatMap_words after]
  · cases s with
    | nil => rfl
    | cons c rest =>
      rw [Text.words_of_none (by simpa using blank) (List.cons_ne_nil c rest)]
      simp
termination_by s.length

end VersionRange

namespace VersionBound

open VersionRange (operators)

/-- The operator at the front of a word, if there is one. -/
def lead (word : List Char) : List Relation :=
  if word.head?.any isSign then [(relationOf word).1] else []

/-- The operators farther back in a word. -/
def hidden (word : List Char) : List Relation := operators (relationOf word).2

/-- What stands behind the operator at the front of a word and before any other. -/
def visible (word : List Char) : List Char := (relationOf word).2.takeWhile fun c => !isSign c

/-- A word that begins with no operator is read as it stands. -/
theorem lead_of_none {word : List Char} (above : ∀ s, word ≠ '>' :: s)
    (below : ∀ s, word ≠ '<' :: s) (equal : ∀ s, word ≠ '=' :: s) :
    word.head?.any isSign = false := by
  cases word with
  | nil => rfl
  | cons c rest =>
    refine isSign_eq_false_iff.mpr ⟨?_, ?_, ?_⟩
    · exact fun same => above rest (same ▸ rfl)
    · exact fun same => below rest (same ▸ rfl)
    · exact fun same => equal rest (same ▸ rfl)

theorem operators_eq_append (word : List Char) : operators word = lead word ++ hidden word := by
  unfold lead hidden
  fun_cases relationOf word with
  | case1 s | case2 s | case5 s => rfl
  | case3 s other => exact VersionRange.operators_above fun u same => other u (same ▸ rfl)
  | case4 s other => exact VersionRange.operators_below fun u same => other u (same ▸ rfl)
  | case6 s _ _ above below equal => rw [lead_of_none above below equal]; rfl

theorem lead_eq (word : List Char) :
    lead word = [(relationOf word).1] ∨ lead word = [] ∧ (relationOf word).1 = .equal := by
  unfold lead
  fun_cases relationOf word with
  | case6 s _ _ above below equal => exact .inr ⟨by rw [lead_of_none above below equal]; rfl, rfl⟩
  | _ => exact .inl rfl

end VersionBound

/-! ## What is read of a word -/

namespace Version

theorem isSign_of_isNumeric {c : Char} (h : isNumeric c = true) : isSign c = false := by
  rw [isSign_eq_false_iff]
  refine ⟨?_, ?_, ?_⟩ <;>
  · rintro rfl
    cases h

/-- Digits and points end before an operator, whatever follows it. -/
theorem numericPart_takeWhile {s : List Char} (visible : ∀ c ∈ s, Text.isBlank c = false) :
    numericPart (s.takeWhile fun c => !isSign c) = numericPart s := by
  have visible' : ∀ c ∈ s.takeWhile fun c => !isSign c, Text.isBlank c = false := fun c mem =>
    visible c ((List.takeWhile_sublist _).subset mem)
  have letter : (Text.dropStart? ['v'] (s.takeWhile fun c => !isSign c)).getD
        (s.takeWhile fun c => !isSign c) =
      ((Text.dropStart? ['v'] s).getD s).takeWhile fun c => !isSign c := by
    cases s with
    | nil => rfl
    | cons c rest =>
      by_cases letter : c = 'v'
      · subst letter
        rfl
      · have other : ¬ 'v' = c := fun same => letter same.symm
        cases sign : isSign c <;> simp [Text.dropStart?, sign, other]
  have numeric (c : Char) : (isNumeric c = true ∧ (!isSign c) = true) ↔ isNumeric c = true := by
    simpa using isSign_of_isNumeric
  unfold numericPart
  dsimp only
  rw [Text.trim_of_none visible, Text.trim_of_none visible', letter, List.takeWhile_takeWhile]
  simp only [numeric, Bool.decide_eq_true]

/-- What follows an operator behind a version is not read. -/
theorem parse?_takeWhile {s : List Char} (visible : ∀ c ∈ s, Text.isBlank c = false) :
    parse? (s.takeWhile fun c => !isSign c) = parse? s := by
  unfold parse?
  rw [numericPart_takeWhile visible]

end Version

namespace VersionBound

theorem relationOf_suffix (word : List Char) : (relationOf word).2 <:+ word := by
  fun_cases relationOf word with
  | case1 s | case2 s => exact (List.suffix_cons _ _).trans (List.suffix_cons _ _)
  | case3 s | case4 s | case5 s => exact List.suffix_cons _ _
  | case6 s => exact List.suffix_rfl

/-- The bound of a word: the relation at its front, and the version before any other operator. -/
theorem parse_eq_ok_iff {word : List Char} (unbroken : ∀ c ∈ word, Text.isBlank c = false)
    {b : VersionBound} :
    parse word = .ok b ↔
      (relationOf word).1 = b.relation ∧ Version.parse? (visible word) = some b.version := by
  have read : Version.parse? (visible word) = Version.parse? (relationOf word).2 :=
    Version.parse?_takeWhile fun c mem => unbroken c ((relationOf_suffix word).subset mem)
  rw [read, parse]
  cases Version.parse? (relationOf word).2 with
  | none => simp
  | some v =>
    obtain ⟨relation, version⟩ := b
    simp

/-- The relation of a bound stands at the front of its word; without an operator there it is
equality. -/
def Leads (word : List Char) (b : VersionBound) : Prop :=
  lead word = [b.relation] ∨ lead word = [] ∧ b.relation = .equal

theorem leads_of_parse {word : List Char} {b : VersionBound} (h : parse word = .ok b) :
    Leads word b := by
  have relation : b.relation = (relationOf word).1 := by
    unfold parse at h
    split at h
    · cases h
      rfl
    · cases h
  unfold Leads
  rw [relation]
  exact lead_eq word

theorem sublist_of_leads {words : List (List Char)} {r : List VersionBound}
    (h : List.Forall₂ Leads words r) : (words.flatMap lead).Sublist (r.map (·.relation)) := by
  induction h with
  | nil => exact .slnil
  | @cons word b words r first _ ih =>
    rw [List.flatMap_cons, List.map_cons]
    rcases first with given | ⟨none, -⟩
    · rw [given]
      exact ih.cons_cons b.relation
    · rw [none]
      exact ih.cons b.relation

/-- Words that differ at most from their second operator on. -/
def Alike (word other : List Char) : Prop :=
  (relationOf word).1 = (relationOf other).1 ∧ visible word = visible other

/-- Words that are alike are the same bounds. -/
theorem forall₂_of_alike {words others : List (List Char)} {r : List VersionBound}
    (unbroken : ∀ word ∈ words, ∀ c ∈ word, Text.isBlank c = false)
    (unbroken' : ∀ word ∈ others, ∀ c ∈ word, Text.isBlank c = false)
    (alike : List.Forall₂ Alike words others)
    (read : List.Forall₂ (fun word b => parse word = .ok b) words r) :
    List.Forall₂ (fun word b => parse word = .ok b) others r := by
  induction alike generalizing r with
  | nil => exact read
  | @cons word other words others first _ ih =>
    obtain ⟨b, range, bound, later, rfl⟩ := List.forall₂_cons_left_iff.mp read
    obtain ⟨here, unbroken⟩ := List.forall_mem_cons.mp unbroken
    obtain ⟨here', unbroken'⟩ := List.forall_mem_cons.mp unbroken'
    obtain ⟨relation, visible⟩ := first
    refine .cons ?_ (ih unbroken unbroken' later)
    rw [parse_eq_ok_iff here, relation, visible] at bound
    exact (parse_eq_ok_iff here').mpr bound

end VersionBound

namespace VersionRange

open VersionBound (lead hidden)

/-- A text is accepted if each of its words is a bound and there is room between the bounds. -/
theorem parse_eq_ok_iff {s : List Char} {r : VersionRange} :
    parse s = .ok r ↔
      List.Forall₂ (fun word b => VersionBound.parse word = .ok b) (Text.words s) r ∧
        (interval r).isEmpty = false := by
  unfold parse
  rw [bind_eq_ok]
  constructor
  · rintro ⟨range, read, h⟩
    split at h
    case isTrue => cases h
    case isFalse room =>
      cases h
      exact ⟨mapM_eq_ok.mp read, by simpa using room⟩
  · rintro ⟨read, room⟩
    exact ⟨r, mapM_eq_ok.mpr read, by simp [room]⟩

theorem parse_of_alike {s t : List Char} {r : VersionRange} (accepted : parse s = .ok r)
    (alike : List.Forall₂ VersionBound.Alike (Text.words s) (Text.words t)) : parse t = .ok r := by
  obtain ⟨read, room⟩ := parse_eq_ok_iff.mp accepted
  have unbroken (u : List Char) : ∀ word ∈ Text.words u, ∀ c ∈ word, Text.isBlank c = false :=
    fun _ => Text.isBlank_of_mem_words
  exact parse_eq_ok_iff.mpr
    ⟨VersionBound.forall₂_of_alike (unbroken s) (unbroken t) alike read, room⟩

/-- No word has an operator farther back exactly if all operators stand at the front of words. -/
theorem hidden_eq_nil_iff (words : List (List Char)) :
    (∀ word ∈ words, hidden word = []) ↔ words.flatMap operators = words.flatMap lead := by
  induction words with
  | nil => simp
  | cons word rest ih =>
    have part : (rest.flatMap lead).Sublist (rest.flatMap operators) := by
      refine List.Sublist.flatMap_right rest fun other _ => ?_
      rw [VersionBound.operators_eq_append]
      exact List.sublist_append_left _ _
    have shorter := part.length_le
    rw [List.forall_mem_cons, ih, List.flatMap_cons, List.flatMap_cons,
      VersionBound.operators_eq_append, List.append_assoc, List.append_cancel_left_eq]
    constructor
    · rintro ⟨none, others⟩
      rw [none, others, List.nil_append]
    · intro same
      have lengths := congrArg List.length same
      rw [List.length_append] at lengths
      have none : hidden word = [] := List.length_eq_zero_iff.mp (by omega)
      exact ⟨none, by rwa [none, List.nil_append] at same⟩

/-- Each word of an accepted text is one bound. The operator at the front of the word is that of the
bound, and a word without one is an equality. So all operators of the text are those of bounds,
in their order, exactly if none stands farther back in a word. Those that do are dropped with all
that follows them in the word: a text that differs only there is the same range. -/
theorem operators_lead_or_are_dropped {s : List Char} {r : VersionRange}
    (accepted : parse s = .ok r) :
    List.Forall₂ VersionBound.Leads (Text.words s) r ∧
    operators s = (Text.words s).flatMap (fun word => lead word ++ hidden word) ∧
    ((∀ word ∈ Text.words s, hidden word = []) ↔ operators s = (Text.words s).flatMap lead) ∧
    ((Text.words s).flatMap lead).Sublist (r.map (·.relation)) ∧
    ∀ t, List.Forall₂ VersionBound.Alike (Text.words s) (Text.words t) → parse t = .ok r := by
  have leads : List.Forall₂ VersionBound.Leads (Text.words s) r :=
    (parse_eq_ok_iff.mp accepted).1.imp fun _ _ => VersionBound.leads_of_parse
  refine ⟨leads, ?_, ?_, VersionBound.sublist_of_leads leads, fun t => parse_of_alike accepted⟩
  · rw [operators_eq_flatMap_words]
    exact List.flatMap_congr fun word _ => VersionBound.operators_eq_append word
  · rw [operators_eq_flatMap_words]
    exact hidden_eq_nil_iff _

namespace Joined

/-- Two bounds that exclude each other, joined by a comma. -/
def text : List Char := ">=10.0.0,<9.0.0".toList

/-- Only the first one is read. -/
def range : VersionRange := atLeast ⟨10, 0, 0⟩

theorem parse_text : parse text = .ok range := by decide +kernel

/-- Not every operator of an accepted text is that of a bound. -/
theorem not_operators_kept :
    ¬ ∀ (s : List Char) (r : VersionRange), parse s = .ok r →
      (∀ o ∈ operators s, ∃ b ∈ r, b.relation = o) ∧ (operators s).length ≤ r.length := by
  intro kept
  obtain ⟨-, count⟩ := kept text range parse_text
  exact absurd count (by decide)

/-- The second bound stands behind the version of the first. It is dropped, whatever it is; with a
space in place of the comma the text is refused. -/
theorem dropped_of_joined :
    parse text = .ok range ∧ operators text = [.atLeast, .below] ∧
      ((Text.words text).flatMap lead).Sublist [.atLeast] ∧
      (∀ t, List.Forall₂ VersionBound.Alike (Text.words text) (Text.words t) →
        parse t = .ok range) ∧
      parse ">=10.0.0 <9.0.0".toList = .error (.unsatisfiable ">=10.0.0 <9.0.0".toList) := by
  obtain ⟨-, -, -, front, alike⟩ := operators_lead_or_are_dropped parse_text
  exact ⟨parse_text, by decide, front, alike, by decide +kernel⟩

end Joined

end VersionRange

end PgMetrics
