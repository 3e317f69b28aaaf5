import PgMetrics.Proofs.Outcome
import PgMetrics.Proofs.Text.Blank
import PgMetrics.Proofs.Text.Number
import PgMetrics.Value.Basic

/-!
# Array literals

An array is written between braces, its elements joined by commas, with blanks around the braces and
around every element. A text that is not of this form is refused as a whole, and one that is gives
all of its elements.

## Main definitions

* `ArrayLiteral.Written` — the texts that stand for an array.

## Main results

* `ArrayLiteral.parse?_eq_some_iff` — what is read is what is written.
* `Value.integers?_text_iff` — arrays of integers, as text.
-/

namespace PgMetrics

namespace ArrayLiteral

variable {α : Type}

/-- A text of an array: in braces, with blanks around them, stand blanks only, or elements that are
joined by commas and have blanks around them. -/
inductive Written (element : List Char → α → Prop) : List Char → List α → Prop
  | empty {body s : List Char} (blank : ∀ c ∈ body, Text.isBlank c = true)
      (spaced : Text.Spaced ('\x7b' :: (body ++ ['\x7d'])) s) : Written element s []
  | elements {parts : List (List Char)} {s : List Char} {array : List α} (ne : parts ≠ [])
      (each : List.Forall₂ (fun part a => ∃ t, Text.Spaced t part ∧ element t a) parts array)
      (spaced : Text.Spaced (render parts) s) : Written element s array

/-- An element that can be told from its neighbours: it is not empty and has no comma and no
blank. -/
structure IsElement (element : List Char) : Prop where
  ne_nil : element ≠ []
  noComma : ∀ c ∈ element, (c == ',') = false
  noBlank : ∀ c ∈ element, Text.isBlank c = false

/-! ## Braces -/

/-- What stands between braces is what is left once blanks around them are cut. -/
theorem inner?_eq_some_iff {s body : List Char} :
    inner? s = some body ↔ Text.trim s = '\x7b' :: (body ++ ['\x7d']) := by
  unfold inner?
  cases trimmed : Text.trim s with
  | nil => simp [Text.dropStart?]
  | cons c rest =>
    by_cases opens : c = '\x7b'
    · subst opens
      rcases List.eq_nil_or_concat rest with rfl | ⟨front, last, rfl⟩
      · simp [Text.dropStart?]
      · by_cases closes : last = '\x7d' <;> simp [Text.dropStart?, closes]
    · have other : ¬ '\x7b' = c := fun h => opens h.symm
      simp [Text.dropStart?, opens, other]

theorem inner?_of_spaced {body s : List Char} (h : Text.Spaced ('\x7b' :: (body ++ ['\x7d'])) s) :
    inner? s = some body := by
  have ends : ('\x7b' :: (body ++ ['\x7d'])).getLast? = some '\x7d' := by
    rw [← List.cons_append, List.getLast?_concat]
  exact inner?_eq_some_iff.mpr (Text.trim_of_spaced h rfl ends (by decide) (by decide))

/-! ## Elements -/

namespace IsElement

variable {t part : List Char} (h : IsElement t) (spaced : Text.Spaced t part)
include h spaced

theorem trim_eq : Text.trim part = t :=
  Text.trim_of_spaced spaced (List.head?_eq_some_head h.ne_nil)
    (List.getLast?_eq_some_getLast h.ne_nil) (h.noBlank _ (List.head_mem _))
    (h.noBlank _ (List.getLast_mem _))

theorem noComma_of_spaced : ∀ c ∈ part, (c == ',') = false := by
  obtain ⟨before, after, blank, blank', rfl⟩ := spaced
  have comma {c : Char} (blank : Text.isBlank c = true) : (c == ',') = false := by
    refine beq_false_of_ne ?_
    rintro rfl
    exact absurd blank (by decide)
  intro c mem
  simp only [List.mem_append] at mem
  rcases mem with (mem | mem) | mem
  · exact comma (blank c mem)
  · exact h.noComma c mem
  · exact comma (blank' c mem)

/-- A text that begins with an element is not blank. -/
theorem trim_append_ne_nil (rest : List Char) : Text.trim (part ++ rest) ≠ [] := by
  intro empty
  have trimmed := h.trim_eq spaced
  have blank : ∀ c ∈ part, Text.isBlank c = true := fun c mem =>
    Text.trim_eq_nil_iff.mp empty c (List.mem_append_left _ mem)
  rw [Text.trim_eq_nil_iff.mpr blank] at trimmed
  exact h.ne_nil trimmed.symm

end IsElement

/-! ## Arrays -/

/-- Elements that are joined give an array, also if there are none. -/
theorem Written.of_parts {element : List Char → α → Prop} {parts : List (List Char)}
    {s : List Char} {array : List α}
    (each : List.Forall₂ (fun part a => ∃ t, Text.Spaced t part ∧ element t a) parts array)
    (spaced : Text.Spaced (render parts) s) : Written element s array := by
  cases each with
  | nil => exact .empty (List.forall_mem_nil (Text.isBlank · = true)) spaced
  | cons first others => exact .elements (List.cons_ne_nil _ _) (.cons first others) spaced

section Read

variable {read? : List Char → Option α} {element : List Char → α → Prop}
  (reads : ∀ t a, read? t = some a ↔ element t a) (apart : ∀ t a, element t a → IsElement t)
include reads

theorem written_of_parse? {s : List Char} {array : List α} (h : parse? read? s = some array) :
    Written element s array := by
  unfold parse? at h
  cases braces : inner? s with
  | none => simp [braces] at h
  | some body =>
    have spaced : Text.Spaced ('\x7b' :: (body ++ ['\x7d'])) s :=
      inner?_eq_some_iff.mp braces ▸ Text.spaced_trim s
    simp only [braces] at h
    split at h
    case isTrue empty =>
      cases h
      exact .empty (Text.trim_eq_nil_iff.mp (by simpa using empty)) spaced
    case isFalse =>
      have each := (mapM_eq_some.mp h).imp fun part a read =>
        (⟨_, Text.spaced_trim part, (reads _ a).mp read⟩ : ∃ t, Text.Spaced t part ∧ element t a)
      refine .elements (Text.pieces_ne_nil body) each ?_
      rw [render, Text.flatten_intersperse_pieces]
      exact spaced

include apart

theorem parse?_of_written {s : List Char} {array : List α} (h : Written element s array) :
    parse? read? s = some array := by
  unfold parse?
  cases h with
  | empty blank spaced =>
    rw [inner?_of_spaced spaced]
    simp [Text.trim_eq_nil_iff.mpr blank]
  | @elements parts s array ne each spaced =>
    rw [inner?_of_spaced spaced]
    have isElement : ∀ part ∈ parts, ∃ t, Text.Spaced t part ∧ IsElement t := by
      intro part mem
      obtain ⟨a, -, t, around, is⟩ := exists_of_forall₂_left each mem
      exact ⟨t, around, apart t a is⟩
    -- a body that begins with an element is not blank, so it is split into its parts
    have notBlank : Text.trim (parts.intersperse [',']).flatten ≠ [] := by
      obtain ⟨part, others, rfl⟩ := List.exists_cons_of_ne_nil ne
      obtain ⟨t, around, is⟩ := isElement part List.mem_cons_self
      cases others with
      | nil => simpa using is.trim_append_ne_nil around []
      | cons next others =>
        rw [List.intersperse_cons_cons, List.flatten_cons]
        exact is.trim_append_ne_nil around _
    have split : Text.pieces (· == ',') (parts.intersperse [',']).flatten = parts := by
      refine Text.pieces_intersperse ne (fun part mem => ?_) rfl
      obtain ⟨t, around, is⟩ := isElement part mem
      exact is.noComma_of_spaced around
    simp only [List.isEmpty_iff, notBlank, if_false, split]
    refine mapM_eq_some.mpr (each.imp fun part a => ?_)
    rintro ⟨t, around, is⟩
    rw [(apart t a is).trim_eq around]
    exact (reads t a).mpr is

/-- What is read as an array is a text of it. -/
theorem parse?_eq_some_iff {s : List Char} {array : List α} :
    parse? read? s = some array ↔ Written element s array :=
  ⟨written_of_parse? reads, parse?_of_written reads apart⟩

end Read

/-! ## Integers -/

theorem isElement_of_isNumeral {t : List Char} {i : Int} (h : Text.IsNumeral t i) :
    IsElement t := by
  have comma {c : Char} (digit : c.isDigit = true) : (c == ',') = false :=
    beq_false_of_ne (Text.ne_of_isDigit digit (by decide))
  cases h with
  | plain ne digits =>
    exact ⟨ne, fun c mem => comma (digits c mem),
      fun c mem => Text.isBlank_of_isDigit (digits c mem)⟩
  | plus ne digits | minus ne digits =>
    refine ⟨List.cons_ne_nil _ _, List.forall_mem_cons.mpr ⟨by decide, ?_⟩,
      List.forall_mem_cons.mpr ⟨by decide, ?_⟩⟩
    · exact fun c mem => comma (digits c mem)
    · exact fun c mem => Text.isBlank_of_isDigit (digits c mem)

/-- A numeral that stands for a 64-bit integer. -/
def IsInteger (t : List Char) (i : Int64) : Prop := Text.IsNumeral t i.toInt

end ArrayLiteral

namespace Value

/-- A text reads as an array of integers exactly if it is written as one. -/
theorem integers?_text_iff {s : String} {array : List Int64} :
    (Value.text s).integers? = some array ↔
      ArrayLiteral.Written ArrayLiteral.IsInteger s.toList array :=
  ArrayLiteral.parse?_eq_some_iff (fun _ _ => Text.integer64?_eq_some_iff)
    fun _ _ => ArrayLiteral.isElement_of_isNumeral

/-- The text of an array of integers reads as the array, also with blanks around the braces and
around the integers. -/
theorem integers?_of_spaced {parts : List (List Char)} {s : String} {array : List Int64}
    (each : List.Forall₂ (fun part i => Text.Spaced (Text.integer i.toInt) part) parts array)
    (spaced : Text.Spaced (ArrayLiteral.render parts) s.toList) :
    (Value.text s).integers? = some array := by
  refine integers?_text_iff.mpr (.of_parts (each.imp fun part i around => ?_) spaced)
  exact ⟨_, around, Text.isNumeral_integer i.toInt⟩

theorem integers?_text_label (array : List Int64) :
    (Value.text (Value.ints array).label).integers? = some array := by
  have each : List.Forall₂ (fun part i => Text.Spaced (Text.integer i.toInt) part)
      (array.map fun i => Text.integer i.toInt) array := by
    rw [List.forall₂_map_left_iff, List.forall₂_same]
    exact fun i _ => .refl _
  refine integers?_of_spaced each ?_
  rw [label, String.toList_ofList]
  exact .refl _

end Value

end PgMetrics
